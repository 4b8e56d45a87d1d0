import Targeting.Proofs.SelectorText

/-!
# Symbols as shorthands

All players are everyone of the player type, and the nearest player is all
players with a count of one, unless the arguments count themselves. Either
shorthand can be written out in the arguments.

## Main result

`Chooser.symbols_are_shorthands`: a symbol and what it stands for choose the
same entities in every context, and ask the pool the same.
-/
namespace Targeting

open Argument Text

/-! ### A type as an argument -/

/-- A type id that an argument list takes as it is: it has no commas, braces, brackets or quotes, is
not negated and has no blanks around it. -/
structure PlainTypeId (id : String) : Prop where
  undelimited : delimiters id.toList = []
  unquoted : '"' ∉ id.toList
  positive : id.toList.head? ≠ some '!'
  trimmed : trim id.toList = id.toList

/-- The argument that asks for a type. -/
def typeArgument (id : String) : List Char := "type".toList ++ '=' :: id.toList

theorem Argument.unquote_of_unquoted {cs : List Char} (unquoted : '"' ∉ cs) : unquote cs = cs := by
  unfold unquote
  split
  next => exact absurd List.mem_cons_self unquoted
  next => rfl

theorem Argument.splitNegation_of_plain {cs : List Char} (unquoted : '"' ∉ cs)
    (positive : cs.head? ≠ some '!') : splitNegation cs = (false, cs) := by
  unfold splitNegation
  rw [unquote_of_unquoted unquoted]
  split
  next => exact absurd rfl positive
  next => rfl

namespace Query

theorem constraints_typeArgument {id : String} (plain : PlainTypeId id) :
    constraints (typeArgument id) = [.type false id] := by
  have known : Key.ofText? "type" = some .type := by decide +kernel
  have read := constraints_argument known (isWhole_of_undelimited plain.undelimited)
  rw [plain.trimmed, Constraint.ofValue?] at read
  simp only [splitNegation_of_plain plain.unquoted plain.positive, String.ofList_toList] at read
  exact read

/-! ### Counts -/

theorem count_foldl_add_eq_none_iff (constraints : List Constraint) (q : Query) :
    (constraints.foldl Query.add q).count = none ↔
      q.count = none ∧ ∀ limit, .count (some limit) ∉ constraints := by
  induction constraints generalizing q with
  | nil => simp
  | cons first rest ih =>
    have here : (q.add first).count = none ↔ q.count = none ∧ ∀ limit, first ≠ .count (some limit) := by
      cases first with
      | type negated | name negated | tag negated | family negated | gameMode negated =>
        cases negated <;> simp [Query.add]
      | count limit => cases limit <;> simp [Query.add]
      | _ => simp [Query.add]
    simp only [List.foldl_cons, ih, here, List.mem_cons, not_or, forall_and, and_assoc, ne_eq, eq_comm]

end Query

namespace Chooser

/-- Two choosers choose the same in every context, and ask the pool the same. -/
def Agree (left right : Chooser) : Prop :=
  ∀ context, outcome (left.choose context) = outcome (right.choose context) ∧
    left.poolQuery? context = right.poolQuery? context

/-- What the pool is asked is all that it learns of a choice. -/
theorem outcome_choose_of_poolQuery (c : Chooser) (context : Context)
    (pooled : c.selector.symbol ≠ .self) : outcome (c.choose context) =
      (c.poolQuery? context).bind fun asked? => match asked? with
        | none => .ok []
        | some asked => match context.host.pool asked with
          | .error _ => .ok []
          | .ok candidates =>
            (outcome (passing c.query asked.origin c.settings context.host.scoreboard
              candidates)).bind (c.arrange context asked.origin) := by
  rw [choose, poolQuery?, if_neg pooled, if_neg pooled, outcome_choosePool]
  cases c.query.originIn context <;> rfl

/-- Two symbols that take whoever passes agree where their queries do. -/
theorem agree_of_query {left right : Symbol} {arguments others : List Char} {settings : Settings}
    (leftPooled : left ≠ .self ∧ left ≠ .randomPlayer)
    (rightPooled : right ≠ .self ∧ right ≠ .randomPlayer)
    (query : (written left arguments settings).query = (written right others settings).query) :
    (written left arguments settings).Agree (written right others settings) := by
  intro context
  have asked : (written left arguments settings).poolQuery? context =
      (written right others settings).poolQuery? context := by
    simp [poolQuery?, query, leftPooled, rightPooled]
  have arranged : (written left arguments settings).arrange context =
      (written right others settings).arrange context := by
    funext origin accepted
    simp [arrange, Query.sampleSize, query, leftPooled, rightPooled]
  refine ⟨?_, asked⟩
  rw [outcome_choose_of_poolQuery _ context (by simp [leftPooled]),
    outcome_choose_of_poolQuery _ context (by simp [rightPooled]), asked, arranged, query,
    settings_written, settings_written]

/-- All players are everyone of the player type, written out as the last argument. The nearest player
is all players if the arguments give a count that takes effect, and all players with a count of one
otherwise. -/
theorem symbols_are_shorthands (settings : Settings) (plain : PlainTypeId settings.playerTypeId)
    {arguments : List Char} (level : (({} : Depth).after arguments).isLevel = true) :
    let counted := ∃ limit, Constraint.count (some limit) ∈ Query.constraints arguments
    (written .players arguments settings).Agree
        (written .everyone (arguments ++ ',' :: typeArgument settings.playerTypeId) settings) ∧
      (counted →
        (written .nearestPlayer arguments settings).Agree (written .players arguments settings)) ∧
      (¬ counted → (written .nearestPlayer arguments settings).Agree
        (written .players (arguments ++ ',' :: "c=1".toList) settings)) := by
  intro counted
  have counts := Query.count_foldl_add_eq_none_iff (Query.constraints arguments) {}
  refine ⟨agree_of_query (by decide) (by decide) ?_,
    fun counted => agree_of_query (by decide) (by decide) ?_,
    fun uncounted => agree_of_query (by decide) (by decide) ?_⟩
  · rw [query_written, query_written, Query.constraints_append_comma level,
      Query.constraints_typeArgument plain, List.foldl_append]
    rfl
  · obtain ⟨limit, member⟩ := counted
    have kept : ((Query.constraints arguments).foldl Query.add {}).count ≠ none := fun none =>
      (counts.mp none).2 limit member
    rw [query_written, query_written]
    obtain ⟨last, given⟩ := Option.ne_none_iff_exists'.mp kept
    simp [Query.forSymbol, given]
  · have missing : ((Query.constraints arguments).foldl Query.add {}).count = none :=
      counts.mpr ⟨rfl, fun limit member => uncounted ⟨limit, member⟩⟩
    have one : Query.constraints "c=1".toList = [.count (some ⟨.closest, 1⟩)] := by decide +kernel
    rw [query_written, query_written, Query.constraints_append_comma level, one, List.foldl_append]
    simp [Query.forSymbol, Query.add, missing]

/-- Of two counts the one that is not zero takes effect; a tag is no count. -/
theorem symbols_are_shorthands_of_tagged :
    (written .players "tag=a".toList {}).Agree
        (written .everyone ("tag=a".toList ++ ',' :: typeArgument "minecraft:player") {}) ∧
      (written .nearestPlayer "c=0,c=-2".toList {}).Agree (written .players "c=0,c=-2".toList {}) ∧
      (written .nearestPlayer "tag=a".toList {}).Agree
        (written .players ("tag=a".toList ++ ',' :: "c=1".toList) {}) := by
  have plain : PlainTypeId ({} : Settings).playerTypeId := by
    constructor <;> decide +kernel
  have tagLevel : (({} : Depth).after "tag=a".toList).isLevel = true := by decide +kernel
  have countLevel : (({} : Depth).after "c=0,c=-2".toList).isLevel = true := by decide +kernel
  have counted : ∃ limit, Constraint.count (some limit) ∈ Query.constraints "c=0,c=-2".toList :=
    ⟨⟨.farthest, 2⟩, by decide +kernel⟩
  have uncounted : ¬ ∃ limit, Constraint.count (some limit) ∈ Query.constraints "tag=a".toList := by
    have read : Query.constraints "tag=a".toList = [.tag false "a"] := by decide +kernel
    rw [read]
    simp
  exact ⟨(symbols_are_shorthands {} plain tagLevel).1,
    (symbols_are_shorthands {} plain countLevel).2.1 counted,
    (symbols_are_shorthands {} plain tagLevel).2.2 uncounted⟩

end Chooser

end Targeting
