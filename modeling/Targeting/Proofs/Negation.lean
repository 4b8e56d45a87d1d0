import Targeting.Proofs.Conjunction
import Targeting.Proofs.Desugaring

/-!
# Negated values

An exclamation mark before a value asks for the opposite. Quotes may stand
around the value or around the mark as well; all that matters is the value.

## Main result

`Query.negation_is_complement`.

## Proof strategy

A query of one argument looks at an entity under one aspect, so whether it
accepts the entity is decided by the check of that aspect alone
(`Entity.passesAlone_eq`). There a value and its negation are compared.
-/
namespace Targeting

open Argument Text

/-! ### Spellings -/

/-- A value that an argument list takes as it is, and that is not empty. -/
structure PlainValue (value : String) : Prop extends PlainTypeId value where
  filled : value ≠ ""

namespace Argument

def inQuotes (cs : List Char) : List Char := '"' :: (cs ++ ['"'])

/-- The ways to write that a value is negated. -/
def negations (value : List Char) : List (List Char) :=
  ['!' :: value, '!' :: inQuotes value, inQuotes ('!' :: value)]

@[simp] theorem unquote_inQuotes (cs : List Char) : unquote (inQuotes cs) = cs := by
  simp [unquote, inQuotes]

@[simp] theorem trim_inQuotes (cs : List Char) : trim (inQuotes cs) = inQuotes cs :=
  trim_between (by decide) (by decide) cs

theorem delimiters_negation {value negation : List Char} (spelled : negation ∈ negations value) :
    delimiters negation = delimiters value := by
  simp only [negations, List.mem_cons, List.not_mem_nil, or_false] at spelled
  rcases spelled with rfl | rfl | rfl <;> simp [delimiters, inQuotes, isDelimiter]

theorem splitNegation_of_mark (value : List Char) :
    splitNegation ('!' :: value) = (true, unquote (trim value)) := rfl

/-- However a value is negated, what is read is that it is, and the value. -/
theorem splitNegation_negation {value negation : List Char} (unquoted : '"' ∉ value)
    (trimmed : trim value = value) (spelled : negation ∈ negations value) :
    splitNegation (trim negation) = (true, value) := by
  have bare := unquote_of_unquoted unquoted
  simp only [negations, List.mem_cons, List.not_mem_nil, or_false] at spelled
  rcases spelled with rfl | rfl | rfl
  · rw [trim_cons_of_trimmed (by decide) trimmed, splitNegation_of_mark, trimmed, bare]
  · rw [trim_cons_of_trimmed (by decide) (trim_inQuotes value), splitNegation_of_mark,
      trim_inQuotes, unquote_inQuotes]
  · rw [trim_inQuotes]
    simp [splitNegation, trimmed, bare]

end Argument

/-! ### Score entries -/

namespace Argument

def inBraces (cs : List Char) : List Char := '{' :: (cs ++ ['}'])

theorem insideBraces?_inBraces (cs : List Char) : insideBraces? (inBraces cs) = some cs := by
  simp [insideBraces?, inBraces]

theorem delimiters_inBraces (cs : List Char) : delimiters (inBraces cs) = inBraces (delimiters cs) :=
  congrArg ('{' :: ·) (delimiters_append cs ['}'])

end Argument

/-- A text that stands for an objective: it has no equals sign, and neither the entry nor the argument
that it stands in is split within it. -/
structure IsObjective (objective : List Char) : Prop where
  unequal : '=' ∉ objective
  entry : IsWhole objective
  argument : IsWhole (inBraces objective)

/-- The filter of an objective and a value, if the one is not empty and the other is a range with a
bound. -/
def ScoreFilter.ofParts? (objective : List Char) (signed : Bool × List Char) : Option ScoreFilter :=
  match IntRange.parse? signed.2 with
  | none => none
  | some range =>
    if objective = [] ∨ range.isOpen = true then none
    else some { objective := String.ofList objective, range, negated := signed.1 }

theorem ScoreFilter.toOption_read {objective : List Char} (unequal : '=' ∉ objective)
    (value : List Char) : (ScoreFilter.read (trim (objective ++ '=' :: value))).toOption =
      ofParts? (unquote (trim objective)) (splitNegation (trim value)) := by
  rw [ScoreFilter.read, splitAssignment_trim unequal]
  simp only [List.isEmpty_iff, ofParts?]
  by_cases nameless : unquote (trim objective) = []
  · rw [if_pos nameless]
    cases IntRange.parse? (splitNegation (trim value)).2 <;> simp [nameless, Except.toOption]
  · rw [if_neg nameless]
    cases IntRange.parse? (splitNegation (trim value)).2 with
    | none => rfl
    | some range => cases bounds : range.isOpen <;> simp [nameless, bounds, Except.toOption]

namespace Query

theorem value_read_argument {spelling : String} {key : Key}
    (known : Key.ofText? spelling = some key) {value : List Char} (whole : IsWhole value) :
    (Query.read (argument spelling value) "").value =
      (Constraint.ofValue? key (trim value)).elim {} (Query.add {}) :=
  value_read_of_holds known (holds_argument known whole) ""

/-- The argument of a scores value with a single entry. -/
def scoresArgument (objective value : List Char) : List Char :=
  argument "scores" (inBraces (objective ++ '=' :: value))

theorem value_read_scores {objective value : List Char} (named : IsObjective objective)
    (undelimited : delimiters value = []) : (Query.read (scoresArgument objective value) "").value =
      { scores := (ScoreFilter.ofParts? (unquote (trim objective))
        (splitNegation (trim value))).toList } := by
  have known : Key.ofText? "scores" = some .scores := by decide +kernel
  -- The value has no delimiters, so the entry holds together as its objective does.
  have same : delimiters (objective ++ '=' :: value) = delimiters objective := by
    rw [delimiters_append, delimiters_cons_of_plain rfl, undelimited, List.append_nil]
  have whole : IsWhole (inBraces (objective ++ '=' :: value)) := by
    refine (isWhole_congr ?_).mpr named.argument
    rw [delimiters_inBraces, same, delimiters_inBraces]
  have single : split (objective ++ '=' :: value) = [trim (objective ++ '=' :: value)] :=
    split_of_isWhole ((isWhole_congr same).mpr named.entry) (trim_assignment_ne_nil objective value)
  have trimmed : trim (inBraces (objective ++ '=' :: value)) = inBraces (objective ++ '=' :: value) :=
    trim_between (by decide) (by decide) _
  rw [scoresArgument, value_read_argument known whole, trimmed, Constraint.ofValue?]
  simp only [insideBraces?_inBraces, single, Option.map_some, Option.elim_some, List.filterMap_cons,
    List.filterMap_nil, ScoreFilter.toOption_read named.unequal]
  cases ScoreFilter.ofParts? (unquote (trim objective)) (splitNegation (trim value)) <;> rfl

end Query

/-! ### Checks of a single argument -/

namespace Check

/-- One of the checks holds, the other does not, and neither breaks off. -/
def ExactlyOne (first second : Check) : Prop := ∃ holds, first = .ok holds ∧ second = .ok !holds

/-- Neither of the checks holds, and neither breaks off. -/
def Neither (first second : Check) : Prop := first = .ok false ∧ second = .ok false

theorem all_of_single {α : Type} {check : α → Check} {items : List α} {one : α}
    (distinct : items.Nodup) (member : one ∈ items)
    (others : ∀ item ∈ items, item ≠ one → check item = .ok true) :
    Check.all (items.map check) = check one := by
  induction items with
  | nil => cases member
  | cons first rest ih =>
    obtain ⟨absent, distinct⟩ := List.nodup_cons.mp distinct
    rw [List.map_cons, all_cons]
    by_cases here : first = one
    · subst here
      have passed : Check.all (rest.map check) = .ok true := by
        rw [all_eq_ok_true_iff, List.forall_mem_map]
        intro item among
        exact others item (by simp [among]) fun same => absent (same ▸ among)
      rw [passed, and_true]
    · have behind : one ∈ rest := (List.mem_cons.mp member).resolve_left (Ne.symm here)
      rw [others first (by simp) here, true_and]
      exact ih distinct behind fun item among => others item (by simp [among])

end Check

/-- The aspect under which a value that may be negated is asked for. -/
def Constraint.aspect? : Constraint → Option Aspect
  | .type _ _ => some .type
  | .name _ _ => some .name
  | .tag _ _ => some .tags
  | .family false _ => some .families
  | .family true _ => some .excludedFamilies
  | .gameMode _ _ => some .player
  | .scores _ => some .scores
  | _ => none

namespace Entity

/-- The check of the entity by a single constraint. -/
def passesAlone (e : Entity) (d : Demand) (c : Constraint) : Check :=
  outcome (e.passes (Query.add {} c) d.origin d.settings d.board)

variable {e : Entity}

theorem check_add_of_ne {c : Constraint} {aspect other : Aspect} (looks : c.aspect? = some aspect)
    (apart : other ≠ aspect) (d : Demand) :
    e.check (d.asking (Query.add {} c)) other = e.check (d.asking {}) other := by
  -- Each constraint sets one field, and only the check of its own aspect reads that.
  cases c with
  | type negated | name negated | tag negated | family negated | gameMode negated =>
    cases negated <;> cases looks <;> cases other <;> first | rfl | exact absurd rfl apart
  | scores => cases looks; cases other <;> first | rfl | exact absurd rfl apart
  | _ => cases looks

variable (answers : e.Answers) (d : Demand)

include answers

/-- With a single constraint the check of its aspect decides. -/
theorem passesAlone_eq {c : Constraint} (aspect : Aspect) (looks : c.aspect? = some aspect) :
    e.passesAlone d c = e.check (d.asking (Query.add {} c)) aspect := by
  have placed : (d.asking {}).Placed := ⟨nofun, nofun⟩
  apply (e.outcome_passes (d.asking (Query.add {} c))).trans
  apply Check.all_of_single (by decide) aspect.mem_ofCandidate
  intro other _ apart
  rw [check_add_of_ne looks apart, e.check_eq_ok_true_iff _ placed]
  exact accepted_of_unconstrained answers other

/-- The one check of a text comes out the other way round if the text is negated. -/
theorem exactlyOne_of_text {value : String} (filled : value ≠ "")
    {make : Bool → String → Constraint} (text : make ∈ [.type, .name, .tag, .family]) :
    Check.ExactlyOne (e.passesAlone d (make false value)) (e.passesAlone d (make true value)) := by
  simp only [List.mem_cons, List.not_mem_nil, or_false] at text
  rcases text with rfl | rfl | rfl | rfl
  · obtain ⟨own, typed⟩ := answers.typeId
    rw [passesAlone_eq answers d .type rfl, passesAlone_eq answers d .type rfl]
    simp [Check.ExactlyOne, check, hasType_eq, typed, Except.map, Query.add, filled]
  · obtain ⟨own, called⟩ := answers.nameTag
    rw [passesAlone_eq answers d .name rfl, passesAlone_eq answers d .name rfl]
    simp [Check.ExactlyOne, check, hasName_eq, called, Except.map, Query.add]
  · obtain ⟨own, tagged⟩ := answers.tags
    rw [passesAlone_eq answers d .tags rfl, passesAlone_eq answers d .tags rfl]
    simp [Check.ExactlyOne, check, hasTags_eq, tagged, Except.map, Query.add]
  · obtain ⟨member, answered⟩ := answers.inFamily value
    rw [passesAlone_eq answers d .families rfl, passesAlone_eq answers d .excludedFamilies rfl]
    simp [Check.ExactlyOne, check, inFamilies, outsideFamilies, answered, Except.map, Query.add,
      Check.all_cons]

theorem exactlyOne_of_mode (player : e.isPlayer = .ok true) (mode : GameMode) :
    Check.ExactlyOne (e.passesAlone d (.gameMode false mode))
      (e.passesAlone d (.gameMode true mode)) := by
  obtain ⟨own, playing⟩ := answers.gameMode
  rw [passesAlone_eq answers d .player rfl, passesAlone_eq answers d .player rfl]
  -- A player without a game mode is in no mode that is wanted, and in none that is excluded.
  refine ⟨decide (own = some mode), ?_, ?_⟩ <;> cases own <;>
    simp [check, isWantedPlayer, hasGameMode_eq, hasLevel_eq, player, playing, Query.add,
      Bounds.isOpen, Except.map, Check.all_cons]

theorem neither_of_mode (player : e.isPlayer = .ok false) (mode : GameMode) :
    Check.Neither (e.passesAlone d (.gameMode false mode))
      (e.passesAlone d (.gameMode true mode)) := by
  rw [passesAlone_eq answers d .player rfl, passesAlone_eq answers d .player rfl]
  constructor <;> simp [check, isWantedPlayer, Query.add, player, Check.all_cons]

theorem exactlyOne_of_score {objective : String} {score : Int}
    (held : e.scoreOn objective d.board = .ok score) (range : IntRange) :
    Check.ExactlyOne (e.passesAlone d (.scores [{ objective, range }]))
      (e.passesAlone d (.scores [{ objective, range, negated := true }])) := by
  rw [passesAlone_eq answers d .scores rfl, passesAlone_eq answers d .scores rfl]
  refine ⟨range.contains score, ?_, ?_⟩ <;>
    cases inside : range.contains score <;>
      simp [check, Query.add, meetsScores, held, ScoreFilter.accepts, inside]

theorem neither_of_score {objective : String} {error : ResolutionError}
    (missing : e.scoreOn objective d.board = .error (.unresolved error)) (range : IntRange) :
    Check.Neither (e.passesAlone d (.scores [{ objective, range }]))
      (e.passesAlone d (.scores [{ objective, range, negated := true }])) := by
  obtain ⟨id, named⟩ := answers.id
  rw [passesAlone_eq answers d .scores rfl, passesAlone_eq answers d .scores rfl]
  -- Without a score the range is not even looked at.
  have reported (filter : ScoreFilter) (same : filter.objective = objective) :
      outcome (e.meetsScores d.board [filter]) = .ok false := by
    simp only [meetsScores, same, missing, outcome_bind, outcome_liftM, outcome_note, named]
    rfl
  exact ⟨reported _ rfl, reported _ rfl⟩

end Entity

/-! ### Arguments -/

namespace Query

/-- The keys that take any text, with what the text is accepted as. -/
def textKeys : List (String × Key × (Bool → String → Constraint)) :=
  [("type", .type, .type), ("name", .name, .name), ("tag", .tag, .tag),
    ("family", .family, .family)]

theorem exists_of_spelling {spelling : String}
    (member : spelling ∈ ["type", "name", "tag", "family"]) :
    ∃ key make, (spelling, key, make) ∈ textKeys := by
  have named : spelling ∈ textKeys.map (·.1) := member
  obtain ⟨⟨_, key, make⟩, listed, rfl⟩ := List.mem_map.mp named
  exact ⟨key, make, listed⟩

theorem mem_of_textKeys {spelling : String} {key : Key} {make : Bool → String → Constraint}
    (listed : (spelling, key, make) ∈ textKeys) :
    make ∈ [Constraint.type, .name, .tag, .family] :=
  List.mem_map_of_mem (f := (·.2.2)) listed

theorem ofValue?_of_textKeys {spelling : String} {key : Key} {make : Bool → String → Constraint}
    (listed : (spelling, key, make) ∈ textKeys) : Key.ofText? spelling = some key ∧
      ∀ value, Constraint.ofValue? key value =
        some (make (splitNegation value).1 (String.ofList (splitNegation value).2)) := by
  simp only [textKeys, List.mem_cons, List.not_mem_nil, or_false, Prod.mk.injEq] at listed
  rcases listed with ⟨rfl, rfl, rfl⟩ | ⟨rfl, rfl, rfl⟩ | ⟨rfl, rfl, rfl⟩ | ⟨rfl, rfl, rfl⟩ <;>
    exact ⟨by decide +kernel, fun value => rfl⟩

theorem ofText?_gameMode : Key.ofText? "m" = some .gameMode := by decide +kernel

section Plain

variable {value : String} (plain : PlainValue value)

include plain

theorem isWhole_of_negation {negation : List Char} (spelled : negation ∈ negations value.toList) :
    IsWhole negation :=
  isWhole_of_undelimited ((delimiters_negation spelled).trans plain.undelimited)

/-- A value as it stands and its negation are read apart only by their sign. -/
theorem value_read_of_textKeys {spelling : String} {key : Key} {make : Bool → String → Constraint}
    (listed : (spelling, key, make) ∈ textKeys) :
    (Query.read (argument spelling value.toList) "").value = Query.add {} (make false value) ∧
      ∀ negation ∈ negations value.toList,
        (Query.read (argument spelling negation) "").value = Query.add {} (make true value) := by
  obtain ⟨known, accepted⟩ := ofValue?_of_textKeys listed
  constructor
  · rw [value_read_argument known (isWhole_of_undelimited plain.undelimited), accepted, plain.trimmed,
      splitNegation_of_plain plain.unquoted plain.positive, String.ofList_toList, Option.elim_some]
  · intro negation spelled
    rw [value_read_argument known (isWhole_of_negation plain spelled), accepted,
      splitNegation_negation plain.unquoted plain.trimmed spelled, String.ofList_toList,
      Option.elim_some]

theorem value_read_of_gameMode :
    let asked (negated : Bool) : Query := (GameMode.ofText value.toList).toOption.elim {}
      fun mode => Query.add {} (.gameMode negated mode)
    (Query.read (argument "m" value.toList) "").value = asked false ∧
      ∀ negation ∈ negations value.toList,
        (Query.read (argument "m" negation) "").value = asked true := by
  constructor
  · rw [value_read_argument ofText?_gameMode (isWhole_of_undelimited plain.undelimited),
      plain.trimmed, Constraint.ofValue?, splitNegation_of_plain plain.unquoted plain.positive]
    cases (GameMode.ofText value.toList).toOption <;> rfl
  · intro negation spelled
    rw [value_read_argument ofText?_gameMode (isWhole_of_negation plain spelled),
      Constraint.ofValue?, splitNegation_negation plain.unquoted plain.trimmed spelled]
    cases (GameMode.ofText value.toList).toOption <;> rfl

theorem value_read_of_scores {objective : List Char} (named : IsObjective objective) :
    let asked (negated : Bool) : Query := { scores :=
      (ScoreFilter.ofParts? (unquote (trim objective)) (negated, value.toList)).toList }
    (Query.read (scoresArgument objective value.toList) "").value = asked false ∧
      ∀ negation ∈ negations value.toList,
        (Query.read (scoresArgument objective negation) "").value = asked true := by
  constructor
  · rw [value_read_scores named plain.undelimited, plain.trimmed,
      splitNegation_of_plain plain.unquoted plain.positive]
  · intro negation spelled
    rw [value_read_scores named ((delimiters_negation spelled).trans plain.undelimited),
      splitNegation_negation plain.unquoted plain.trimmed spelled]

end Plain

/-- However a value is negated, the query is the same. An entity that answers is accepted by exactly
one of a type, a name, a tag or a family and its negation; a player, also one without a game mode, by
exactly one of a game mode and its negation, and anybody else by neither; and an entity with a score
by exactly one of a range with a bound and its negation, and one whose score is not found by
neither. -/
theorem negation_is_complement {value : String} (plain : PlainValue value) :
    (∀ spelling ∈ ["type", "name", "tag", "family", "m"], ∀ negation ∈ negations value.toList,
      (Query.read (argument spelling negation) "").value =
        (Query.read (argument spelling ('!' :: value.toList)) "").value) ∧
    (∀ objective, IsObjective objective → ∀ negation ∈ negations value.toList,
      (Query.read (scoresArgument objective negation) "").value =
        (Query.read (scoresArgument objective ('!' :: value.toList)) "").value) ∧
    ∀ (e : Entity) (origin : Option Point) (settings : Settings) (board : Option Scoreboard),
      e.Answers →
      let passes (arguments : List Char) : Check :=
        outcome (e.passes (Query.read arguments "").value origin settings board)
      (∀ spelling ∈ ["type", "name", "tag", "family"],
        Check.ExactlyOne (passes (argument spelling value.toList))
          (passes (argument spelling ('!' :: value.toList)))) ∧
      (∀ mode, GameMode.ofText value.toList = .ok mode →
        (e.isPlayer = .ok true → Check.ExactlyOne (passes (argument "m" value.toList))
          (passes (argument "m" ('!' :: value.toList)))) ∧
        (e.isPlayer = .ok false → Check.Neither (passes (argument "m" value.toList))
          (passes (argument "m" ('!' :: value.toList))))) ∧
      ∀ range objective, IntRange.parse? value.toList = some range → range.isOpen = false →
        IsObjective objective → unquote (trim objective) ≠ [] →
        let name := String.ofList (unquote (trim objective))
        (∀ score, e.scoreOn name board = .ok score →
          Check.ExactlyOne (passes (scoresArgument objective value.toList))
            (passes (scoresArgument objective ('!' :: value.toList)))) ∧
        ∀ error, e.scoreOn name board = .error (.unresolved error) →
          Check.Neither (passes (scoresArgument objective value.toList))
            (passes (scoresArgument objective ('!' :: value.toList))) := by
  have marked : '!' :: value.toList ∈ negations value.toList := by simp [negations]
  -- Every spelling is read as the same constraint, so the first two parts compare with that.
  refine ⟨?_, ?_, ?_⟩
  · intro spelling member negation spelled
    have parts : spelling ∈ ["type", "name", "tag", "family"] ++ ["m"] := member
    rcases List.mem_append.mp parts with text | mode
    · obtain ⟨key, make, listed⟩ := exists_of_spelling text
      have read := (value_read_of_textKeys plain listed).2
      rw [read negation spelled, read _ marked]
    · obtain rfl := List.mem_singleton.mp mode
      have read := (value_read_of_gameMode plain).2
      rw [read negation spelled, read _ marked]
  · intro objective named negation spelled
    have read := (value_read_of_scores plain named).2
    rw [read negation spelled, read _ marked]
  · intro e origin settings board answers passes
    let d : Demand := ⟨{}, origin, settings, board⟩
    refine ⟨?_, ?_, ?_⟩
    · intro spelling member
      obtain ⟨key, make, listed⟩ := exists_of_spelling member
      have read := value_read_of_textKeys plain listed
      simp only [passes, read.1, read.2 _ marked]
      exact Entity.exactlyOne_of_text answers d plain.filled (mem_of_textKeys listed)
    · intro mode known
      have read := value_read_of_gameMode plain
      rw [known] at read
      simp only [passes, read.1, read.2 _ marked]
      exact ⟨fun player => Entity.exactlyOne_of_mode answers d player mode,
        fun player => Entity.neither_of_mode answers d player mode⟩
    · intro range objective spelled bounded named filled name
      have read := value_read_of_scores plain named
      simp only [ScoreFilter.ofParts?, spelled, bounded, filled] at read
      simp only [passes, read.1, read.2 _ marked]
      exact ⟨fun score held => Entity.exactlyOne_of_score answers d held range,
        fun error missing => Entity.neither_of_score answers d missing range⟩

/-- One is a game mode and a range. A player without a game mode is not in it, and has that score. -/
theorem negation_is_complement_of_one :
    let player := ({ id := "p", type := "minecraft:player", player := true,
                     identity := some ⟨0, "p"⟩ } : Body).entity 0
    let board : Scoreboard :=
      { objective := fun _ => .ok (some ⟨fun _ => .ok (some 1)⟩), participants := .ok [] }
    let passes (arguments : String) : Check :=
      outcome (player.passes (Query.read arguments.toList "").value none {} (some board))
    (Query.read "m=\"!1\"".toList "").value = (Query.read "m=!1".toList "").value ∧
      passes "m=1" = .ok false ∧ passes "m=!1" = .ok true ∧
      passes "scores={k=1}" = .ok true ∧ passes "scores={k=!1}" = .ok false := by
  intro player board passes
  have plain : PlainValue "1" := by
    constructor
    · constructor <;> decide +kernel
    · decide
  have objective : IsObjective "k".toList := by constructor <;> decide +kernel
  have answers : player.Answers := Body.entity_answers (by decide) 0
  obtain ⟨same, -, accepts⟩ := negation_is_complement plain
  obtain ⟨-, modes, scores⟩ := accepts player none {} (some board) answers
  obtain ⟨inMode, first, second⟩ := (modes .creative (by decide +kernel)).1 rfl
  obtain ⟨inRange, third, fourth⟩ := (scores ⟨some 1, some 1⟩ "k".toList (by decide +kernel) rfl
    objective (by decide +kernel)).1 1 rfl
  have outside : passes "m=1" = .ok false := by
    have read : (Query.read "m=1".toList "").value = { gameMode := some .creative } := by
      decide +kernel
    simp only [passes, read]
    rfl
  have inside : passes "scores={k=1}" = .ok true := by
    have read : (Query.read "scores={k=1}".toList "").value =
        { scores := [{ objective := "k", range := ⟨some 1, some 1⟩ }] } := by decide +kernel
    simp only [passes, read]
    rfl
  have spelledMode : argument "m" "1".toList = "m=1".toList := by decide +kernel
  have spelledScores : scoresArgument "k".toList "1".toList = "scores={k=1}".toList := by
    decide +kernel
  rw [spelledMode] at first
  rw [spelledScores] at third
  obtain rfl := Except.ok.inj (first.symm.trans outside)
  obtain rfl := Except.ok.inj (third.symm.trans inside)
  have quoted : inQuotes "!1".toList ∈ negations "1".toList := by decide +kernel
  exact ⟨same "m" (by simp) _ quoted, outside, second, inside, fourth⟩

end Query

end Targeting
