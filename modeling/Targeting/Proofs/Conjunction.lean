import Targeting.Proofs.Acceptance
import Targeting.Proofs.NativeFilter
import Targeting.Proofs.SelectorText

/-!
# Arguments that accumulate

Tags, families, scores, item conditions and whatever is excluded accumulate:
each of them asks something more. A list of such arguments chooses whoever each
of them by itself would choose.

## Main result

`Chooser.accumulating_is_conjunctive`: two such lists in a row choose what both
of them choose, in the order of the pool.

## Proof strategy

One more constraint changes what is asked under a single aspect, and there it
adds its own demand to the one that is there (`Entity.accepted_add_iff`). By
induction, a query accepts what each of its constraints alone accepts.
-/
namespace Targeting

open Argument

/-! ### One more constraint -/

namespace Constraint

/-- The aspect under which a constraint asks for something more. A constraint that takes the place
of others has none. -/
def joins? : Constraint → Option Aspect
  | .type true _ => some .type
  | .name true _ => some .name
  | .tag _ _ => some .tags
  | .family false _ => some .families
  | .family true _ => some .excludedFamilies
  | .gameMode true _ => some .player
  | .scores _ => some .scores
  | .items _ => some .items
  | _ => none

def Accumulates (c : Constraint) : Prop := c.joins?.isSome = true

instance : DecidablePred Accumulates := fun c => inferInstanceAs (Decidable (c.joins?.isSome = true))

end Constraint

namespace Demand

variable (d : Demand) (q : Query)

/-- The same demand with another query. -/
def asking : Demand := { d with query := q }

@[simp] theorem asking_query : (d.asking q).query = q := rfl

@[simp] theorem asking_settings : (d.asking q).settings = d.settings := rfl

@[simp] theorem asking_board : (d.asking q).board = d.board := rfl

end Demand

namespace Entity

variable {e : Entity} {d : Demand}

/-! Where the host has answered, an aspect that is not asked for is an empty demand like any other. -/

theorem meets_tags_iff {own : List String} (answered : e.tags = .ok own) : e.Meets d .tags ↔
    (∀ tag ∈ d.query.tags, tag ∈ own) ∧ ∀ tag ∈ d.query.excludedTags, tag ∉ own := by
  simp only [Meets, answered, Except.ok.injEq, exists_eq_left']
  apply or_iff_right_of_imp
  rintro ⟨wanted, excluded⟩
  simp [wanted, excluded]

theorem meets_items_iff {slots : List ItemSlot} (answered : e.itemSlots d.settings = .ok slots) :
    e.Meets d .items ↔
      ∀ condition ∈ d.query.items, ∃ slot ∈ slots, condition.accepts slot = true := by
  simp only [Meets, answered, Except.ok.injEq, exists_eq_left']
  apply or_iff_right_of_imp
  intro unasked
  simp [unasked]

theorem meets_player_iff {own : Option GameMode} (player : e.isPlayer = .ok true)
    (answered : e.gameMode = .ok own) : e.Meets d .player ↔ d.WantsMode own ∧
      (d.query.level.isOpen = true ∨
        ∃ level, e.level = .ok (some level) ∧ d.query.level.contains level = true) := by
  simp only [Meets, player, answered, Except.ok.injEq, exists_eq_left', true_and]
  apply or_iff_right_of_imp
  intro unasked
  simp only [Demand.AsksPlayer, not_or, not_not, Bool.not_eq_false] at unasked
  simp [Demand.WantsMode, unasked]

section OneMore

variable {c : Constraint} {aspect : Aspect} (joined : c.joins? = some aspect)

include joined

theorem meets_add_of_ne (q : Query) {other : Aspect} (apart : other ≠ aspect) :
    e.Meets (d.asking (q.add c)) other ↔ e.Meets (d.asking q) other := by
  cases c with
  | type negated | name negated | tag negated | family negated | gameMode negated =>
    cases negated <;> cases joined <;> cases other <;> first | rfl | exact absurd rfl apart
  | scores | items => cases joined; cases other <;> first | rfl | exact absurd rfl apart
  | _ => cases joined

/-- Under its aspect a constraint asks for what it asks for alone, and for what was asked before. -/
theorem meets_add_self (answers : e.Answers) (q : Query) : e.Meets (d.asking (q.add c)) aspect ↔
    e.Meets (d.asking q) aspect ∧ e.Meets (d.asking (Query.add {} c)) aspect := by
  cases c with
  | type negated id =>
    obtain ⟨own, answered⟩ := answers.typeId
    cases negated <;> cases joined
    simp [Meets, Query.add, answered, or_imp, forall_and, and_assoc]
  | name negated name =>
    obtain ⟨own, answered⟩ := answers.nameTag
    cases negated <;> cases joined
    simp [Meets, Query.add, answered, and_assoc]
  | tag negated tag =>
    obtain ⟨own, answered⟩ := answers.tags
    cases negated <;> cases joined <;>
      simp [meets_tags_iff answered, Query.add, and_comm, and_left_comm, and_assoc]
  | family negated family =>
    cases negated <;> cases joined <;> simp [Meets, Query.add, and_comm]
  | gameMode negated mode =>
    obtain ⟨own, answered⟩ := answers.gameMode
    cases negated <;> cases joined
    by_cases player : e.isPlayer = .ok true
    · simp [meets_player_iff player answered, Query.add, Demand.WantsMode, Bounds.isOpen,
        and_comm, and_left_comm, and_assoc]
    -- Whoever is no player is rejected as soon as any game mode is excluded.
    · have asks (modes : List GameMode) : modes.insert mode ≠ [] :=
        List.ne_nil_of_mem List.mem_insert_self
      simp [Meets, Query.add, Demand.AsksPlayer, asks, player]
  | scores filters =>
    cases joined
    simp [Meets, Query.add, or_imp, forall_and]
  | items conditions =>
    cases joined
    obtain ⟨slots, listed⟩ := itemSlots_of_answers answers d.settings
    have answered (q : Query) : e.itemSlots (d.asking q).settings = .ok slots := listed
    simp only [meets_items_iff (answered _)]
    simp [Query.add, or_imp, forall_and]
  | _ => cases joined

end OneMore

/-- A query without constraints accepts every entity that answers. -/
theorem accepted_of_unconstrained (answers : e.Answers) : e.Accepted (d.asking {}) := by
  intro aspect
  cases aspect with
  | type =>
    obtain ⟨own, answered⟩ := answers.typeId
    simp [Meets, answered]
  | name =>
    obtain ⟨own, answered⟩ := answers.nameTag
    simp [Meets, answered]
  | player => exact Or.inl (by simp [Demand.AsksPlayer, Bounds.isOpen])
  | tags => exact Or.inl ⟨rfl, rfl⟩
  | rotation | distance | items => exact Or.inl rfl
  | families | excludedFamilies | scores | volume => simp [Meets]

theorem accepted_add_iff {c : Constraint} (accumulates : c.Accumulates) (answers : e.Answers)
    (q : Query) : e.Accepted (d.asking (q.add c)) ↔
      e.Accepted (d.asking q) ∧ e.Accepted (d.asking (Query.add {} c)) := by
  obtain ⟨aspect, joined⟩ := Option.isSome_iff_exists.mp accumulates
  have unconstrained : e.Accepted (d.asking {}) := accepted_of_unconstrained answers
  simp only [Accepted, ← forall_and]
  apply forall_congr'
  intro other
  by_cases same : other = aspect
  · subst same
    exact meets_add_self joined answers q
  · rw [meets_add_of_ne joined q same, meets_add_of_ne joined {} same]
    exact (and_iff_left (unconstrained other)).symm

/-- A query accepts what each of its constraints alone accepts. -/
theorem accepted_foldl_iff {constraints : List Constraint}
    (accumulate : ∀ c ∈ constraints, c.Accumulates) (answers : e.Answers) (q : Query) :
    e.Accepted (d.asking (constraints.foldl Query.add q)) ↔
      e.Accepted (d.asking q) ∧ ∀ c ∈ constraints, e.Accepted (d.asking (Query.add {} c)) := by
  induction constraints generalizing q with
  | nil => simp
  | cons first rest ih =>
    have later : ∀ c ∈ rest, c.Accumulates := fun c member => accumulate c (by simp [member])
    rw [List.foldl_cons, ih later, accepted_add_iff (accumulate first (by simp)) answers,
      List.forall_mem_cons, and_assoc]

end Entity

/-! ### What accumulating constraints leave alone -/

namespace Query

theorem type_and_origin_foldl_add {constraints : List Constraint}
    (accumulate : ∀ c ∈ constraints, c.Accumulates) (q : Query) :
    (constraints.foldl Query.add q).type = q.type ∧
      (constraints.foldl Query.add q).needsOrigin = q.needsOrigin := by
  induction constraints generalizing q with
  | nil => exact ⟨rfl, rfl⟩
  | cons first rest ih =>
    obtain ⟨aspect, joined⟩ := Option.isSome_iff_exists.mp (accumulate first (by simp))
    have kept : (q.add first).type = q.type ∧ (q.add first).needsOrigin = q.needsOrigin := by
      cases first with
      | type negated | name negated | tag negated | family negated | gameMode negated =>
        cases negated <;> cases joined <;> exact ⟨rfl, rfl⟩
      | scores | items => exact ⟨rfl, rfl⟩
      | _ => cases joined
    have later := ih (fun c member => accumulate c (by simp [member])) (q.add first)
    rw [List.foldl_cons, later.1, later.2]
    exact kept

theorem count_of_unplaced {q : Query} (unplaced : q.needsOrigin = false) : q.count = none := by
  simp only [needsOrigin, Bool.or_eq_false_iff] at unplaced
  simpa using unplaced.2

end Query

/-! ### Pools that hold their entries -/

/-- The pool answers every query, with all its entries or with those that a pool in memory keeps of
them. -/
def Context.Pools (context : Context) (entries : List Entity) : Prop :=
  (∀ asked, context.host.pool asked = .ok entries) ∨
    ∃ w : World, context.host.pool = { w with service := .filtering }.answer ∧
      entries = w.pooled.map World.shown ∧ ∀ asked, ∃ found, context.host.pool asked = .ok found

namespace World

theorem mayMatch_of_filtered {q : Query} {entries found : List (Nat × Body)}
    (returned : filtered q entries = .ok found) :
    ∀ entry ∈ entries, ∃ kept, entry.2.mayMatch q = .ok kept := by
  induction entries generalizing found with
  | nil => simp
  | cons first rest ih =>
    obtain ⟨kept, answered, returned⟩ := (bind_eq_ok_iff _ _ _).mp returned
    obtain ⟨others, others_returned, -⟩ := (bind_eq_ok_iff _ _ _).mp returned
    intro entry member
    rcases List.mem_cons.mp member with rfl | member
    · exact ⟨kept, answered⟩
    · exact ih others_returned entry member

/-- A pool in memory that answers every query holds no bare body: the type of one cannot be read. -/
theorem recorded_of_answers {w : World}
    (answers : ∀ asked, ∃ found, { w with service := .filtering }.answer asked = .ok found) :
    ∀ entry ∈ w.pooled, entry.2.visibility ≠ .bare := by
  intro entry member bare
  obtain ⟨found, answered⟩ := answers ⟨{ type := some "pig" }, none⟩
  obtain ⟨kept, returned, -⟩ := (bind_eq_ok_iff _ _ _).mp answered
  obtain ⟨answer, read⟩ := mayMatch_of_filtered returned entry member
  simp [Body.mayMatch, Body.mayHaveType, Body.recorded, bare, Except.map, bind, Except.bind] at read

end World

namespace Chooser

/-- A choice without a type is the same whether the pool filters its entries or not. -/
theorem choose_of_pools (c : Chooser) {context : Context} {entries : List Entity}
    (pools : context.Pools entries) (untyped : c.query.type = none) :
    c.choose context = c.choose (context.withPool fun _ => .ok entries) := by
  rcases pools with all | ⟨w, filtering, rfl, answers⟩
  · have same : context.host.pool = fun _ => .ok entries := funext all
    rw [← same]
    rfl
  · rw [filtering] at answers
    have narrowed := c.choose_of_filtering context w (World.recorded_of_answers answers)
    -- Bodies are lost only by their type.
    have found : w.pooled.filter (fun entry => !c.loses entry.2) = w.pooled :=
      List.filter_eq_self.mpr fun entry _ => by simp [loses, Body.isLost, untyped]
    rw [found, ← filtering] at narrowed
    exact narrowed

open Classical in
/-- Arguments that accumulate choose the entries that each of them alone accepts. -/
theorem outcome_choose_accumulating (settings : Settings) {context : Context} {entries : List Entity}
    (pools : context.Pools entries) (answers : ∀ e ∈ entries, e.Answers)
    (service : ∀ b, context.host.scoreboard = some b → b.Answers) {arguments : List Char}
    (accumulate : ∀ c ∈ Query.constraints arguments, c.Accumulates) :
    outcome ((written .everyone arguments settings).choose context) =
      .ok (entries.filter fun e => ∀ c ∈ Query.constraints arguments,
        e.Accepted ⟨Query.add {} c, none, settings, context.host.scoreboard⟩) := by
  let c := written .everyone arguments settings
  have query : c.query = (Query.constraints arguments).foldl Query.add {} :=
    query_written .everyone arguments settings
  have kept := Query.type_and_origin_foldl_add accumulate {}
  rw [← query] at kept
  obtain ⟨untyped, unplaced⟩ : c.query.type = none ∧ c.query.needsOrigin = false := kept
  have resolved : c.query.originIn context = .ok none := by
    rw [Query.originIn_eq, unplaced]
    rfl
  have everyone : c.selector.symbol = .everyone := symbol_written .everyone arguments settings
  have all (accepted : List Entity) : c.arrange context none accepted = .ok accepted := by
    simp [arrange, Query.sampleSize, everyone, Query.count_of_unplaced unplaced]
  rw [c.choose_of_pools pools untyped, c.outcome_choose_of_answers context (by simp [everyone])
    service resolved (fun _ => .ok entries) rfl answers, all]
  apply congrArg Except.ok
  apply List.filter_congr
  intro e member
  have accepted := Entity.accepted_foldl_iff (d := c.demand context none) accumulate
    (answers e member) {}
  rw [← query] at accepted
  have each := accepted.trans (and_iff_right (Entity.accepted_of_unconstrained (answers e member)))
  exact decide_eq_decide.mpr each

open Classical in
/-- A list of arguments that accumulate chooses the entries that each of them alone accepts, and two
such lists in a row choose the entries that both of them choose, in the order of the pool. So neither
their order matters nor how often an argument is repeated. -/
theorem accumulating_is_conjunctive (settings : Settings) (context : Context)
    {entries : List Entity} (pools : context.Pools entries) (answers : ∀ e ∈ entries, e.Answers)
    (service : ∀ b, context.host.scoreboard = some b → b.Answers) {left right : List Char}
    (level : (({} : Depth).after left).isLevel = true)
    (leftAccumulates : ∀ c ∈ Query.constraints left, c.Accumulates)
    (rightAccumulates : ∀ c ∈ Query.constraints right, c.Accumulates) :
    let chosen arguments := outcome ((written .everyone arguments settings).choose context)
    ∃ lefts rights, chosen left = .ok lefts ∧ chosen right = .ok rights ∧
      lefts.Sublist entries ∧ rights.Sublist entries ∧
      (∀ e, e ∈ lefts ↔ e ∈ entries ∧ ∀ c ∈ Query.constraints left,
        e.Accepted ⟨Query.add {} c, none, settings, context.host.scoreboard⟩) ∧
      chosen (left ++ ',' :: right) = .ok (entries.filter fun e => e ∈ lefts ∧ e ∈ rights) ∧
      ((({} : Depth).after right).isLevel = true →
        chosen (right ++ ',' :: left) = chosen (left ++ ',' :: right)) ∧
      ∀ other, (∀ token, token ∈ split other ↔ token ∈ split (left ++ ',' :: right)) →
        chosen other = chosen (left ++ ',' :: right) := by
  intro chosen
  let accepts (arguments : List Char) (e : Entity) : Prop := ∀ c ∈ Query.constraints arguments,
    e.Accepted ⟨Query.add {} c, none, settings, context.host.scoreboard⟩
  have whole {arguments : List Char} (accumulate : ∀ c ∈ Query.constraints arguments, c.Accumulates) :
      chosen arguments = .ok (entries.filter (accepts arguments ·)) :=
    outcome_choose_accumulating settings pools answers service accumulate
  have joined := Query.constraints_append_comma level right
  have both : ∀ c ∈ Query.constraints (left ++ ',' :: right), c.Accumulates := by
    rw [joined, List.forall_mem_append]
    exact ⟨leftAccumulates, rightAccumulates⟩
  -- Only which constraints there are matters, not where they stand or how often.
  have repeated (other : List Char)
      (same : ∀ c, c ∈ Query.constraints other ↔ c ∈ Query.constraints (left ++ ',' :: right)) :
      chosen other = chosen (left ++ ',' :: right) := by
    rw [whole both, whole fun c member => both c ((same c).mp member)]
    simp only [accepts, same]
  refine ⟨_, _, whole leftAccumulates, whole rightAccumulates, List.filter_sublist,
    List.filter_sublist, by simp [accepts], ?_, ?_, ?_⟩
  · rw [whole both]
    apply congrArg Except.ok
    apply List.filter_congr
    intro e member
    simp [accepts, joined, member, or_imp, forall_and]
  · intro rightLevel
    apply repeated
    simp [joined, Query.constraints_append_comma rightLevel, or_comm]
  · intro other same
    apply repeated
    simp [Query.constraints, same]

/-- Of two tagged bodies, only the player may have a game mode that is not excluded. -/
theorem accumulating_is_conjunctive_of_player :
    let player := ({ id := "1", type := "minecraft:player", tags := ["a"], player := true } : Body)
    let pig := ({ id := "2", type := "minecraft:pig", tags := ["a"] } : Body)
    let w : World := { bodies := [player, pig], pool := [0, 1] }
    let chosen arguments := outcome ((written .everyone arguments {}).choose { host := w.host })
    chosen "tag=a".toList = .ok [player.entity 0, pig.entity 1] ∧
      chosen "m=!creative".toList = .ok [player.entity 0] ∧
      chosen ("tag=a".toList ++ ',' :: "m=!creative".toList) = .ok [player.entity 0] := by
  intro player pig w chosen
  have recorded : ∀ entry ∈ w.pooled, entry.2.visibility ≠ .bare := by decide
  have pools : ({ host := w.host } : Context).Pools [player.entity 0, pig.entity 1] :=
    Or.inr ⟨w, rfl, rfl, fun asked => ⟨_, w.answer_of_filtering recorded asked⟩⟩
  have answers : ∀ e ∈ [player.entity 0, pig.entity 1], e.Answers := by
    simp only [List.forall_mem_cons, List.not_mem_nil, false_implies, implies_true, and_true]
    exact ⟨Body.entity_answers (by decide) 0, Body.entity_answers (by decide) 1⟩
  have service : ∀ b, w.host.scoreboard = some b → b.Answers := by
    rintro b ⟨⟩ name
    exact ⟨none, rfl, nofun⟩
  have tagged : chosen "tag=a".toList = .ok [player.entity 0, pig.entity 1] := rfl
  have playing : chosen "m=!creative".toList = .ok [player.entity 0] := rfl
  have level : (({} : Depth).after "tag=a".toList).isLevel = true := by decide +kernel
  have tags : ∀ c ∈ Query.constraints "tag=a".toList, c.Accumulates := by decide +kernel
  have modes : ∀ c ∈ Query.constraints "m=!creative".toList, c.Accumulates := by decide +kernel
  obtain ⟨lefts, rights, chosenLeft, chosenRight, -, -, -, both, -⟩ :=
    accumulating_is_conjunctive {} { host := w.host } pools answers service level tags modes
  obtain rfl := Except.ok.inj (tagged.symm.trans chosenLeft)
  obtain rfl := Except.ok.inj (playing.symm.trans chosenRight)
  refine ⟨tagged, playing, both.trans ?_⟩
  have apart : pig.entity 1 ≠ player.entity 0 := fun same =>
    absurd (congrArg Entity.handle same) (by decide)
  simp [apart]

end Chooser

end Targeting
