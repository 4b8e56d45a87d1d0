import Targeting.Proofs.Conjunction
import Targeting.Proofs.NormalSettings

/-!
# Random choices

A random choice draws without replacement from its population. If the query
names a type, a tag, a family or a name, then the population is whatever the
query chooses of everybody, and of the players otherwise. The count of the
query only says how many are drawn.

## Main results

* `Chooser.random_choice_samples`: a random choice takes different places of its
  population, as many as its count says.
* `Query.random_choice_falls_back`: when the players are the population, and
  when the query accepts everybody. An empty name tells the two apart.

## Proof strategy

A random choice and the choice of its population ask the pool the same and keep
the same candidates (`outcome_choose_random`). Sampling does not look at what it
draws, so it is enough to sample places, which differ from one another.
-/
namespace Targeting

open Argument

/-! ### Samples -/

namespace Evaluation

variable {α : Type}

theorem length_drawFrom (picks : List Int) (i : Nat) {count : Nat} {items : List α}
    (enough : count ≤ items.length) : (drawFrom picks i count items).length = count := by
  induction count generalizing i items with
  | zero => rfl
  | succ count ih =>
    -- Counted around, the place is one of those that are left.
    have within : (pickAt picks i % items.length).toNat < items.length := by
      have below := Int.emod_lt_of_pos (pickAt picks i) (show 0 < (items.length : Int) by omega)
      omega
    have rest : count ≤ (items.eraseIdx (pickAt picks i % items.length).toNat).length := by
      rw [List.length_eraseIdx_of_lt within]
      omega
    simp only [drawFrom, List.getElem?_eq_getElem within, List.length_cons, ih (i + 1) rest]

theorem length_sample (picks : List Int) (size : Nat) (items : List α) :
    (sample picks size items).length = min size items.length :=
  length_drawFrom picks 0 (Nat.min_le_right size items.length)

/-- A sample is drawn from different places, even if the same item stands at several of them. -/
theorem exists_places_of_sample (picks : List Int) (size : Nat) (items : List α) :
    ∃ places : List (Fin items.length), places.Nodup ∧ places.length = min size items.length ∧
      sample picks size items = places.map items.get := by
  refine ⟨sample picks size (List.finRange items.length), ?_, ?_, ?_⟩
  · obtain ⟨drawn, permuted, sublist⟩ := sample_subperm picks size (List.finRange items.length)
    exact permuted.nodup_iff.mp ((List.nodup_finRange items.length).sublist sublist)
  · rw [length_sample, List.length_finRange]
  · rw [← sample_map, List.map_get_finRange]

theorem sample_nil (picks : List Int) (size : Nat) : sample picks size ([] : List α) = [] := by
  rw [sample, List.length_nil, Nat.min_zero, drawFrom]

theorem sample_perm (picks : List Int) {size : Nat} {items : List α} (all : items.length ≤ size) :
    (sample picks size items).Perm items := by
  apply (sample_subperm picks size items).perm_of_length_le
  rw [length_sample, Nat.min_eq_right all]

theorem eq_nil_of_sample {picks : List Int} {size : Nat} {items : List α} (positive : 0 < size)
    (nobody : sample picks size items = []) : items = [] := by
  have length := length_sample picks size items
  rw [nobody, List.length_nil] at length
  rw [← List.length_eq_zero_iff]
  omega

end Evaluation

/-! ### The population -/

namespace Query

/-- The query names a type, a tag, a family or a name. Empty types and empty names do not count. -/
def Narrows (q : Query) : Prop :=
  (∃ type, q.type = some type ∧ type ≠ "") ∨ q.tags ≠ [] ∨ q.families ≠ [] ∨
    ∃ name, q.name = some name ∧ name ≠ ""

theorem narrows_iff (q : Query) : q.narrows = true ↔ q.Narrows := by
  simp [narrows, Narrows, Option.any_eq_true, or_assoc]

instance (q : Query) : Decidable q.Narrows := decidable_of_iff _ q.narrows_iff

/-- The choice that a random choice draws from. It is made among everybody if the query narrows it
by itself and among the players otherwise, and nothing is counted. -/
def population (q : Query) (settings : Settings) : Chooser where
  selector.symbol := if q.Narrows then .everyone else .players
  selector.query := { q with count := none }
  settings := settings

theorem forSymbol_random (q : Query) (settings : Settings) :
    q.forSymbol .randomPlayer settings = (q.population settings).query := by
  simp only [Chooser.query, population, forSymbol, narrows_iff]
  split <;> rfl

end Query

/-! ### The size of a sample -/

/-- The size of a sample. Whether the closest or the farthest are counted does not matter to it. -/
def Query.sizeOfSample (q : Query) (settings : Settings) : Nat :=
  (q.count.map (·.size)).getD settings.defaultRandomCount

theorem CountLimit.map_size_ofSigned? (n : Int) :
    (ofSigned? n).map (·.size) = if n ≠ 0 then some n.natAbs else none := by
  rcases Int.lt_trichotomy n 0 with below | rfl | above
  · have size : (-n).toNat = n.natAbs := by omega
    simp [ofSigned?, below, Int.ne_of_lt below, Int.not_lt.mpr (Int.le_of_lt below), size]
  · rfl
  · have size : n.toNat = n.natAbs := by omega
    simp [ofSigned?, above, Int.ne_of_gt above, size]

/-- The sizes of limits are the magnitudes of the whole numbers other than zero. -/
theorem Argument.map_size_limits (values : List (List Char)) :
    (limits values).map (·.size) = ((wholes values).filter (· ≠ 0)).map Int.natAbs := by
  rw [limits, List.map_filterMap, ← List.filterMap_eq_map, ← List.filterMap_eq_filter,
    List.filterMap_filterMap]
  apply List.filterMap_congr
  intro n _
  rw [CountLimit.map_size_ofSigned?]
  by_cases zero : n = 0 <;> simp [zero, Option.guard]

/-- The magnitude of the last whole number other than zero that the arguments give for a count. -/
def Query.lastMagnitude? (arguments : List Char) : Option Nat :=
  ((wholes (given arguments .count)).filter (· ≠ 0)).getLast?.map Int.natAbs

theorem Query.pos_of_lastMagnitude {arguments : List Char} {size : Nat}
    (given : lastMagnitude? arguments = some size) : 0 < size := by
  obtain ⟨n, last, rfl⟩ := Option.map_eq_some_iff.mp given
  have counted := (List.mem_filter.mp (List.mem_of_getLast? last)).2
  exact Int.natAbs_pos.mpr (by simpa using counted)

theorem Query.sizeOfSample_read (arguments : List Char) (settings : Settings) (selector : String) :
    (Query.read arguments selector).value.sizeOfSample settings =
      (lastMagnitude? arguments).getD settings.defaultRandomCount := by
  have count : (Query.read arguments selector).value.count =
      (limits (given arguments .count)).getLast? := by
    rw [value_read_eq_ofValues]
    rfl
  rw [sizeOfSample, count, ← List.getLast?_map, map_size_limits, List.getLast?_map, lastMagnitude?]

/-! ### Drawing from the population -/

namespace Chooser

variable (c : Chooser) (context : Context)

/-- A random choice is a sample of the choice of its population. -/
theorem outcome_choose_random (random : c.selector.symbol = .randomPlayer) (picks : List Int) :
    outcome (c.choose { context with picks }) =
      (outcome ((c.selector.query.population c.settings).choose context)).map
        (Evaluation.sample picks (c.selector.query.sizeOfSample c.settings)) := by
  obtain ⟨population, named⟩ : ∃ population, population = c.selector.query.population c.settings :=
    ⟨_, rfl⟩
  have query : c.query = population.query := by
    rw [Chooser.query, random, named]
    exact c.selector.query.forSymbol_random c.settings
  have settings : c.settings = population.settings := by rw [named, Query.population]
  have pooled : population.selector.symbol ≠ .self ∧ population.selector.symbol ≠ .randomPlayer := by
    simp only [named, Query.population]
    split <;> decide
  have sampled (origin : Option Point) (accepted : List Entity) :
      c.arrange { context with picks } origin accepted = .ok
        (Evaluation.sample picks (c.selector.query.sizeOfSample c.settings) accepted) := by
    rw [arrange, Query.sampleSize, if_pos random, Query.sizeOfSample]
  have kept (origin : Option Point) (accepted : List Entity) :
      population.arrange context origin accepted = .ok accepted := by
    rw [arrange, Query.sampleSize, if_neg pooled.2, ← query, c.count_of_random random]
  rw [← named, choose, if_neg (by simp [random]), choose, if_neg pooled.1, outcome_choosePool,
    outcome_choosePool, query, settings]
  -- Picks matter neither to the origin nor to the pool, so both choices take the same steps.
  change (population.query.originIn context).bind _ = _
  cases population.query.originIn context with
  | error fault => rfl
  | ok origin =>
    simp only [Except.bind]
    cases context.host.pool ⟨{ population.query with count := none }, origin⟩ with
    | error fault => exact congrArg Except.ok (Evaluation.sample_nil picks _).symm
    | ok candidates =>
      simp only
      cases outcome (passing population.query origin population.settings context.host.scoreboard
        candidates) with
      | error fault => rfl
      | ok accepted => simp only [sampled, kept, settings, Except.map]

/-- A random choice takes different places of its population, so many as the last count other than
zero says with either sign, or as the settings say without one, or all there are. So it is the whole
population in some order if that is not larger, and nobody only if the population is. -/
theorem random_choice_samples (arguments : List Char) (settings : Settings) (context : Context)
    (executor : ∀ e, context.executor = some e → e.Answers)
    (service : ∀ b, context.host.scoreboard = some b → b.Answers)
    (pool : ∀ asked candidates, context.host.pool asked = .ok candidates →
      ∀ e ∈ candidates, e.Answers) :
    let population := (Query.read arguments "").value.population settings
    let size := (Query.lastMagnitude? arguments).getD settings.defaultRandomCount
    ∃ accepted, outcome (population.choose context) = .ok accepted ∧
      ∀ picks, ∃ places : List (Fin accepted.length),
        places.Nodup ∧ places.length = min size accepted.length ∧
        outcome ((written .randomPlayer arguments settings).choose { context with picks }) =
          .ok (places.map accepted.get) ∧
        (accepted.length ≤ size → (places.map accepted.get).Perm accepted) ∧
        (settings.IsValid → places = [] → accepted = []) := by
  intro population size
  have pooled : population.selector.symbol ≠ .self := by
    simp only [population, Query.population]
    split <;> decide
  obtain ⟨accepted, chosen⟩ := population.exists_outcome_choose_of_answers context pooled executor
    service pool
  refine ⟨accepted, chosen, ?_⟩
  intro picks
  obtain ⟨places, distinct, length, drawn⟩ := Evaluation.exists_places_of_sample picks size accepted
  refine ⟨places, distinct, length, ?_, ?_, ?_⟩
  · have sampled := (written .randomPlayer arguments settings).outcome_choose_random context
      (symbol_written .randomPlayer arguments settings) picks
    have query : (written .randomPlayer arguments settings).selector.query =
        (Query.read arguments "").value := by rw [selectorQuery_written, Query.value_read]
    rw [query, settings_written, Query.sizeOfSample_read, chosen] at sampled
    rw [← drawn]
    exact sampled
  · intro all
    rw [← drawn]
    exact Evaluation.sample_perm picks all
  · rintro valid rfl
    have positive : 0 < size := by
      cases given : Query.lastMagnitude? arguments with
      | none => simpa [size, given] using valid.defaultRandomCount_pos
      | some magnitude => simpa [size, given] using Query.pos_of_lastMagnitude given
    exact Evaluation.eq_nil_of_sample positive drawn

/-- The pool names one of two pigs twice. Two of its three answers are drawn, whichever they are. -/
theorem random_choice_samples_of_pigs :
    let pig := ({ id := "p", type := "minecraft:pig" } : Body).entity 0
    let other := ({ id := "q", type := "minecraft:pig" } : Body).entity 1
    let context : Context :=
      { host := { pool := fun _ => .ok [pig, pig, other], scoreboard := none }, picks := [7, 1] }
    ∃ places : List (Fin 3), places.Nodup ∧ places.length = 2 ∧
      outcome ((written .randomPlayer "type=pig,c=-2".toList {}).choose context) =
        .ok (places.map [pig, pig, other].get) := by
  intro pig other context
  have query : (Query.read "type=pig,c=-2".toList "").value =
      { type := some "pig", count := some ⟨.farthest, 2⟩ } := by decide +kernel
  have size : Query.lastMagnitude? "type=pig,c=-2".toList = some 2 := by decide +kernel
  have everybody : outcome (((Query.read "type=pig,c=-2".toList "").value.population {}).choose
      context) = .ok [pig, pig, other] := by
    rw [query]
    rfl
  have answers : ∀ e ∈ [pig, pig, other], e.Answers := by
    simp only [List.forall_mem_cons, List.not_mem_nil, false_implies, implies_true, and_true]
    have loaded := Body.entity_answers (b := { id := "p", type := "minecraft:pig" }) (by decide) 0
    exact ⟨loaded, loaded, Body.entity_answers (by decide) 1⟩
  obtain ⟨accepted, chosen, draws⟩ := random_choice_samples "type=pig,c=-2".toList {} context
    (by simp [context]) (by simp [context]) (by
      intro asked candidates answered
      obtain rfl := Except.ok.inj answered
      exact answers)
  rw [everybody] at chosen
  obtain rfl := Except.ok.inj chosen
  obtain ⟨places, distinct, length, drawn, -⟩ := draws [7, 1]
  rw [size] at length
  exact ⟨places, distinct, length, drawn⟩

end Chooser

/-! ### The players as the population -/

namespace Query

/-- A random choice asks for players, whatever type the settings call them. -/
def FallsBack (q : Query) : Prop :=
  ∀ settings, q.forSymbol .randomPlayer settings =
    { q with count := none, type := some settings.playerTypeId }

/-- What the query asks of the type, the tags, the families and the name, and nothing that it
excludes. -/
def positive (q : Query) : Query :=
  { type := q.type, name := q.name, tags := q.tags, families := q.families }

/-- The type, the tags, the families and the name of the query keep nobody out. -/
def AcceptsEveryone (q : Query) : Prop :=
  ∀ (e : Entity) (settings : Settings), e.Answers → e.meets q.positive none settings = .ok true

theorem fallsBack_iff (q : Query) : q.FallsBack ↔ ¬ q.Narrows := by
  constructor
  · intro fallsBack narrows
    -- The type that the query names would be every type that players may have.
    have named (settings : Settings) : q.type = some settings.playerTypeId := by
      have same := fallsBack settings
      rw [forSymbol, if_pos (q.narrows_iff.mpr narrows)] at same
      exact congrArg Query.type same
    have first := named { playerTypeId := "a:a" }
    rw [named { playerTypeId := "b:b" }] at first
    exact absurd first (by decide)
  · intro wide settings
    rw [forSymbol, if_neg fun narrows => wide (q.narrows_iff.mp narrows)]

theorem meets_positive_iff (q : Query) {e : Entity} {own name : String} {tags : List String}
    (typed : e.typeId = .ok own) (called : e.nameTag = .ok name) (tagged : e.tags = .ok tags)
    (settings : Settings) : e.meets q.positive none settings = .ok true ↔
      (∀ wanted, q.type = some wanted → wanted ≠ "" →
        completeTypeId settings.defaultNamespace own =
          completeTypeId settings.defaultNamespace wanted) ∧
      (∀ wanted, q.name = some wanted → name = wanted) ∧ (∀ tag ∈ q.tags, tag ∈ tags) ∧
      ∀ family ∈ q.families, e.inFamily family = .ok true := by
  let d : Demand := ⟨q.positive, none, settings, none⟩
  have placed : d.Placed := ⟨nofun, nofun⟩
  have row : e.meets q.positive none settings = .ok true ↔
      ∀ aspect ∈ Aspect.plain, e.Meets d aspect := by
    rw [e.meets_eq d, Check.all_eq_ok_true_iff, List.forall_mem_map]
    exact forall₂_congr fun aspect _ => e.check_eq_ok_true_iff d placed aspect
  rw [row]
  simp only [Aspect.plain, Aspect.placeless, List.cons_append, List.nil_append, List.forall_mem_cons,
    List.not_mem_nil, false_implies, implies_true, and_true, Entity.meets_tags_iff tagged]
  simp [Entity.Meets, d, positive, typed, called, Demand.AsksPlayer, Bounds.isOpen, rotationIsOpen]

theorem acceptsEveryone_iff (q : Query) : q.AcceptsEveryone ↔ ¬ q.Narrows ∧ q.name ≠ some "" := by
  constructor
  · intro accepts
    -- Two bodies without tags and families, of different types and names, leave nothing to ask for.
    obtain ⟨firstType, firstName, tags, families⟩ :=
      (q.meets_positive_iff (e := ({ id := "1", type := "a:a" } : Body).entity 0) rfl rfl rfl {}).mp
        (accepts _ {} (Body.entity_answers (by decide) 0))
    obtain ⟨secondType, secondName, -, -⟩ := (q.meets_positive_iff
      (e := ({ id := "2", type := "b:b", name := "b" } : Body).entity 1) rfl rfl rfl {}).mp
        (accepts _ {} (Body.entity_answers (by decide) 1))
    have unnamed : q.name = none := by
      cases called : q.name with
      | none => rfl
      | some name =>
        have same := (firstName name called).trans (secondName name called).symm
        exact absurd same (by decide)
    have untyped (type : String) (wanted : q.type = some type) : type = "" := by
      by_contra filled
      have same := (firstType type wanted filled).trans (secondType type wanted filled).symm
      exact absurd same (by decide)
    have untagged : q.tags = [] := List.eq_nil_iff_forall_not_mem.mpr fun tag member =>
      absurd (tags tag member) List.not_mem_nil
    have unfamilied : q.families = [] := List.eq_nil_iff_forall_not_mem.mpr fun family member =>
      absurd (families family member) (by simp [Body.entity, Body.fullEntity])
    have wide : ¬ q.Narrows := by simpa [Narrows, unnamed, untagged, unfamilied] using untyped
    exact ⟨wide, by simp [unnamed]⟩
  · rintro ⟨wide, unnamed⟩ e settings answers
    obtain ⟨own, typed⟩ := answers.typeId
    obtain ⟨name, called⟩ := answers.nameTag
    obtain ⟨tags, tagged⟩ := answers.tags
    simp only [Narrows, not_or, not_exists, not_and, not_not] at wide
    obtain ⟨untyped, untagged, unfamilied, nameless⟩ := wide
    rw [meets_positive_iff q typed called tagged, untagged, unfamilied]
    refine ⟨?_, ?_, by simp, by simp⟩
    · exact fun wanted given filled => absurd (untyped wanted given) filled
    · intro wanted given
      rw [nameless wanted given] at given
      exact absurd given unnamed

/-- A query has a random choice fall back on the players exactly if its type, tags, families and
name, an empty name left out, keep nobody out; any other query is asked as it is, without its count.
So it falls back whenever it accepts everybody, and it accepts everybody whenever it falls back,
unless its name is empty: then it asks for entities without a name. -/
theorem random_choice_falls_back (q : Query) :
    (q.FallsBack ↔ ({ q with name := q.name.filter (· ≠ "") } : Query).AcceptsEveryone) ∧
      (q.AcceptsEveryone ↔ q.FallsBack ∧ q.name ≠ some "") ∧
      (¬ q.FallsBack → ∀ settings, q.forSymbol .randomPlayer settings = { q with count := none }) := by
  refine ⟨?_, ?_, ?_⟩
  · have same : ({ q with name := q.name.filter (· ≠ "") } : Query).Narrows ↔ q.Narrows := by
      simp [Narrows, Option.filter_eq_some_iff]
    have filled : q.name.filter (· ≠ "") ≠ some "" := by
      simp [Option.filter_eq_some_iff]
    rw [fallsBack_iff, acceptsEveryone_iff, same]
    exact (and_iff_left filled).symm
  · rw [fallsBack_iff, acceptsEveryone_iff]
  · intro narrows settings
    rw [fallsBack_iff, not_not, ← narrows_iff] at narrows
    rw [forSymbol, if_pos narrows]

/-- An empty name asks for entities without a name, and still a random choice falls back on the
players: of a pig without a name, everybody is the pig, and nobody is drawn. -/
theorem random_choice_falls_back_of_empty_name :
    let pig := ({ id := "p", type := "minecraft:pig" } : Body).entity 0
    let context : Context := { host := { pool := fun _ => .ok [pig], scoreboard := none } }
    let q := (Query.read "name=".toList "").value
    q.FallsBack ∧ ¬ q.AcceptsEveryone ∧
      outcome ((Chooser.ofText (some "@e[name=]") {}).choose context) = .ok [pig] ∧
      outcome ((Chooser.ofText (some "@r[name=]") {}).choose context) = .ok [] := by
  intro pig context q
  have read : q = { name := some "" } := by decide +kernel
  have everybody : (Selector.read (some "@e[name=]")).value =
      { symbol := .everyone, query := { name := some "" }, source := "@e[name=]" } := by
    decide +kernel
  have random : (Selector.read (some "@r[name=]")).value =
      { symbol := .randomPlayer, query := { name := some "" }, source := "@r[name=]" } := by
    decide +kernel
  have fallsBack : q.FallsBack := by
    rw [fallsBack_iff, ← narrows_iff, read]
    decide
  refine ⟨fallsBack, ?_, ?_, ?_⟩
  · intro accepts
    exact ((random_choice_falls_back q).2.1.mp accepts).2 (by rw [read])
  · rw [Chooser.ofText, everybody]
    rfl
  · rw [Chooser.ofText, random]
    rfl

end Query

end Targeting
