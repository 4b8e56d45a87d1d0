import Targeting.Proofs.RandomChoice
import Targeting.Proofs.ScoreEntry
import Targeting.Proofs.SelectorShape

/-!
# Empty choices

A count says how many entities are kept and never that none is. So a choice is empty
only if nobody in the answer of the pool is accepted.

## Main result

`Chooser.count_never_empties`.

## Proof strategy

A query that was read is well formed: what a token is accepted as is
(`Constraint.wellFormed_of_ofToken?`), and adding that keeps the query so, one constraint
after the other. The symbol keeps it so as well, and a random choice without a count takes
its size from the settings, which were checked. Cutting and sampling then leave somebody
of everybody who was accepted (`Chooser.arrange_eq_nil_iff`).
-/
namespace Targeting

open Argument

/-! ### Well-formed queries -/

/-- An objective is named, and its range is bounded at one end at least. -/
structure ScoreFilter.WellFormed (filter : ScoreFilter) : Prop where
  named : filter.objective ≠ ""
  bounded : filter.range.low ≠ none ∨ filter.range.high ≠ none

/-- Somebody is counted, if anybody is, and every score filter is well formed. -/
structure Query.WellFormed (q : Query) : Prop where
  count : ∀ limit, q.count = some limit → 0 < limit.size
  scores : ∀ filter ∈ q.scores, filter.WellFormed

/-- The same of what a constraint adds to a query. -/
def Constraint.WellFormed : Constraint → Prop
  | .count limit => ∀ asked, limit = some asked → 0 < asked.size
  | .scores filters => ∀ filter ∈ filters, filter.WellFormed
  | _ => True

theorem ScoreFilter.wellFormed_of_read {entry : List Char} {filter : ScoreFilter}
    (accepted : ScoreFilter.read entry = .ok filter) : filter.WellFormed := by
  cases gives_iff.mpr accepted with
  | intro assigned named signed spelled bounded => exact ⟨by simpa using named, bounded⟩

theorem Constraint.wellFormed_of_ofValue? {key : Key} {value : List Char} {c : Constraint}
    (accepted : Constraint.ofValue? key value = some c) : c.WellFormed := by
  -- Counts and score filters are the only ones that have something to keep.
  cases key with
  | count =>
    obtain ⟨n, -, rfl⟩ := Option.map_eq_some_iff.mp accepted
    exact fun limit signed => CountLimit.size_pos_of_ofSigned? signed
  | scores =>
    obtain ⟨entries, -, rfl⟩ := Option.map_eq_some_iff.mp accepted
    intro filter member
    obtain ⟨entry, -, kept⟩ := List.mem_filterMap.mp member
    exact ScoreFilter.wellFormed_of_read ((toOption_eq_some_iff _ _).mp kept)
  | type | name | tag | family =>
    cases accepted
    trivial
  | gameMode | levelMost | levelLeast | axis | extent | distanceMost | distanceLeast
  | pitchMost | pitchLeast | yawMost | yawLeast | items =>
    obtain ⟨_, -, rfl⟩ := Option.map_eq_some_iff.mp accepted
    trivial

theorem Constraint.wellFormed_of_ofToken? {token : List Char} {c : Constraint}
    (accepted : Constraint.ofToken? token = some c) : c.WellFormed := by
  rcases Constraint.ofToken?_cases token with ⟨refused, -⟩ | ⟨key, value, read, -⟩
  · rw [refused] at accepted
    cases accepted
  · exact wellFormed_of_ofValue? (read.symm.trans accepted)

namespace Query

theorem wellFormed_empty : ({} : Query).WellFormed := ⟨nofun, List.forall_mem_nil _⟩

theorem WellFormed.add {q : Query} {c : Constraint} (sound : q.WellFormed)
    (added : c.WellFormed) : (q.add c).WellFormed := by
  cases c with
  | count limit =>
    cases limit with
    | none => exact sound
    | some limit =>
      refine ⟨fun kept replaced => added kept ?_, sound.scores⟩
      exact replaced
  | scores filters =>
    refine ⟨sound.count, fun filter member => ?_⟩
    rcases List.mem_append.mp member with old | new
    · exact sound.scores filter old
    · exact added filter new
  | type negated | name negated | tag negated | family negated | gameMode negated =>
    cases negated <;> exact ⟨sound.count, sound.scores⟩
  | _ => exact ⟨sound.count, sound.scores⟩

theorem WellFormed.foldl_add {constraints : List Constraint} {q : Query} (sound : q.WellFormed)
    (added : ∀ c ∈ constraints, c.WellFormed) : (constraints.foldl Query.add q).WellFormed := by
  induction constraints generalizing q with
  | nil => exact sound
  | cons first rest ih =>
    rw [List.forall_mem_cons] at added
    exact ih (sound.add added.1) added.2

theorem wellFormed_read (arguments : List Char) (selector : String) :
    (Query.read arguments selector).value.WellFormed := by
  rw [value_read]
  refine wellFormed_empty.foldl_add fun c member => ?_
  obtain ⟨token, -, accepted⟩ := List.mem_filterMap.mp member
  exact Constraint.wellFormed_of_ofToken? accepted

theorem WellFormed.forSymbol {q : Query} (sound : q.WellFormed) (symbol : Symbol)
    (settings : Settings) : (q.forSymbol symbol settings).WellFormed := by
  cases symbol with
  | everyone | players | self => exact ⟨sound.count, sound.scores⟩
  | nearestPlayer =>
    refine ⟨fun limit counted => ?_, sound.scores⟩
    obtain rfl := Option.some.inj counted
    -- Without a count of the query, the nearest player is one.
    cases asked : q.count with
    | none => exact Nat.one_pos
    | some limit => exact sound.count limit asked
  | randomPlayer =>
    unfold Query.forSymbol
    simp only
    split <;> exact ⟨nofun, sound.scores⟩

theorem WellFormed.sampleSize_pos {q : Query} (sound : q.WellFormed) {settings : Settings}
    (valid : settings.IsValid) {symbol : Symbol} {size : Nat}
    (sampled : q.sampleSize symbol settings = some size) : 0 < size := by
  unfold sampleSize at sampled
  split at sampled
  · obtain rfl := Option.some.inj sampled
    cases asked : q.count with
    | none => exact valid.defaultRandomCount_pos
    | some limit => exact sound.count limit asked
  · cases sampled

end Query

/-- Whatever text is given, the query that it is read as is well formed. -/
theorem Selector.wellFormed_read (given : Option String) :
    (Selector.read given).value.query.WellFormed := by
  cases found : shape? (Text.trim (given.getD "").toList) with
  | none =>
    rw [read_of_shapeless found]
    exact Query.wellFormed_empty
  | some shape =>
    obtain ⟨symbol, _ | arguments⟩ := shape
    · rw [read_of_bare found]
      exact Query.wellFormed_empty
    · rw [read_of_listed found]
      exact Query.wellFormed_read arguments _

/-! ### What an arrangement leaves -/

theorem Evaluation.sample_eq_nil_iff {α : Type} (picks : List Int) {size : Nat}
    (positive : 0 < size) (items : List α) : sample picks size items = [] ↔ items = [] := by
  constructor
  · exact eq_nil_of_sample positive
  · rintro rfl
    exact sample_nil picks size

theorem limited_eq_nil_iff {limit : CountLimit} (positive : 0 < limit.size) {center : Point}
    {entities chosen : List Entity} (returned : limited limit center entities = .ok chosen) :
    chosen = [] ↔ entities = [] := by
  rw [limited_eq, map_eq_ok_iff] at returned
  obtain ⟨items, measures, rfl⟩ := returned
  -- Ordering keeps the number of entities, and cutting leaves the first of them.
  rw [List.take_eq_nil_iff, or_iff_right positive.ne', List.map_eq_nil_iff,
    ← List.length_eq_zero_iff, (limit.order_perm items).length_eq, List.length_eq_zero_iff,
    ← map_snd_of_measured center measures, List.map_eq_nil_iff]

namespace Chooser

variable (c : Chooser) (context : Context)

/-- Nobody is left of the accepted candidates only if there are none. -/
theorem arrange_eq_nil_iff (sound : c.selector.query.WellFormed) (valid : c.settings.IsValid)
    {origin : Option Point} {accepted chosen : List Entity}
    (arranged : c.arrange context origin accepted = .ok chosen) :
    chosen = [] ↔ accepted = [] := by
  unfold arrange at arranged
  split at arranged
  next size sampled =>
    cases arranged
    exact Evaluation.sample_eq_nil_iff context.picks (sound.sampleSize_pos valid sampled) accepted
  next =>
    cases arranged
    exact Iff.rfl
  next limit _ counted =>
    have effective : c.query.WellFormed := sound.forSymbol c.selector.symbol c.settings
    exact limited_eq_nil_iff (effective.count limit counted) arranged

/-- Whatever text is given, it is read as a query that counts at least one, if it counts, and whose
score filters name an objective and have a bound. So with settings that were read, and over a host
that answers, the choice of any symbol but the executor alone is empty exactly if nobody in the
answer of the pool is accepted: neither the closest nor the farthest, nor the nearest player without
a count, nor a random choice leaves out everybody. -/
theorem count_never_empties (given : Option String) (settings : Settings) :
    let c := ofText given settings
    c.selector.query.WellFormed ∧
      (c.selector.symbol ≠ .self → settings.IsValid → ∀ context : Context,
        (∀ e, context.executor = some e → e.Answers) →
        (∀ b, context.host.scoreboard = some b → b.Answers) →
        (∀ asked candidates, context.host.pool asked = .ok candidates →
          ∀ e ∈ candidates, e.Answers) →
        ∃ origin chosen, c.query.originIn context = .ok origin ∧
          outcome (c.choose context) = .ok chosen ∧
          (chosen = [] ↔ ∀ e ∈ context.answer ⟨{ c.query with count := none }, origin⟩,
            ¬ e.Accepted (c.demand context origin))) := by
  classical
  intro c
  have sound : c.selector.query.WellFormed := Selector.wellFormed_read given
  refine ⟨sound, ?_⟩
  intro pooled valid context executor service pool
  obtain ⟨origin, resolved⟩ := originIn_of_answers context executor c.query
  have answers := Context.answers_of_mem_answer pool ⟨{ c.query with count := none }, origin⟩
  -- What is arranged are the accepted candidates, and measuring them does not fail.
  obtain ⟨chosen, arranged⟩ := c.arrange_of_answers context
    (fun e member => answers e (List.mem_filter.mp member).1) origin
  have whole := c.outcome_choose_eq_arrange context pooled service resolved answers
  refine ⟨origin, chosen, resolved, whole.trans arranged, ?_⟩
  rw [c.arrange_eq_nil_iff context sound valid arranged, List.filter_eq_nil_iff]
  simp only [decide_eq_true_eq]

/-- A count of zero does not count, so a random choice takes one of the two players, whatever is
picked. -/
theorem count_never_empties_of_players :
    let player := ({ id := "p", type := "minecraft:player" } : Body).entity 0
    let other := ({ id := "q", type := "minecraft:player" } : Body).entity 1
    ∀ picks, ∃ chosen, chosen ≠ [] ∧
      outcome ((ofText (some "@r[c=0]") {}).choose
        { host := { pool := fun _ => .ok [player, other], scoreboard := none }, picks }) =
        .ok chosen := by
  intro player other picks
  have read : (Selector.read (some "@r[c=0]")).value =
      { symbol := .randomPlayer, query := {}, source := "@r[c=0]" } := by decide +kernel
  have symbol : (ofText (some "@r[c=0]") {}).selector.symbol = .randomPlayer := by rw [ofText, read]
  have query : (ofText (some "@r[c=0]") {}).query = { type := some "minecraft:player" } := by
    rw [Chooser.query, ofText, read]
    rfl
  have answers : player.Answers ∧ other.Answers :=
    ⟨Body.entity_answers (by decide) 0, Body.entity_answers (by decide) 1⟩
  obtain ⟨-, empty⟩ := count_never_empties (some "@r[c=0]") {}
  obtain ⟨origin, chosen, -, chose, nobody⟩ := empty (by rw [symbol]; decide) ⟨[], rfl⟩
    { host := { pool := fun _ => .ok [player, other], scoreboard := none }, picks }
    (by simp) (by simp) (by
      intro asked candidates answered
      obtain rfl := Except.ok.inj answered
      simpa using answers)
  refine ⟨chosen, ?_, chose⟩
  intro emptied
  refine nobody.mp emptied player List.mem_cons_self ?_
  intro aspect
  cases aspect <;>
    simp [Entity.Meets, demand, query, player, Body.entity, Body.fullEntity, Demand.AsksPlayer,
      Query.rotationIsOpen, Bounds.isOpen]

end Chooser

end Targeting
