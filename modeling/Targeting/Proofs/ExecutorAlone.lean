import Targeting.Proofs.Acceptance
import Targeting.Proofs.Fault
import Targeting.Proofs.Fields
import Targeting.Proofs.SelectorText

/-!
# The executor alone

A selector of the executor goes its own way: it never asks the pool, runs the
checks in another order, and has no use for a distance or a count. It still
comes to what everyone under the same query comes to over a pool of the
executor alone, once the distance is left out.

## Main result

`Chooser.self_agrees_with_pool`.

## Proof strategy

Both ways run a row of checks over the same aspects but for the distance, and a
row of checks on an entity that answers comes to whether all of them are met.
The order by distance and the cut leave a single entity as it is.
-/
namespace Targeting

/-! ### A single candidate -/

/-- A limit that keeps somebody keeps a single entity. -/
theorem limited_singleton {limit : CountLimit} (keeps : 0 < limit.size) (center : Point)
    {e : Entity} (located : e.IsLocated) : limited limit center [e] = .ok [e] := by
  obtain ⟨own, answered⟩ := located
  have items : measured center [e] = .ok [(own.distanceSquared center, e)] := by
    rw [measured_cons, answered]
    rfl
  rw [limited_eq, items, Except.map, List.perm_singleton.mp (limit.order_perm _), List.map_singleton,
    List.take_of_length_le keeps]

namespace Chooser

variable (c : Chooser) (context : Context)

theorem arrange_singleton (everyone : c.selector.symbol = .everyone)
    (keeps : ∀ limit, c.query.count = some limit → 0 < limit.size) (origin : Option Point)
    {e : Entity} (located : e.IsLocated) : c.arrange context origin [e] = .ok [e] := by
  simp only [arrange, Query.sampleSize, everyone, reduceCtorEq, if_false]
  cases counted : c.query.count with
  | none => rfl
  | some limit => exact limited_singleton (keeps limit counted) _ located

/-! ### What the executor is not asked -/

/-- The same selector for everyone, the distance left out. -/
def unmeasured : Chooser :=
  { c with selector := { c.selector with
    symbol := .everyone, query := { c.selector.query with distance := {} } } }

/-- Neither the distance nor the count matters to the executor. -/
theorem outcome_chooseSelf_congr {left right : Chooser} (settings : left.settings = right.settings)
    {distance : FloatRange} {count : Option CountLimit}
    (query : left.selector.query = { right.selector.query with distance, count }) :
    outcome (left.chooseSelf context) = outcome (right.chooseSelf context) := by
  unfold chooseSelf
  rw [settings, query]
  cases context.executor with
  | none => rfl
  | some e =>
    cases boxed : right.selector.query.volume with
    | none =>
      simp only [boxed]
      rfl
    | some volume =>
      -- A box needs the same origin whatever else the query measures.
      have origin : Query.originIn
            { right.selector.query with volume := some volume, distance, count } context =
          right.selector.query.originIn context :=
        Query.originIn_congr context rfl (by simp [Query.needsOrigin, boxed])
      simp only [boxed, origin]
      rfl

/-! ### Over a host that answers -/

theorem executorInVolume_eq (e : Entity) (d : Demand)
    (resolved : d.query.originIn context = .ok d.origin) (placed : d.Placed) :
    executorInVolume context e d.query = e.check d .volume := by
  unfold executorInVolume Entity.check Entity.inVolume
  cases boxed : d.query.volume with
  | none => rfl
  | some volume =>
    obtain ⟨start, given⟩ := placed.2 volume boxed
    simp only [resolved, given]
    rfl

open Classical in
/-- The executor is chosen if it meets every aspect but the distance. -/
theorem outcome_chooseSelf_of_answers {e : Entity} (given : context.executor = some e)
    (answers : e.Answers) (d : Demand) (query : d.query = c.selector.query)
    (settings : d.settings = c.settings) (board : d.board = context.host.scoreboard)
    (service : ∀ b, d.board = some b → b.Answers)
    (resolved : d.query.originIn context = .ok d.origin) (placed : d.Placed) :
    outcome (c.chooseSelf context) =
      .ok (if ∀ aspect ∈ Aspect.ofExecutor, e.Meets d aspect then [e] else []) := by
  have row : Check.and
        (Check.all ((Aspect.placeless ++ [Aspect.scores, Aspect.items]).map (e.check d)))
        (e.check d .volume) = Check.all (Aspect.ofExecutor.map (e.check d)) := by
    have last : Check.all ([Aspect.volume].map (e.check d)) = e.check d .volume := Check.and_true _
    rw [← last, ← Check.all_append, ← List.map_append]
    rfl
  rw [c.outcome_chooseSelf context d query settings board given,
    executorInVolume_eq context e d resolved placed, row,
    Entity.all_check_of_answers answers service placed]
  simp only [Except.map, decide_eq_true_eq]

/-- Without a distance, the aspects of the executor are all there are. -/
theorem accepted_iff_of_unmeasured {e : Entity} {d : Demand}
    (unmeasured : d.query.distance.isOpen = true) :
    e.Accepted d ↔ ∀ aspect ∈ Aspect.ofExecutor, e.Meets d aspect := by
  constructor
  · exact fun accepted aspect _ => accepted aspect
  · intro met aspect
    by_cases distance : aspect = .distance
    · exact distance ▸ Or.inl unmeasured
    · exact met aspect (by cases aspect <;> first | decide | exact absurd rfl distance)

open Classical in
/-- Over a host that answers, the executor's own way agrees with a pool of the executor alone. -/
theorem outcome_chooseSelf_eq_unmeasured {e : Entity} (given : context.executor = some e)
    (answers : e.Answers) (service : ∀ b, context.host.scoreboard = some b → b.Answers)
    (keeps : ∀ limit, c.selector.query.count = some limit → 0 < limit.size) :
    outcome (c.chooseSelf context) =
        outcome (c.unmeasured.choose (context.withPool fun _ => .ok [e])) ∧
      (outcome (c.chooseSelf context) = .ok [e] ∨ outcome (c.chooseSelf context) = .ok []) := by
  have executor : ∀ other, context.executor = some other → other.Answers := by
    intro other same
    exact Option.some.inj (given.symm.trans same) ▸ answers
  obtain ⟨origin, resolved⟩ := originIn_of_answers context executor c.unmeasured.query
  have placed := c.unmeasured.placed_of_originIn context resolved
  let d := c.unmeasured.demand context origin
  have own : outcome (c.chooseSelf context) = .ok (if e.Accepted d then [e] else []) := by
    have reshaped : outcome (c.unmeasured.chooseSelf context) = outcome (c.chooseSelf context) :=
      outcome_chooseSelf_congr context rfl rfl
    rw [← reshaped, c.unmeasured.outcome_chooseSelf_of_answers context given answers d rfl rfl rfl
      service resolved placed]
    simp only [accepted_iff_of_unmeasured (d := d) rfl]
  have pooled : outcome (c.unmeasured.choose (context.withPool fun _ => .ok [e])) =
      .ok (if e.Accepted d then [e] else []) := by
    rw [c.unmeasured.outcome_choose_of_answers context nofun service resolved _ rfl
      (List.forall_mem_singleton.mpr answers)]
    by_cases accepted : e.Accepted d
    · rw [List.filter_cons_of_pos (by simpa using accepted), List.filter_nil, if_pos accepted]
      exact c.unmeasured.arrange_singleton context rfl keeps origin answers.location
    · rw [List.filter_cons_of_neg (by simpa using accepted), List.filter_nil, if_neg accepted]
      exact c.unmeasured.arrange_nil context origin
  refine ⟨own.trans pooled.symm, ?_⟩
  rw [own]
  by_cases accepted : e.Accepted d
  · exact Or.inl (by rw [if_pos accepted])
  · exact Or.inr (by rw [if_neg accepted])

/-! ### Selectors of the executor -/

/-- A selector of the executor chooses the executor or nobody, whatever the pool is and whatever
counts it was given, and nobody where there is no executor. Over a host that answers it comes to what
everyone under its query without the distance comes to over a pool of the executor alone. -/
theorem self_agrees_with_pool (arguments : List Char) (settings : Settings) (context : Context) :
    let own := written .self arguments settings
    (∀ pool, own.choose (context.withPool pool) = own.choose context) ∧
      (∀ others, (∀ key, key ≠ .count → Query.given others key = Query.given arguments key) →
        outcome ((written .self others settings).choose context) = outcome (own.choose context)) ∧
      (context.executor = none → outcome (own.choose context) = .ok []) ∧
      ∀ e, context.executor = some e → e.Answers →
        (∀ b, context.host.scoreboard = some b → b.Answers) →
        (outcome (own.choose context) = .ok [e] ∨ outcome (own.choose context) = .ok []) ∧
          outcome (own.choose context) =
            outcome (own.unmeasured.choose (context.withPool fun _ => .ok [e])) := by
  intro own
  have alone (text : List Char) (within : Context) : (written .self text settings).choose within =
      (written .self text settings).chooseSelf within := by
    rw [choose, if_pos (symbol_written .self text settings)]
  have query (text : List Char) : (written .self text settings).selector.query =
      Query.ofValues (Query.given text) := by
    rw [selectorQuery_written, ← Query.value_read text "", Query.value_read_eq_ofValues]
  refine ⟨?_, ?_, ?_, ?_⟩
  · intro pool
    rw [alone, alone]
    rfl
  · intro others same
    rw [alone, alone]
    apply outcome_chooseSelf_congr context
    · rw [settings_written, settings_written]
    · rw [query, query]
      exact Query.ofValues_of_same_but_count same
  · intro missing
    rw [alone, chooseSelf, missing]
    rfl
  · intro e given answers service
    have keeps : ∀ limit, own.selector.query.count = some limit → 0 < limit.size := by
      intro limit counted
      rw [query] at counted
      exact Query.size_pos_of_ofValues counted
    rw [alone]
    exact (own.outcome_chooseSelf_eq_unmeasured context given answers service keeps).symm

/-- An executor a hundred blocks away from where it is looked for is chosen within one block, over a
pool that fails, whether the farthest two are asked for or not. -/
theorem self_agrees_with_pool_of_far :
    let pig := ({ id := "1", type := "minecraft:pig", tags := ["a"] } : Body).entity 0
    let context : Context :=
      { host := { pool := fun _ => .error ⟨"engine offline"⟩, scoreboard := none }
        location := some ⟨100.0, 0.0, 0.0⟩
        executor := some pig }
    let own := written .self "tag=a,r=1,c=-2".toList {}
    (∀ pool, own.choose (context.withPool pool) = own.choose context) ∧
      outcome (own.choose context) = .ok [pig] ∧
      outcome ((written .self "tag=a,r=1".toList {}).choose context) = .ok [pig] ∧
      outcome (own.choose { context with executor := none }) = .ok [] ∧
      outcome (own.unmeasured.choose (context.withPool fun _ => .ok [pig])) = .ok [pig] := by
  intro pig context own
  have chosen : outcome (own.choose context) = .ok [pig] := rfl
  have counted : Argument.split "tag=a,r=1,c=-2".toList =
      ["tag=a".toList, "r=1".toList, "c=-2".toList] := by decide +kernel
  have uncounted : Argument.split "tag=a,r=1".toList = ["tag=a".toList, "r=1".toList] := by
    decide +kernel
  have same (key : Key) (other : key ≠ .count) :
      Query.given "tag=a,r=1".toList key = Query.given "tag=a,r=1,c=-2".toList key := by
    rw [Query.given, Query.given, counted, uncounted]
    cases key with
    | count => exact absurd rfl other
    | axis along | extent along => cases along <;> decide +kernel
    | _ => decide +kernel
  obtain ⟨free, agree, -, covers⟩ := self_agrees_with_pool "tag=a,r=1,c=-2".toList {} context
  have alone := (self_agrees_with_pool "tag=a,r=1,c=-2".toList {}
    { context with executor := none }).2.2.1
  have pooled := (covers pig rfl (Body.entity_answers (by decide) 0) (by simp [context])).2
  exact ⟨free, chosen, (agree _ same).trans chosen, alone rfl, pooled.symm.trans chosen⟩

end Chooser

end Targeting
