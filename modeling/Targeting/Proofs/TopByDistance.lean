import Targeting.Proofs.SelectorText
import Targeting.Proofs.StableOrder
import Targeting.World.Body

/-!
# Choices that count

A choice with a count takes so many of the accepted entities, the closest or the
farthest ones. Of two entities at the same distance the one that the host named
first comes first, whichever end is asked for and wherever the count cuts.

## Main result

`Chooser.counts_take_top`.

## Proof strategy

The places of the accepted entities are sorted once (`limited_eq_top`), and every
count takes its first places. As the sort is stable and looks at distances alone,
sorting the entities is sorting their places.
-/
namespace Targeting

open Argument Evaluation

/-! ### The first places -/

namespace Proximity

variable {n : Nat}

/-- Whose distance is preferred comes first; at equal distances, whoever stands at the earlier place. -/
def Ahead (proximity : Proximity) (distance : Fin n → Float) (here other : Fin n) : Prop :=
  proximity.Prefers (distance here) (distance other) ∨
    ¬ proximity.Prefers (distance other) (distance here) ∧ here < other

instance (proximity : Proximity) (distance : Fin n → Float) (here other : Fin n) :
    Decidable (proximity.Ahead distance here other) :=
  inferInstanceAs (Decidable (_ ∨ _ ∧ _))

/-- So many different places, or all there are, each ahead of those behind it and of those left out. -/
structure IsTop (proximity : Proximity) (distance : Fin n → Float) (size : Nat)
    (places : List (Fin n)) : Prop where
  length : places.length = min size n
  distinct : places.Nodup
  ordered : places.Pairwise (proximity.Ahead distance)
  best : ∀ here ∈ places, ∀ other, other ∉ places → proximity.Ahead distance here other

theorem isTop_take {proximity : Proximity} {distance : Fin n → Float} {order : List (Fin n)}
    (whole : order.Perm (List.finRange n)) (ordered : order.Pairwise (proximity.Ahead distance))
    (size : Nat) : proximity.IsTop distance size (order.take size) where
  length := by rw [List.length_take, whole.length_eq, List.length_finRange]
  distinct := (whole.nodup_iff.mpr (List.nodup_finRange n)).sublist (List.take_sublist size order)
  ordered := ordered.sublist (List.take_sublist size order)
  best := by
    intro here taken other left
    -- Whoever is not among the first stands among the rest.
    have behind : other ∈ order.drop size := by
      have somewhere : other ∈ order.take size ++ order.drop size := by
        rw [List.take_append_drop]
        exact whole.mem_iff.mpr (List.mem_finRange other)
      exact (List.mem_append.mp somewhere).resolve_left left
    exact ordered.rel_of_mem_take_of_mem_drop taken behind

theorem Ahead.not_prefers {proximity : Proximity} {distance : Fin n → Float} {here other : Fin n}
    (ahead : proximity.Ahead distance here other) :
    ¬ proximity.Prefers (distance other) (distance here) := by
  rcases ahead with preferred | ⟨unpreferred, -⟩
  · exact preferred.asymm
  · exact unpreferred

/-- If only one is taken, nobody at all is preferred. -/
theorem IsTop.not_prefers_of_single {proximity : Proximity} {distance : Fin n → Float}
    {places : List (Fin n)} (top : proximity.IsTop distance 1 places) {here : Fin n}
    (taken : here ∈ places) (other : Fin n) :
    ¬ proximity.Prefers (distance other) (distance here) := by
  by_cases among : other ∈ places
  · have single : places.length ≤ 1 := by
      rw [top.length]
      exact Nat.min_le_left 1 n
    obtain rfl : other = here := by
      obtain ⟨i, first, rfl⟩ := List.getElem_of_mem taken
      obtain ⟨j, second, rfl⟩ := List.getElem_of_mem among
      congr 1
      omega
    exact fun preferred => preferred.asymm preferred
  · exact (top.best here taken other among).not_prefers

end Proximity

/-! ### Limits -/

theorem CountLimit.order_eq (limit : CountLimit) (items : List (Float × Entity)) :
    limit.order items = limit.proximity.sort items := by
  unfold order Proximity.sort
  cases limit.proximity <;> rfl

/-- The squared distance of the entity from a center is this number. -/
def Entity.IsAt (e : Entity) (center : Point) (distance : Float) : Prop :=
  (∃ own, e.location = .ok own ∧ own.distanceSquared center = distance) ∧ distance.isNaN = false

section Limits

variable {entities : List Entity} {center : Point} {distance : Entity → Float}

theorem measured_eq (located : ∀ e ∈ entities, e.IsAt center (distance e)) :
    measured center entities = .ok (entities.map fun e => (distance e, e)) := by
  induction entities with
  | nil => rfl
  | cons e rest ih =>
    obtain ⟨⟨own, answered, same⟩, -⟩ := located e (by simp)
    have others := ih fun other member => located other (by simp [member])
    simp [measured_cons, answered, others, same, Except.bind, Except.map]

/-- The limits of one direction all take their entities from the beginning of the same order. -/
theorem limited_eq_top (proximity : Proximity)
    (located : ∀ e ∈ entities, e.IsAt center (distance e)) :
    ∃ top : Nat → List (Fin entities.length),
      (∀ size, proximity.IsTop (distance ∘ entities.get) size (top size)) ∧
      (∀ size more, size ≤ more → top size <+: top more) ∧
      ∀ size, limited ⟨proximity, size⟩ center entities = .ok ((top size).map entities.get) := by
  let places := (List.finRange entities.length).map fun i => (distance (entities.get i), i)
  let order := (proximity.sort places).map (·.2)
  have items : entities.map (fun e => (distance e, e)) = places.map (rekeyed entities.get) := by
    conv_lhs => rw [← List.map_get_finRange entities]
    rw [List.map_map, List.map_map]
    rfl
  have whole : order.Perm (List.finRange entities.length) := by
    have permuted := (proximity.sort_perm places).map (·.2)
    rw [List.map_map] at permuted
    simpa [Function.comp_def] using permuted
  have numbers : AllNumbers places := by
    intro item member
    obtain ⟨i, -, rfl⟩ := List.mem_map.mp member
    exact (located _ (List.get_mem entities i)).2
  have keyed : ∀ item ∈ places, item.1 = distance (entities.get item.2) := by
    intro item member
    obtain ⟨i, -, rfl⟩ := List.mem_map.mp member
    rfl
  have ordered : order.Pairwise (proximity.Ahead (distance ∘ entities.get)) := by
    have standing : places.Pairwise fun x y => x.2 < y.2 :=
      List.pairwise_map.mpr (List.pairwise_lt_finRange _)
    rw [List.pairwise_map]
    apply (proximity.pairwise_sort numbers standing).imp_of_mem
    intro x y first second ahead
    rw [keyed x ((proximity.sort_perm places).mem_iff.mp first),
      keyed y ((proximity.sort_perm places).mem_iff.mp second)] at ahead
    exact ahead
  refine ⟨order.take, Proximity.isTop_take whole ordered, ?_, ?_⟩
  · exact fun size more less => List.take_prefix_take_left less
  · intro size
    rw [limited_eq, measured_eq located, Except.map, CountLimit.order_eq, items, Proximity.sort_map,
      List.map_take, List.map_map, List.map_map]
    rfl

end Limits

/-! ### Counts -/

theorem passing_count (q : Query) (count : Option CountLimit) (origin : Option Point)
    (settings : Settings) (board : Option Scoreboard) (candidates : List Entity) :
    passing { q with count } origin settings board candidates =
      passing q origin settings board candidates := by
  induction candidates with
  | nil => rfl
  | cons e rest ih =>
    rw [passing, passing, ih]
    rfl

namespace Chooser

/-- The same selector with another count. -/
def counting (c : Chooser) (limit : CountLimit) : Chooser :=
  { c with selector := { c.selector with query := { c.selector.query with count := some limit } } }

theorem query_counting (c : Chooser) (unsampled : c.selector.symbol ≠ .randomPlayer)
    (limit : CountLimit) : (c.counting limit).query = { c.query with count := some limit } := by
  unfold query counting
  cases symbol : c.selector.symbol with
  | randomPlayer => exact absurd symbol unsampled
  | _ => rfl

/-- What a choice with a count comes to, whatever the count is: the limit of what passes. -/
theorem outcome_choose_counting (c : Chooser) (context : Context)
    (pooled : c.selector.symbol ≠ .self) (unsampled : c.selector.symbol ≠ .randomPlayer)
    {center : Point} (resolved : c.query.originIn context = .ok (some center))
    (counted : c.query.count ≠ none) {candidates accepted : List Entity}
    (answered : context.host.pool ⟨{ c.query with count := none }, some center⟩ = .ok candidates)
    (passed : outcome (passing c.query (some center) c.settings context.host.scoreboard candidates) =
      .ok accepted) (limit : CountLimit) :
    outcome ((c.counting limit).choose context) = limited limit center accepted := by
  have query := c.query_counting unsampled limit
  have needed : (c.counting limit).query.needsOrigin = c.query.needsOrigin := by
    simp [query, Query.needsOrigin, Option.isSome_iff_ne_none.mpr counted]
  have anchor : (c.counting limit).query.origin = c.query.origin := by rw [query]
  have origin : (c.counting limit).query.originIn context = .ok (some center) :=
    (Query.originIn_congr context anchor needed).trans resolved
  have asked : context.host.pool ⟨{ (c.counting limit).query with count := none }, some center⟩ =
      .ok candidates := by rwa [query]
  have kept : outcome (passing (c.counting limit).query (some center) (c.counting limit).settings
      context.host.scoreboard candidates) = .ok accepted := by
    rw [query, passing_count]
    exact passed
  have sizeless : (c.counting limit).selector.query.sampleSize (c.counting limit).selector.symbol
      (c.counting limit).settings = none := if_neg unsampled
  have whole := (c.counting limit).outcome_choosePool_of_answer context origin asked
  rw [kept, Except.bind, arrange, sizeless, query] at whole
  rw [choose, if_neg (show (c.counting limit).selector.symbol ≠ .self from pooled)]
  exact whole

theorem count_written (symbol : Symbol) (arguments : List Char) (settings : Settings) :
    (written symbol arguments settings).selector.query.count =
      (limits (Query.given arguments .count)).getLast? := by
  rw [selectorQuery_eq_ofValues]
  rfl

theorem count_written_eq_none_iff (symbol : Symbol) (arguments : List Char) (settings : Settings) :
    (written symbol arguments settings).selector.query.count = none ↔
      ∀ n ∈ wholes (Query.given arguments .count), n = 0 := by
  rw [count_written, List.getLast?_eq_none_iff, limits, List.filterMap_eq_nil_iff]
  simp only [CountLimit.ofSigned?_eq_none_iff]

/-- A choice with a count takes so many of the accepted entities, or all there are: in the order of
their squared distances, those at the same distance in the order of the host, and nobody is left out
who comes before somebody taken. What a smaller count takes is the beginning of what a greater one
takes. The nearest player without a count that takes effect is at most one entity, at the least
distance; a text gives no such count exactly if every whole number that it gives for one is zero. -/
theorem counts_take_top (c : Chooser) (context : Context) (pooled : c.selector.symbol ≠ .self)
    (unsampled : c.selector.symbol ≠ .randomPlayer) {limit : CountLimit}
    (counted : c.query.count = some limit) {center : Point}
    (resolved : c.query.originIn context = .ok (some center)) {candidates accepted : List Entity}
    (answered : context.host.pool ⟨{ c.query with count := none }, some center⟩ = .ok candidates)
    (passed : outcome (passing c.query (some center) c.settings context.host.scoreboard candidates) =
      .ok accepted) {distance : Entity → Float}
    (located : ∀ e ∈ accepted, e.IsAt center (distance e)) :
    ∃ top : Nat → List (Fin accepted.length),
      (∀ size, limit.proximity.IsTop (distance ∘ accepted.get) size (top size)) ∧
      (∀ size more, size ≤ more → top size <+: top more) ∧
      outcome (c.choose context) = .ok ((top limit.size).map accepted.get) ∧
      (∀ size, outcome ((c.counting ⟨limit.proximity, size⟩).choose context) =
        .ok ((top size).map accepted.get)) ∧
      (c.selector.symbol = .nearestPlayer → c.selector.query.count = none →
        ∃ chosen, outcome (c.choose context) = .ok chosen ∧ chosen.length = min 1 accepted.length ∧
          ∀ e ∈ chosen, e ∈ accepted ∧ ∀ other ∈ accepted, ¬ distance other < distance e) ∧
      ∀ symbol arguments settings, (written symbol arguments settings).selector.query.count = none ↔
        ∀ n ∈ wholes (Query.given arguments .count), n = 0 := by
  obtain ⟨top, isTop, grows, takes⟩ := limited_eq_top limit.proximity located
  have counting (size : Nat) := (c.outcome_choose_counting context pooled unsampled resolved
    (by simp [counted]) answered passed ⟨limit.proximity, size⟩).trans (takes size)
  have own : outcome (c.choose context) = .ok ((top limit.size).map accepted.get) := by
    have sizeless : c.selector.query.sampleSize c.selector.symbol c.settings = none :=
      if_neg unsampled
    rw [choose, if_neg pooled, c.outcome_choosePool_of_answer context resolved answered, passed,
      Except.bind, arrange, sizeless, counted]
    exact takes limit.size
  refine ⟨top, isTop, grows, own, counting, ?_, count_written_eq_none_iff⟩
  intro nearest uncounted
  obtain rfl : limit = ⟨.closest, 1⟩ := by
    simpa [query, Query.forSymbol, nearest, uncounted, eq_comm] using counted
  refine ⟨_, own, by rw [List.length_map, (isTop 1).length], ?_⟩
  intro e member
  obtain ⟨here, taken, rfl⟩ := List.mem_map.mp member
  refine ⟨List.get_mem accepted here, ?_⟩
  intro other among
  obtain ⟨place, rfl⟩ := List.get_of_mem among
  exact (isTop 1).not_prefers_of_single taken place

/-- Of three pigs, two are at the same distance and the third is closer. The farthest two come in the
order of the host. -/
theorem counts_take_top_of_ties :
    let pig (id : String) (x : Float) (handle : Nat) :=
      ({ id, type := "minecraft:pig", position := ⟨x, 0.0, 0.0⟩ } : Body).entity handle
    let pigs := [pig "east" 4.0 0, pig "near" 1.0 1, pig "west" (-4.0) 2]
    let context : Context := { host := { pool := fun _ => .ok pigs, scoreboard := none } }
    outcome ((ofText (some "@e[c=-2]") {}).choose context) =
      .ok [pig "east" 4.0 0, pig "west" (-4.0) 2] := by
  intro pig pigs context
  let c := ofText (some "@e[c=-2]") {}
  let distance (e : Entity) : Float := (e.location.toOption.map (·.distanceSquared {})).getD 0.0
  have query : c.query = { count := some ⟨.farthest, 2⟩ } := by decide +kernel
  have everyone : c.selector.symbol = .everyone := by decide +kernel
  have resolved : c.query.originIn context = .ok (some {}) := by
    rw [query]
    rfl
  have passed : outcome (passing c.query (some {}) c.settings context.host.scoreboard pigs) =
      .ok pigs := by
    rw [query]
    rfl
  have numbers : ∀ e ∈ pigs, (distance e).isNaN = false := by decide +kernel
  have located : ∀ e ∈ pigs, e.IsAt {} (distance e) := by
    intro e member
    refine ⟨?_, numbers e member⟩
    have body : ∃ b handle, e = Body.entity b handle ∧ b.visibility = .full := by
      simp only [pigs, List.mem_cons, List.not_mem_nil, or_false] at member
      rcases member with rfl | rfl | rfl <;> exact ⟨_, _, rfl, rfl⟩
    obtain ⟨b, handle, rfl, shown⟩ := body
    simp [Body.entity, shown, Body.fullEntity, distance, Except.toOption]
  obtain ⟨top, isTop, -, chosen, -⟩ := counts_take_top c context (by simp [everyone])
    (by simp [everyone]) (by rw [query]) resolved rfl passed located
  -- Among three places, only the first and the last meet what the top two have to.
  have only : ∀ i j : Fin 3, Proximity.farthest.Ahead (distance ∘ pigs.get) i j →
      (∀ other, other ∉ [i, j] → Proximity.farthest.Ahead (distance ∘ pigs.get) i other ∧
        Proximity.farthest.Ahead (distance ∘ pigs.get) j other) → i = 0 ∧ j = 2 := by
    decide +kernel
  obtain ⟨i, j, two⟩ := List.length_eq_two.mp (isTop 2).length
  have best := (isTop 2).best
  have ordered := (isTop 2).ordered
  simp only [two, List.mem_cons, List.not_mem_nil, or_false, forall_eq_or_imp, forall_eq,
    List.pairwise_pair] at best ordered
  obtain ⟨rfl, rfl⟩ := only i j ordered (fun other left => ⟨best.1 other (by simpa using left),
    best.2 other (by simpa using left)⟩)
  rw [two] at chosen
  exact chosen

end Chooser

end Targeting
