import Targeting.Proofs.Aspect
import Targeting.Proofs.Ordering

/-!
# The stages of a choice

A choice resolves its origin, asks the pool, keeps the candidates that pass
and arranges those. Each stage is described by what it comes to: the origin it
gives, the candidates it keeps, or the fault that it breaks off with.
-/
namespace Targeting

/-! ### The origin -/

namespace Context

/-- The host fails to say where the executor is, and nothing else gives a base location. -/
def BaseFails (context : Context) (fault : Fault) : Prop :=
  context.location = none ∧ ∃ e, context.executor = some e ∧ e.location = .error fault

theorem base_eq_error_iff (context : Context) (fault : Fault) :
    context.base = .error fault ↔ context.BaseFails fault := by
  unfold base BaseFails
  cases context.location with
  | some location => simp
  | none => cases context.executor <;> simp [map_eq_error_iff]

/-- The same context over another pool. -/
def withPool (context : Context) (pool : PoolQuery → Except Fault (List Entity)) : Context :=
  { context with host := { context.host with pool } }

end Context

namespace Query

variable (q : Query) (context : Context)

/-- A symbol shapes the type and the count of a query and nothing else. -/
theorem forSymbol_eq (symbol : Symbol) (settings : Settings) :
    ∃ type count, q.forSymbol symbol settings = { q with type, count } := by
  cases symbol with
  | randomPlayer =>
    unfold forSymbol
    simp only
    split
    · exact ⟨q.type, none, rfl⟩
    · exact ⟨_, _, rfl⟩
  | _ => exact ⟨_, _, rfl⟩

theorem needsOrigin_of_origin {anchor : Anchor} (given : q.origin = some anchor) :
    q.needsOrigin = true := by
  simp [needsOrigin, given]

/-- A query that needs an origin gets one; any other asks nothing of the context. -/
theorem originIn_eq : q.originIn context =
    if q.needsOrigin = true then context.base.map fun base =>
      some (match q.origin with
        | some anchor => anchor.resolve base
        | none => base.getD {})
    else .ok none := by
  unfold originIn
  cases given : q.origin with
  | some anchor =>
    simp only [q.needsOrigin_of_origin given, if_true]
    cases context.base <;> rfl
  | none =>
    cases q.needsOrigin
    · rfl
    · cases context.base <;> rfl

/-- Of a query, the origin depends on the anchor and on whether an origin is needed. -/
theorem originIn_congr {left right : Query} (anchor : left.origin = right.origin)
    (needed : left.needsOrigin = right.needsOrigin) :
    left.originIn context = right.originIn context := by
  rw [originIn_eq, originIn_eq, anchor, needed]

theorem originIn_eq_error_iff (fault : Fault) :
    q.originIn context = .error fault ↔ q.needsOrigin = true ∧ context.BaseFails fault := by
  rw [originIn_eq, ← Context.base_eq_error_iff]
  cases q.needsOrigin <;> simp [map_eq_error_iff]

theorem exists_of_originIn {origin : Option Point} (needed : q.needsOrigin = true)
    (resolved : q.originIn context = .ok origin) : ∃ center, origin = some center := by
  rw [originIn_eq, if_pos needed, map_eq_ok_iff] at resolved
  obtain ⟨base, -, rfl⟩ := resolved
  exact ⟨_, rfl⟩

end Query

/-! ### The candidates that pass -/

namespace Entity

variable (e : Entity) (d : Demand)

/-- The entity meets every aspect of the demand. -/
def Accepted : Prop := ∀ aspect, e.Meets d aspect

/-- The checks of the entity break off with a fault. -/
def BreaksOff (fault : Fault) : Prop :=
  FirstToBreak (e.Meets d) (e.Faults d fault) Aspect.ofCandidate

/-- The checks of the entity come to an answer. -/
def Settles : Prop := ∀ fault, ¬ e.BreaksOff d fault

theorem outcome_passes_eq_error_iff (placed : d.Placed) (fault : Fault) :
    outcome (e.passes d.query d.origin d.settings d.board) = .error fault ↔ e.BreaksOff d fault := by
  rw [e.outcome_passes d, e.all_check_eq_error_iff d placed]
  rfl

open Classical in
theorem outcome_passes_of_settles (placed : d.Placed) (settles : e.Settles d) :
    outcome (e.passes d.query d.origin d.settings d.board) = .ok (decide (e.Accepted d)) := by
  have accepted := e.outcome_passes_eq_ok_true_iff d placed
  -- The checks come to an answer, which is true exactly if every aspect is met.
  cases answer : outcome (e.passes d.query d.origin d.settings d.board) with
  | error fault => exact absurd ((e.outcome_passes_eq_error_iff d placed fault).mp answer) (settles fault)
  | ok value =>
    rw [answer, Except.ok.injEq] at accepted
    rw [Except.ok.injEq, Bool.eq_iff_iff, accepted, decide_eq_true_eq]
    rfl

end Entity

section Passing

variable (d : Demand)

theorem outcome_passing_cons (q : Query) (origin : Option Point) (settings : Settings)
    (board : Option Scoreboard) (e : Entity) (rest : List Entity) :
    outcome (passing q origin settings board (e :: rest)) =
      (outcome (e.passes q origin settings board)).bind fun passes =>
        (outcome (passing q origin settings board rest)).map fun others =>
          if passes = true then e :: others else others := by
  rw [passing, outcome_bind]
  rcases outcome (e.passes q origin settings board) with fault | passes
  · rfl
  · change outcome (passing q origin settings board rest >>= _) = _
    rw [outcome_bind]
    cases outcome (passing q origin settings board rest) <;> rfl

/-- Passing breaks off at the first candidate that does. -/
theorem outcome_passing_eq_error_iff (placed : d.Placed) (candidates : List Entity) (fault : Fault) :
    outcome (passing d.query d.origin d.settings d.board candidates) = .error fault ↔
      FirstToBreak (·.Settles d) (·.BreaksOff d fault) candidates := by
  induction candidates with
  | nil => simp [passing]
  | cons e rest ih =>
    rw [outcome_passing_cons, firstToBreak_cons, ← ih, bind_eq_error_iff,
      e.outcome_passes_eq_error_iff d placed]
    -- Whichever way the first candidate answers, passing goes on to the rest.
    apply or_congr_right
    constructor
    · rintro ⟨passes, answered, broken⟩
      refine ⟨?_, (map_eq_error_iff _ _ _).mp broken⟩
      intro other breaks
      rw [(e.outcome_passes_eq_error_iff d placed other).mpr breaks] at answered
      cases answered
    · rintro ⟨settles, broken⟩
      classical
      exact ⟨_, e.outcome_passes_of_settles d placed settles, (map_eq_error_iff _ _ _).mpr broken⟩

open Classical in
/-- Candidates that all settle are kept if they are accepted. -/
theorem outcome_passing_of_settles (placed : d.Placed) {candidates : List Entity}
    (settles : ∀ e ∈ candidates, e.Settles d) :
    outcome (passing d.query d.origin d.settings d.board candidates) =
      .ok (candidates.filter fun e => e.Accepted d) := by
  induction candidates with
  | nil => rfl
  | cons e rest ih =>
    have head := e.outcome_passes_of_settles d placed (settles e (by simp))
    have tail := ih fun other member => settles other (by simp [member])
    rw [outcome_passing_cons, head, tail]
    by_cases accepted : e.Accepted d <;> simp [Except.bind, Except.map, accepted]

/-- Where passing comes to a list, every candidate has settled. -/
theorem settles_of_passing (placed : d.Placed) {candidates accepted : List Entity}
    (returned : outcome (passing d.query d.origin d.settings d.board candidates) = .ok accepted) :
    ∀ e ∈ candidates, e.Settles d := by
  induction candidates generalizing accepted with
  | nil => simp
  | cons e rest ih =>
    rw [outcome_passing_cons, bind_eq_ok_iff] at returned
    obtain ⟨passes, answered, rest_returned⟩ := returned
    obtain ⟨others, others_returned, -⟩ := (map_eq_ok_iff _ _ _).mp rest_returned
    intro other member
    rcases List.mem_cons.mp member with rfl | member
    -- The first candidate has answered, so it cannot break off as well.
    · intro fault breaks
      rw [(other.outcome_passes_eq_error_iff d placed fault).mpr breaks] at answered
      cases answered
    · exact ih others_returned other member

end Passing

/-! ### The arrangement -/

/-- The location of an entity is known. -/
def Entity.IsLocated (e : Entity) : Prop := ∃ own, e.location = .ok own

theorem measured_cons (center : Point) (e : Entity) (rest : List Entity) :
    measured center (e :: rest) = e.location.bind fun own =>
      (measured center rest).map fun others => (own.distanceSquared center, e) :: others := by
  rw [measured, mapM_cons_eq]
  cases e.location <;> rfl

theorem measured_eq_error_iff (center : Point) (entities : List Entity) (fault : Fault) :
    measured center entities = .error fault ↔
      FirstToBreak Entity.IsLocated (·.location = .error fault) entities := by
  unfold measured
  rw [mapM_eq_error_iff]
  apply firstToBreak_congr
  intro e _
  cases location : e.location <;> simp [Entity.IsLocated, location, bind, Except.bind, pure, Except.pure]

theorem map_snd_of_measured (center : Point) {entities : List Entity}
    {items : List (Float × Entity)} (returned : measured center entities = .ok items) :
    items.map (·.2) = entities := by
  induction entities generalizing items with
  | nil =>
    cases returned
    rfl
  | cons e rest ih =>
    rw [measured_cons, bind_eq_ok_iff] at returned
    obtain ⟨own, -, returned⟩ := returned
    obtain ⟨others, others_returned, rfl⟩ := (map_eq_ok_iff _ _ _).mp returned
    rw [List.map_cons, ih others_returned]

/-- The measured entities in the order that a limit asks for. -/
def CountLimit.order (limit : CountLimit) (items : List (Float × Entity)) : List (Float × Entity) :=
  match limit.proximity with
  | .closest => Evaluation.sortUp items
  | .farthest => Evaluation.sortDown items

theorem CountLimit.order_perm (limit : CountLimit) (items : List (Float × Entity)) :
    (limit.order items).Perm items := by
  unfold order
  cases limit.proximity
  · exact Evaluation.sortUp_perm items
  · exact Evaluation.sortDown_perm items

theorem limited_eq (limit : CountLimit) (center : Point) (entities : List Entity) :
    limited limit center entities =
      (measured center entities).map fun items =>
        ((limit.order items).map (·.2)).take limit.size := by
  unfold limited
  cases measured center entities <;> rfl

theorem limited_subperm (limit : CountLimit) (center : Point) {entities chosen : List Entity}
    (returned : limited limit center entities = .ok chosen) : chosen.Subperm entities := by
  rw [limited_eq, map_eq_ok_iff] at returned
  obtain ⟨items, measures, rfl⟩ := returned
  -- Ordering permutes what was measured, and cutting takes a part of that.
  have permuted : ((limit.order items).map (·.2)).Perm entities := by
    rw [← map_snd_of_measured center measures]
    exact (limit.order_perm items).map _
  exact (List.take_sublist _ _).subperm.trans permuted.subperm

namespace Chooser

variable (c : Chooser) (context : Context)

/-- The chooser of a selector text. -/
def ofText (given : Option String) (settings : Settings) : Chooser :=
  { selector := (Selector.read given).value, settings, given }

/-- What the candidates of a choice are held against. -/
def demand (origin : Option Point) : Demand :=
  ⟨c.query, origin, c.settings, context.host.scoreboard⟩

theorem placed_of_originIn {origin : Option Point}
    (resolved : c.query.originIn context = .ok origin) : (c.demand context origin).Placed := by
  constructor
  · intro bounded
    apply c.query.exists_of_originIn context _ resolved
    have bounded : c.query.distance.isOpen = false := bounded
    simp [Query.needsOrigin, bounded]
  · intro volume asked
    apply c.query.exists_of_originIn context _ resolved
    have asked : c.query.volume = some volume := asked
    simp [Query.needsOrigin, asked]

/-- What becomes of the accepted candidates: a sample, all of them, or the first by distance. -/
def arrange (origin : Option Point) (accepted : List Entity) : Except Fault (List Entity) :=
  match c.selector.query.sampleSize c.selector.symbol c.settings, c.query.count with
  | some size, _ => .ok (Evaluation.sample context.picks size accepted)
  | none, none => .ok accepted
  | none, some limit => limited limit (origin.getD {}) accepted

theorem outcome_choosePool : outcome (c.choosePool context) =
    (c.query.originIn context).bind fun origin =>
      match context.host.pool ⟨{ c.query with count := none }, origin⟩ with
      | .error _ => .ok []
      | .ok candidates =>
        (outcome (passing c.query origin c.settings context.host.scoreboard candidates)).bind
          (c.arrange context origin) := by
  unfold choosePool
  rw [outcome_bind, outcome_liftM]
  congr 1
  funext origin
  cases context.host.pool ⟨{ c.query with count := none }, origin⟩ with
  | error fault => rfl
  | ok candidates =>
    change outcome (passing c.query origin c.settings context.host.scoreboard candidates >>= _) = _
    rw [outcome_bind]
    congr 1
    funext accepted
    unfold arrange
    cases c.selector.query.sampleSize c.selector.symbol c.settings with
    | some size => rfl
    | none => cases c.query.count <;> rfl

/-- Over a pool that answers, a choice is the arrangement of the candidates that pass. -/
theorem outcome_choosePool_of_answer {origin : Option Point} {candidates : List Entity}
    (resolved : c.query.originIn context = .ok origin)
    (answered : context.host.pool ⟨{ c.query with count := none }, origin⟩ = .ok candidates) :
    outcome (c.choosePool context) =
      (outcome (passing c.query origin c.settings context.host.scoreboard candidates)).bind
        (c.arrange context origin) := by
  rw [outcome_choosePool, resolved]
  simp only [Except.bind, answered]

/-- A pool that fails makes the choice empty. -/
theorem outcome_choosePool_of_failure {origin : Option Point} {fault : Fault}
    (resolved : c.query.originIn context = .ok origin)
    (failed : context.host.pool ⟨{ c.query with count := none }, origin⟩ = .error fault) :
    outcome (c.choosePool context) = .ok [] := by
  rw [outcome_choosePool, resolved]
  simp only [Except.bind, failed]

/-- Nothing is chosen twice, and nothing that was not accepted. -/
theorem arrange_subperm {origin : Option Point} {accepted chosen : List Entity}
    (returned : c.arrange context origin accepted = .ok chosen) : chosen.Subperm accepted := by
  unfold arrange at returned
  split at returned
  · cases returned
    exact Evaluation.sample_subperm _ _ _
  · cases returned
    exact List.Subperm.refl _
  · exact limited_subperm _ _ returned

theorem count_of_random (random : c.selector.symbol = .randomPlayer) : c.query.count = none := by
  simp only [query, Query.forSymbol, random]
  split <;> rfl

/-- Arranging breaks off where an entity is measured whose location fails. -/
theorem arrange_eq_error_iff (origin : Option Point) (accepted : List Entity) (fault : Fault) :
    c.arrange context origin accepted = .error fault ↔ c.query.count ≠ none ∧
      FirstToBreak Entity.IsLocated (·.location = .error fault) accepted := by
  unfold arrange
  cases size : c.selector.query.sampleSize c.selector.symbol c.settings with
  | some size =>
    -- A sample is not measured, and a random choice has no count.
    have random : c.selector.symbol = .randomPlayer := by
      by_contra other
      simp [Query.sampleSize, other] at size
    simp [c.count_of_random random]
  | none =>
    cases c.query.count with
    | none => simp
    | some limit => simp [limited_eq, map_eq_error_iff, measured_eq_error_iff]

end Chooser

end Targeting
