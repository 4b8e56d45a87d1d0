import Targeting.Proofs.Stages

/-!
# Faults that get out of a choice

A failing pool is caught: the choice is then empty. Every other failing answer
that a choice asks for gets out of it, and nothing else does.
-/
namespace Targeting

namespace Chooser

variable (c : Chooser) (context : Context)

/-- How a fault of the host gets out of a choice. -/
inductive BreaksOff (fault : Fault) : Prop where
  /-- A check of the executor breaks off. -/
  | executor (e : Entity) (alone : c.selector.symbol = .self) (given : context.executor = some e)
      (broken : FirstToBreak (e.Meets (c.demand context none)) (e.Faults (c.demand context none) fault)
        Aspect.ofExecutor)
  /-- The origin is measured from an executor whose location fails. -/
  | base (pooled : c.selector.symbol ≠ .self) (needed : c.query.needsOrigin = true)
      (failed : context.BaseFails fault)
  /-- The checks of a candidate break off, those of all candidates before it having settled. -/
  | candidate (origin : Option Point) (candidates : List Entity) (pooled : c.selector.symbol ≠ .self)
      (resolved : c.query.originIn context = .ok origin)
      (answered : context.host.pool ⟨{ c.query with count := none }, origin⟩ = .ok candidates)
      (broken : FirstToBreak (·.Settles (c.demand context origin))
        (·.BreaksOff (c.demand context origin) fault) candidates)
  /-- An accepted candidate is to be ordered by its distance and its location fails. -/
  | measure (origin : Option Point) (candidates : List Entity) (pooled : c.selector.symbol ≠ .self)
      (resolved : c.query.originIn context = .ok origin)
      (answered : context.host.pool ⟨{ c.query with count := none }, origin⟩ = .ok candidates)
      (settled : ∀ e ∈ candidates, e.Settles (c.demand context origin))
      (counted : c.query.count ≠ none)
      (broken : FirstToBreak (fun e => e.Accepted (c.demand context origin) → e.IsLocated)
        (fun e => e.Accepted (c.demand context origin) ∧ e.location = .error fault) candidates)

/-! ### The executor alone -/

theorem query_of_self (alone : c.selector.symbol = .self) : c.query = c.selector.query := by
  simp [query, Query.forSymbol, alone]

/-- Whether the executor lies in the box of the query; its own location may be the base. -/
def executorInVolume (e : Entity) (q : Query) : Check :=
  match q.volume with
  | none => .ok true
  | some volume => (q.originIn context).bind fun origin =>
    e.location.map fun own => withinBox own (origin.getD {}) volume

theorem executorInVolume_eq_error_iff {e : Entity} (given : context.executor = some e) (q : Query)
    (fault : Fault) : executorInVolume context e q = .error fault ↔
      q.volume ≠ none ∧ e.location = .error fault := by
  unfold executorInVolume
  cases asked : q.volume with
  | none => simp
  | some volume =>
    have needed : q.needsOrigin = true := by simp [Query.needsOrigin, asked]
    simp only [bind_eq_error_iff, map_eq_error_iff, q.originIn_eq_error_iff, needed, true_and,
      Context.BaseFails, given, Option.some.injEq, ne_eq, reduceCtorEq, not_false_eq_true]
    constructor
    · rintro (⟨-, other, rfl, failed⟩ | ⟨-, -, failed⟩)
      · exact failed
      · exact failed
    · intro failed
      cases located : context.location with
      | none => exact Or.inl ⟨rfl, e, rfl, failed⟩
      | some location =>
        -- A location that is given makes the base, and the entity itself is asked afterwards.
        have resolved : ∃ origin, q.originIn context = .ok origin := by
          rw [q.originIn_eq, if_pos needed, Context.base, located]
          exact ⟨_, rfl⟩
        obtain ⟨origin, resolved⟩ := resolved
        exact Or.inr ⟨origin, resolved, failed⟩

/-- Without an origin the distance passes. -/
theorem meets_without_origin (e : Entity) (d : Demand) :
    e.meets d.query none d.settings = Check.all (Aspect.placeless.map (e.check d)) := by
  have row := e.meets_eq { d with origin := none }
  rw [Aspect.plain, List.map_append, Check.all_append] at row
  have distance : Check.all ([Aspect.distance].map (e.check { d with origin := none })) = .ok true := rfl
  rw [distance, Check.and_true] at row
  exact row

/-- The checks of the executor in their order. -/
theorem outcome_chooseSelf (d : Demand) (query : d.query = c.selector.query)
    (settings : d.settings = c.settings) (board : d.board = context.host.scoreboard) {e : Entity}
    (given : context.executor = some e) : outcome (c.chooseSelf context) =
      (Check.and (Check.all ((Aspect.placeless ++ [Aspect.scores, Aspect.items]).map (e.check d)))
        (executorInVolume context e d.query)).map fun passes => if passes = true then [e] else [] := by
  have row : Check.all ([Aspect.scores, Aspect.items].map (e.check d)) =
      Check.and (outcome (e.meetsScores d.board d.query.scores))
        (e.meetsItems d.query.items d.settings) := by
    simp only [List.map_cons, List.map_nil, Check.all_cons, Check.all_nil, Check.and_true,
      Entity.check]
  rw [List.map_append, Check.all_append, ← meets_without_origin, row]
  -- Each group of checks is run only if those before it came out true.
  unfold chooseSelf
  rw [given, query, settings, board]
  simp only [outcome_bind, outcome_liftM]
  rcases e.meets c.selector.query none c.settings with fault | _ | _
  · rfl
  · rfl
  · simp only [Except.bind, Bool.not_true, Bool.false_eq_true, if_false, outcome_bind]
    rcases outcome (e.meetsScores context.host.scoreboard c.selector.query.scores) with fault | _ | _
    · rfl
    · rfl
    · simp only [Except.bind, Bool.not_true, Bool.false_eq_true, if_false, outcome_bind, outcome_liftM]
      rcases e.meetsItems c.selector.query.items c.settings with fault | _ | _
      · rfl
      · rfl
      · simp only [Except.bind, Bool.not_true, Bool.false_eq_true, if_false, executorInVolume]
        cases c.selector.query.volume with
        | none => rfl
        | some volume =>
          simp only [outcome_bind, outcome_liftM]
          cases c.selector.query.originIn context with
          | error fault => rfl
          | ok origin =>
            cases e.location with
            | error fault => rfl
            | ok own => rfl

theorem chooseSelf_eq_error_iff (alone : c.selector.symbol = .self) {e : Entity}
    (given : context.executor = some e) (fault : Fault) :
    outcome (c.chooseSelf context) = .error fault ↔
      FirstToBreak (e.Meets (c.demand context none)) (e.Faults (c.demand context none) fault)
        Aspect.ofExecutor := by
  have query : c.query = c.selector.query := c.query_of_self alone
  -- A demand with some origin is placed, and but for the volume no aspect here looks at it.
  have placed : (c.demand context (some {})).Placed :=
    ⟨fun _ => ⟨{}, rfl⟩, fun _ _ => ⟨{}, rfl⟩⟩
  have unplaced : FirstToBreak (e.Meets (c.demand context (some {})))
        (e.Faults (c.demand context (some {})) fault)
        (Aspect.placeless ++ [Aspect.scores, Aspect.items]) ↔
      FirstToBreak (e.Meets (c.demand context none)) (e.Faults (c.demand context none) fault)
        (Aspect.placeless ++ [Aspect.scores, Aspect.items]) := by
    apply firstToBreak_congr
    intro aspect member
    cases aspect <;> first | exact ⟨Iff.rfl, Iff.rfl⟩ | simp [Aspect.placeless] at member
  have met : (∀ aspect ∈ Aspect.placeless ++ [Aspect.scores, Aspect.items],
        e.check (c.demand context (some {})) aspect = .ok true) ↔
      ∀ aspect ∈ Aspect.placeless ++ [Aspect.scores, Aspect.items],
        e.Meets (c.demand context none) aspect := by
    apply forall₂_congr
    intro aspect member
    rw [e.check_eq_ok_true_iff _ placed]
    cases aspect <;> first | exact Iff.rfl | simp [Aspect.placeless] at member
  rw [c.outcome_chooseSelf context (c.demand context (some {})) query rfl rfl given,
    map_eq_error_iff, Check.and_eq_error_iff, e.all_check_eq_error_iff _ placed, unplaced,
    Check.all_eq_ok_true_iff, List.forall_mem_map, met, executorInVolume_eq_error_iff context given,
    Aspect.ofExecutor,
    firstToBreak_append _ _ (Aspect.placeless ++ [Aspect.scores, Aspect.items]) [Aspect.volume]]
  -- What is left is the volume, which is checked last and by the location alone.
  apply or_congr_right
  apply and_congr_right
  intro _
  simp only [firstToBreak_cons, firstToBreak_nil, and_false, or_false]
  rfl

/-- A fault gets out of a choice exactly where the choice asks for a failing answer. -/
theorem choose_eq_error_iff (fault : Fault) :
    outcome (c.choose context) = .error fault ↔ c.BreaksOff context fault := by
  by_cases alone : c.selector.symbol = .self
  · rw [choose, if_pos alone]
    cases given : context.executor with
    | none =>
      -- Without an executor nothing is asked of the host.
      have empty : outcome (c.chooseSelf context) = .ok [] := by
        unfold chooseSelf
        rw [given]
        rfl
      rw [empty]
      constructor
      · intro broken
        cases broken
      · intro broken
        cases broken with
        | executor e _ other => simp [given] at other
        | base pooled => exact absurd alone pooled
        | candidate _ _ pooled => exact absurd alone pooled
        | measure _ _ pooled => exact absurd alone pooled
    | some e =>
      rw [c.chooseSelf_eq_error_iff context alone given]
      constructor
      · exact fun broken => .executor e alone given broken
      · intro broken
        cases broken with
        | executor other _ same broken =>
          obtain rfl : e = other := Option.some.inj (given.symm.trans same)
          exact broken
        | base pooled => exact absurd alone pooled
        | candidate _ _ pooled => exact absurd alone pooled
        | measure _ _ pooled => exact absurd alone pooled
  · classical
    rw [choose, if_neg alone, outcome_choosePool, bind_eq_error_iff, Query.originIn_eq_error_iff]
    constructor
    · rintro (⟨needed, failed⟩ | ⟨origin, resolved, broken⟩)
      · exact .base alone needed failed
      · have placed := c.placed_of_originIn context resolved
        cases answered : context.host.pool ⟨{ c.query with count := none }, origin⟩ with
        | error other => simp [answered] at broken
        | ok candidates =>
          simp only [answered, bind_eq_error_iff] at broken
          rcases broken with broken | ⟨accepted, passed, broken⟩
          · exact .candidate origin candidates alone resolved answered
              ((outcome_passing_eq_error_iff _ placed candidates fault).mp broken)
          -- Passing came to a list, so all candidates have settled and the accepted ones are kept.
          · have settled := settles_of_passing (c.demand context origin) placed passed
            have kept := outcome_passing_of_settles (c.demand context origin) placed settled
            obtain rfl := Except.ok.inj (passed.symm.trans kept)
            obtain ⟨counted, broken⟩ := (c.arrange_eq_error_iff context origin _ fault).mp broken
            exact .measure origin candidates alone resolved answered settled counted
              ((firstToBreak_filter _ _ _ _).mp broken)
    · intro broken
      cases broken with
      | executor e self => exact absurd self alone
      | base _ needed failed => exact Or.inl ⟨needed, failed⟩
      | candidate origin candidates _ resolved answered broken =>
        right
        refine ⟨origin, resolved, ?_⟩
        have placed := c.placed_of_originIn context resolved
        simp only [answered, bind_eq_error_iff]
        exact Or.inl ((outcome_passing_eq_error_iff _ placed candidates fault).mpr broken)
      | measure origin candidates _ resolved answered settled counted broken =>
        right
        refine ⟨origin, resolved, ?_⟩
        have placed := c.placed_of_originIn context resolved
        simp only [answered, bind_eq_error_iff]
        exact Or.inr ⟨_, outcome_passing_of_settles _ placed settled,
          (c.arrange_eq_error_iff context origin _ fault).mpr
            ⟨counted, (firstToBreak_filter _ _ _ _).mpr broken⟩⟩

end Chooser

end Targeting
