import Targeting.Proofs.Acceptance
import Targeting.Proofs.FloatOrder

/-!
# Inverted ranges

A range whose lower bound is above its upper one holds no number, so a query
with such a range accepts no entity. The distance is the exception: it is
compared squared, and squares do not keep the order of bounds below zero.

## Main result

`inverted_ranges`: what a choice comes to when a range of its query is inverted.

## Proof strategy

No entity that points somewhere is accepted under an inverted range, and the
arrangement of nothing is empty.
-/
namespace Targeting

/-! ### Ranges -/

namespace Bounds

variable {α : Type} [LT α]

/-- Both bounds are given, and the upper one is below the lower one. -/
def IsInverted (b : Bounds α) : Prop :=
  ∃ low high, b.low = some low ∧ b.high = some high ∧ high < low

theorem contains_of_isInverted [DecidableLT α] {b : Bounds α} (inverted : b.IsInverted) {value : α}
    (splits : ∀ low high : α, high < low → high < value ∨ value < low) : b.contains value = false := by
  obtain ⟨low, high, least, most, below⟩ := inverted
  rw [Bool.eq_false_iff, Ne, contains_iff]
  rintro ⟨atLeast, atMost⟩
  rcases splits low high below with above | under
  · exact atMost high most above
  · exact atLeast low least under

end Bounds

theorem IntRange.contains_of_isInverted {range : IntRange} (inverted : range.IsInverted)
    (value : Int) : range.contains value = false :=
  Bounds.contains_of_isInverted inverted fun low high below => by omega

theorem FloatRange.contains_of_isInverted {range : FloatRange} (inverted : range.IsInverted)
    {value : Float} (number : value.isNaN = false) : range.contains value = false :=
  Bounds.contains_of_isInverted inverted fun _ _ below => Number.lt_or_lt_of_lt number below

/-- The squares of the bounds, each in its place. -/
def FloatRange.squared (range : FloatRange) : FloatRange :=
  ⟨range.low.map fun low => low * low, range.high.map fun high => high * high⟩

/-! ### Queries -/

namespace Query

/-- Some range other than the distance is inverted; the range of a score counts unless the filter
asks for a score outside it. -/
inductive IsInverted (q : Query) : Prop where
  | level (inverted : q.level.IsInverted)
  | pitch (inverted : q.pitch.IsInverted)
  | yaw (inverted : q.yaw.IsInverted)
  | score {filter : ScoreFilter} (member : filter ∈ q.scores) (asserted : filter.negated = false)
      (inverted : filter.range.IsInverted)
  | quantity {condition : ItemCondition} (member : condition ∈ q.items)
      (inverted : condition.quantity.IsInverted)

theorem isInverted_forSymbol {q : Query} (inverted : q.IsInverted) (symbol : Symbol)
    (settings : Settings) : (q.forSymbol symbol settings).IsInverted := by
  obtain ⟨type, count, shaped⟩ := q.forSymbol_eq symbol settings
  rw [shaped]
  cases inverted with
  | level inverted => exact .level inverted
  | pitch inverted => exact .pitch inverted
  | yaw inverted => exact .yaw inverted
  | score member asserted inverted => exact .score member asserted inverted
  | quantity member inverted => exact .quantity member inverted

end Query

/-! ### Entities -/

namespace Entity

/-- The directions that the entity looks in are numbers. -/
def HasDirection (e : Entity) : Prop :=
  ∀ own, e.rotation = .ok own → own.pitch.isNaN = false ∧ own.yaw.isNaN = false

/-- The distance of the entity from the origin is a number. -/
def HasDistance (e : Entity) (origin : Option Point) : Prop :=
  ∀ center own, origin = some center → e.location = .ok own →
    (own.distanceSquared center).isNaN = false

/-- The squared distance lies between the squared bounds, if there are any. -/
def WithinSquares (e : Entity) (d : Demand) : Prop :=
  d.query.distance.isOpen = true ∨ ∃ center own, d.origin = some center ∧ e.location = .ok own ∧
    d.query.distance.squared.contains (own.distanceSquared center) = true

variable {e : Entity} {d : Demand}

theorem not_isOpen_of_isInverted {α : Type} [LT α] {b : Bounds α} (inverted : b.IsInverted) :
    b.isOpen = false := by
  obtain ⟨low, high, least, -⟩ := inverted
  simp [Bounds.isOpen, least]

theorem withinSquares_iff : e.WithinSquares d ↔ e.Meets d .distance := by
  unfold WithinSquares
  simp only [Meets, FloatRange.squared, Bounds.contains_iff, Option.map_eq_some_iff,
    forall_exists_index, and_imp, forall_apply_eq_imp_iff₂]

theorem accepted_iff : e.Accepted d ↔
    (∀ aspect, aspect ≠ .distance → e.Meets d aspect) ∧ e.WithinSquares d := by
  rw [withinSquares_iff]
  constructor
  · exact fun accepted => ⟨fun aspect _ => accepted aspect, accepted .distance⟩
  · rintro ⟨others, distance⟩ aspect
    by_cases measured : aspect = .distance
    · exact measured ▸ distance
    · exact others aspect measured

theorem not_accepted_of_isInverted (directed : e.HasDirection) (inverted : d.query.IsInverted) :
    ¬ e.Accepted d := by
  intro accepted
  cases inverted with
  | level inverted =>
    rcases accepted .player with unasked | ⟨-, -, unbounded | ⟨level, -, inside⟩⟩
    · exact unasked (Or.inr (Or.inr (not_isOpen_of_isInverted inverted)))
    · simp [not_isOpen_of_isInverted inverted] at unbounded
    · simp [IntRange.contains_of_isInverted inverted] at inside
  | pitch inverted =>
    rcases accepted .rotation with unbounded | ⟨own, turned, inside, -⟩
    · simp [Query.rotationIsOpen, not_isOpen_of_isInverted inverted] at unbounded
    · simp [FloatRange.contains_of_isInverted inverted (directed own turned).1] at inside
  | yaw inverted =>
    rcases accepted .rotation with unbounded | ⟨own, turned, -, inside⟩
    · simp [Query.rotationIsOpen, not_isOpen_of_isInverted inverted] at unbounded
    · simp [FloatRange.contains_of_isInverted inverted (directed own turned).2] at inside
  | @score filter member asserted inverted =>
    obtain ⟨score, -, accepts⟩ := accepted .scores filter member
    simp [ScoreFilter.accepts, asserted, IntRange.contains_of_isInverted inverted] at accepts
  | @quantity condition member inverted =>
    rcases accepted .items with unasked | ⟨slots, -, met⟩
    · simp [unasked] at member
    · obtain ⟨slot, -, accepts⟩ := met condition member
      simp [ItemCondition.accepts, IntRange.contains_of_isInverted inverted] at accepts

theorem not_accepted_of_squared_isInverted (measured : e.HasDistance d.origin)
    (inverted : d.query.distance.squared.IsInverted) : ¬ e.Accepted d := by
  intro accepted
  rcases (accepted_iff.mp accepted).2 with unbounded | ⟨center, own, placed, located, inside⟩
  · obtain ⟨low, high, least, -⟩ := inverted
    obtain ⟨bound, given, -⟩ := Option.map_eq_some_iff.mp least
    simp [Bounds.isOpen, given] at unbounded
  · have number := measured center own placed located
    simp [FloatRange.contains_of_isInverted inverted number] at inside

end Entity

/-! ### Choices -/

namespace Chooser

variable (c : Chooser) (context : Context)

theorem outcome_choose_eq_nil (pooled : c.selector.symbol ≠ .self)
    (service : ∀ b, context.host.scoreboard = some b → b.Answers) {origin : Option Point}
    (resolved : c.query.originIn context = .ok origin)
    (pool : ∀ candidates, context.host.pool ⟨{ c.query with count := none }, origin⟩ =
      .ok candidates → ∀ e ∈ candidates, e.Answers ∧ ¬ e.Accepted (c.demand context origin)) :
    outcome (c.choose context) = .ok [] := by
  classical
  have answer (e : Entity) (member : e ∈ context.answer ⟨{ c.query with count := none }, origin⟩) :
      e.Answers ∧ ¬ e.Accepted (c.demand context origin) := by
    obtain ⟨candidates, answered, listed⟩ := (context.mem_answer_iff _ e).mp member
    exact pool candidates answered e listed
  have none_accepted : (context.answer ⟨{ c.query with count := none }, origin⟩).filter
      (fun e => e.Accepted (c.demand context origin)) = [] :=
    List.filter_eq_nil_iff.mpr fun e member => by simpa using (answer e member).2
  rw [c.outcome_choose_eq_arrange context pooled service resolved fun e member =>
    (answer e member).1, none_accepted, arrange_nil]

open Classical in
/-- Over a host that answers, an inverted range matches nothing, unless it is the distance. Whatever
the order of its bounds, a distance is accepted if its square lies between theirs, so an inverted one
matches nothing where the squares are inverted as well. -/
theorem inverted_ranges (c : Chooser) (context : Context) (pooled : c.selector.symbol ≠ .self)
    (executor : ∀ e, context.executor = some e → e.Answers)
    (service : ∀ b, context.host.scoreboard = some b → b.Answers)
    (pool : ∀ asked candidates, context.host.pool asked = .ok candidates →
      ∀ e ∈ candidates, e.Answers ∧ e.HasDirection) :
    (c.selector.query.IsInverted → outcome (c.choose context) = .ok []) ∧
    ∃ origin, c.query.originIn context = .ok origin ∧
      (c.query.distance.squared.IsInverted →
        (∀ asked candidates, context.host.pool asked = .ok candidates →
          ∀ e ∈ candidates, e.HasDistance origin) →
        outcome (c.choose context) = .ok []) ∧
      ∀ candidates, context.host.pool ⟨{ c.query with count := none }, origin⟩ = .ok candidates →
        outcome (c.choose context) = c.arrange context origin (candidates.filter fun e =>
          (∀ aspect, aspect ≠ .distance → e.Meets (c.demand context origin) aspect) ∧
            e.WithinSquares (c.demand context origin)) := by
  obtain ⟨origin, resolved⟩ := originIn_of_answers context executor c.query
  refine ⟨?_, origin, resolved, ?_, ?_⟩
  · intro inverted
    apply c.outcome_choose_eq_nil context pooled service resolved
    intro candidates answered e member
    have ⟨answers, directed⟩ := pool _ candidates answered e member
    exact ⟨answers, Entity.not_accepted_of_isInverted directed
      (Query.isInverted_forSymbol inverted c.selector.symbol c.settings)⟩
  · intro inverted measured
    apply c.outcome_choose_eq_nil context pooled service resolved
    intro candidates answered e member
    exact ⟨(pool _ candidates answered e member).1,
      Entity.not_accepted_of_squared_isInverted (measured _ candidates answered e member) inverted⟩
  · intro candidates answered
    have whole := c.outcome_choose_of_answers context pooled service resolved context.host.pool
      answered fun e member => (pool _ candidates answered e member).1
    simp only [Entity.accepted_iff] at whole
    exact whole

open Classical in
/-- Five below zero is less than three, but its square is greater, so a pig four blocks away is
chosen between the two. -/
theorem inverted_ranges_of_negative :
    let c := ofText (some "@e[rm=3,r=-5]") {}
    let pig := ({ id := "p", type := "minecraft:pig", position := ⟨4.0, 0.0, 0.0⟩ } : Body).entity 0
    let context : Context := { host := { pool := fun _ => .ok [pig], scoreboard := none } }
    c.query.distance.IsInverted ∧ outcome (c.choose context) = .ok [pig] := by
  intro c pig context
  have query : c.query = { distance := ⟨some 3.0, some (-5.0)⟩ } := by decide +kernel
  have facing : (0.0 : Float).isNaN = false := by decide +kernel
  have pooled : c.selector.symbol = .everyone := by decide +kernel
  obtain ⟨-, origin, resolved, -, choice⟩ := inverted_ranges c context (by simp [pooled])
    (by simp [context]) (by simp [context]) (by
      intro asked candidates answered e member
      obtain rfl := Except.ok.inj answered
      obtain rfl := List.mem_singleton.mp member
      refine ⟨Body.entity_answers (by decide) 0, ?_⟩
      rintro own turned
      obtain rfl := Except.ok.inj turned
      exact ⟨facing, facing⟩)
  have placed := c.placed_of_originIn context resolved
  obtain rfl : some {} = origin := by
    rw [query] at resolved
    exact Except.ok.inj resolved
  have accepted : pig.Accepted (c.demand context (some {})) := by
    intro aspect
    rw [← pig.check_eq_ok_true_iff _ placed]
    rw [demand, query]
    cases aspect <;> decide +kernel
  have whole := choice [pig] rfl
  rw [List.filter_cons_of_pos (by simpa using Entity.accepted_iff.mp accepted), List.filter_nil,
    arrange, query, Query.sampleSize, pooled] at whole
  refine ⟨?_, whole⟩
  rw [query]
  exact ⟨3.0, -5.0, rfl, rfl, by decide +kernel⟩

end Chooser

end Targeting
