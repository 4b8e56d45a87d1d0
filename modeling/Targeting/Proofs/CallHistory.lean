import Mathlib.Data.List.Induction
import Mathlib.Data.List.Nodup
import Targeting.Proofs.HolderIdentity

/-!
# Calls on a scoreboard

A history is a list of calls. Which score an objective gives an identity, when an
objective was created and when an entry was made are read off the calls alone, and
so is the order of the participants.

## Main results

`scores_snoc`: what one more call does to the scores.

`Precedes.asymm`: participants have one order.

`Chronological.snoc`: a list to which the newest is added at the end stays in the
order of time.
-/
namespace Targeting

/-- A call on a scoreboard, or one that gives out the identities of its holders. -/
inductive Call where
  | addObjective (objective : String)
  | setScore (objective : String) (holder : Identity) (score : Int)
  | resetScore (objective : String) (holder : Identity)
  /-- Asks for the identity of an entity or of a bare name. -/
  | identify (holder : Holder)
  /-- Makes an entity, which does not come with an identity from elsewhere. -/
  | make (draft : Draft) (fresh : World.Fresh draft)

namespace Call

def perform : Call → StateM World Unit
  | addObjective objective => discard (World.addObjective objective)
  | setScore objective holder score => World.changeBoard (·.setScore objective holder score)
  | resetScore objective holder => World.changeBoard (·.resetScore objective holder)
  | identify holder => discard (World.identityOf holder)
  | make draft _ => discard (World.make draft)

/-- The world after calls, from an empty one on. -/
def after (calls : List Call) : World := calls.foldl (fun w call => (call.perform.run w).2) {}

/-! ### The calls alone -/

/-- The call sets or resets the score of the identity. -/
def Touches (objective : String) (holder : Identity) (call : Call) : Prop :=
  call = .resetScore objective holder ∨ ∃ score, call = .setScore objective holder score

/-- The score was set after the objective was added, and neither set nor reset since. -/
def Scores (calls : List Call) (objective : String) (holder : Identity) (score : Int) : Prop :=
  ∃ before later, calls = before ++ .setScore objective holder score :: later ∧
    .addObjective objective ∈ before ∧ ∀ call ∈ later, ¬call.Touches objective holder

/-- The objective was first added by the call after the first `moment` ones. -/
def CreatedAt (calls : List Call) (objective : String) (moment : Nat) : Prop :=
  ∃ before later, calls = before ++ .addObjective objective :: later ∧ before.length = moment ∧
    .addObjective objective ∉ before

/-- The call after the first `moment` ones set a score where there was none, and it was not reset
since. -/
def EnteredAt (calls : List Call) (objective : String) (holder : Identity) (moment : Nat) : Prop :=
  ∃ before score later, calls = before ++ .setScore objective holder score :: later ∧
    before.length = moment ∧ .addObjective objective ∈ before ∧
    (∀ old, ¬Scores before objective holder old) ∧ .resetScore objective holder ∉ later

/-- The first dates from an earlier moment than the second. -/
def Earlier {α : Type} (since : α → Nat → Prop) (first second : α) : Prop :=
  ∃ moment later, since first moment ∧ since second later ∧ moment < later

/-- The earliest objective with a score of the identity. -/
def FirstScores (calls : List Call) (holder : Identity) (objective : String) : Prop :=
  (∃ score, Scores calls objective holder score) ∧
    ∀ other score, Scores calls other holder score →
      other = objective ∨ Earlier (CreatedAt calls) objective other

/-- The order of participants: by the earliest objective that scores them, and within it by when
their entry was made. -/
def Precedes (calls : List Call) (first second : Identity) : Prop :=
  ∃ objective other, FirstScores calls first objective ∧ FirstScores calls second other ∧
    (Earlier (CreatedAt calls) objective other ∨
      objective = other ∧ Earlier (EnteredAt calls objective) first second)

variable {calls : List Call} {call : Call} {objective : String} {holder : Identity} {moment : Nat}

/-! ### One more call -/

theorem scores_snoc {score : Int} :
    Scores (calls ++ [call]) objective holder score ↔
      (call = .setScore objective holder score ∧ .addObjective objective ∈ calls) ∨
        (Scores calls objective holder score ∧ ¬call.Touches objective holder) := by
  constructor
  · rintro ⟨before, later, split, added, untouched⟩
    -- The set that counts is the new call itself, or one of those before it.
    rcases later.eq_nil_or_concat with rfl | ⟨rest, last, rfl⟩
    · obtain ⟨rfl, same⟩ := List.append_inj' split rfl
      exact Or.inl ⟨List.singleton_inj.mp same, added⟩
    · rw [List.concat_eq_append] at split untouched
      rw [← List.cons_append, ← List.append_assoc] at split
      obtain ⟨rfl, same⟩ := List.append_inj' split rfl
      obtain rfl := List.singleton_inj.mp same
      exact Or.inr ⟨⟨before, rest, rfl, added, fun call member =>
        untouched call (List.mem_append_left _ member)⟩, untouched call (by simp)⟩
  · rintro (⟨rfl, added⟩ | ⟨⟨before, later, rfl, added, untouched⟩, kept⟩)
    · exact ⟨calls, [], rfl, added, List.forall_mem_nil _⟩
    · refine ⟨before, later ++ [call], by simp, added, fun other member => ?_⟩
      rcases List.mem_append.mp member with old | new
      · exact untouched other old
      · exact List.mem_singleton.mp new ▸ kept

theorem scores_snoc_of_untouched {score : Int} (untouched : ¬call.Touches objective holder) :
    Scores (calls ++ [call]) objective holder score ↔ Scores calls objective holder score := by
  have other : call ≠ .setScore objective holder score := fun same =>
    untouched (Or.inr ⟨score, same⟩)
  simp [scores_snoc, untouched, other]

theorem Scores.added {score : Int} (scores : Scores calls objective holder score) :
    .addObjective objective ∈ calls := by
  obtain ⟨before, later, rfl, added, -⟩ := scores
  exact List.mem_append_left _ added

theorem Scores.set {score : Int} (scores : Scores calls objective holder score) :
    .setScore objective holder score ∈ calls := by
  obtain ⟨before, later, rfl, -, -⟩ := scores
  simp

theorem CreatedAt.snoc (created : CreatedAt calls objective moment) (call : Call) :
    CreatedAt (calls ++ [call]) objective moment := by
  obtain ⟨before, later, rfl, length, fresh⟩ := created
  exact ⟨before, later ++ [call], by simp, length, fresh⟩

theorem CreatedAt.lt_length (created : CreatedAt calls objective moment) :
    moment < calls.length := by
  obtain ⟨before, later, rfl, rfl, -⟩ := created
  simp

theorem CreatedAt.added (created : CreatedAt calls objective moment) :
    .addObjective objective ∈ calls := by
  obtain ⟨before, later, rfl, -, -⟩ := created
  simp

theorem EnteredAt.snoc (entered : EnteredAt calls objective holder moment)
    (kept : call ≠ .resetScore objective holder) :
    EnteredAt (calls ++ [call]) objective holder moment := by
  obtain ⟨before, score, later, rfl, length, added, fresh, standing⟩ := entered
  refine ⟨before, score, later ++ [call], by simp, length, added, fresh, fun member => ?_⟩
  rcases List.mem_append.mp member with old | new
  · exact standing old
  · exact kept (List.mem_singleton.mp new).symm

theorem EnteredAt.lt_length (entered : EnteredAt calls objective holder moment) :
    moment < calls.length := by
  obtain ⟨before, score, later, rfl, rfl, -⟩ := entered
  simp

/-! ### Moments -/

/-- Of two places in a list, the list before the later one goes through the earlier one. -/
theorem split_at_both {α : Type} {before later before₂ later₂ : List α} {item second : α}
    (same : before ++ item :: later = before₂ ++ second :: later₂)
    (shorter : before.length < before₂.length) :
    ∃ between, before₂ = before ++ item :: between ∧ later = between ++ second :: later₂ := by
  rcases List.append_eq_append_iff.mp same with ⟨rest, rfl, split⟩ | ⟨rest, rfl, -⟩
  · cases rest with
    | nil => simp at shorter
    | cons first between =>
      obtain ⟨rfl, rfl⟩ := List.cons.inj split
      exact ⟨between, rfl, rfl⟩
  · rw [List.length_append] at shorter
    omega

theorem CreatedAt.not_lt {later : Nat} (created : CreatedAt calls objective moment)
    (also : CreatedAt calls objective later) : ¬moment < later := by
  intro earlier
  obtain ⟨before, rest, rfl, rfl, -⟩ := created
  obtain ⟨before₂, rest₂, same, rfl, fresh⟩ := also
  obtain ⟨between, rfl, -⟩ := split_at_both same earlier
  exact fresh (by simp)

/-- A score that was set and not reset since is there, whatever it is by now. -/
theorem exists_scores {before between : List Call} {score : Int}
    (added : .addObjective objective ∈ before) (kept : .resetScore objective holder ∉ between) :
    ∃ now, Scores (before ++ .setScore objective holder score :: between) objective holder now := by
  induction between using List.reverseRecOn with
  | nil => exact ⟨score, before, [], rfl, added, List.forall_mem_nil _⟩
  | append_singleton rest call ih =>
    rw [← List.cons_append, ← List.append_assoc]
    -- The last set among the calls is the one that counts now.
    by_cases set : ∃ value, call = .setScore objective holder value
    · obtain ⟨value, rfl⟩ := set
      exact ⟨value, scores_snoc.mpr (Or.inl ⟨rfl, List.mem_append_left _ added⟩)⟩
    · have untouched : ¬call.Touches objective holder := by
        rintro (rfl | touched)
        · exact kept (by simp)
        · exact set touched
      obtain ⟨now, scores⟩ := ih fun member => kept (List.mem_append_left _ member)
      exact ⟨now, (scores_snoc_of_untouched untouched).mpr scores⟩

theorem EnteredAt.not_lt {later : Nat} (entered : EnteredAt calls objective holder moment)
    (also : EnteredAt calls objective holder later) : ¬moment < later := by
  intro earlier
  obtain ⟨before, score, rest, rfl, rfl, added, -, standing⟩ := entered
  obtain ⟨before₂, score₂, rest₂, same, rfl, -, fresh, -⟩ := also
  obtain ⟨between, rfl, rfl⟩ := split_at_both same earlier
  -- At the later moment there was a score already, set at the earlier one.
  obtain ⟨now, scores⟩ := exists_scores added fun member => standing (List.mem_append_left _ member)
  exact fresh now scores

theorem Earlier.asymm {α : Type} {since : α → Nat → Prop} {first second : α}
    (order : Earlier since first second)
    (single : ∀ item moment later, since item moment → since item later → ¬moment < later) :
    ¬Earlier since second first := by
  obtain ⟨moment, later, here, there, before⟩ := order
  rintro ⟨again, last, back, also, after⟩
  have up : moment ≥ last := Nat.not_lt.mp (single first moment last here also)
  have down : again ≥ later := Nat.not_lt.mp (single second again later back there)
  omega

theorem FirstScores.unique {other : String} (first : FirstScores calls holder objective)
    (also : FirstScores calls holder other) : objective = other := by
  obtain ⟨⟨score, scores⟩, earliest⟩ := first
  obtain ⟨⟨value, stands⟩, leading⟩ := also
  rcases earliest other value stands with same | before
  · exact same.symm
  · rcases leading objective score scores with same | after
    · exact same
    · exact absurd after (before.asymm fun _ _ _ => CreatedAt.not_lt)

/-- Participants have one order. -/
theorem Precedes.asymm {first second : Identity} (order : Precedes calls first second) :
    ¬Precedes calls second first := by
  obtain ⟨objective, other, here, there, before⟩ := order
  rintro ⟨_, _, back, also, after⟩
  obtain rfl := there.unique back
  obtain rfl := here.unique also
  rcases before with before | ⟨rfl, before⟩
  · rcases after with after | ⟨rfl, -⟩
    · exact before.asymm (fun _ _ _ => CreatedAt.not_lt) after
    · exact before.asymm (fun _ _ _ => CreatedAt.not_lt) before
  · rcases after with after | ⟨-, after⟩
    · exact after.asymm (fun _ _ _ => CreatedAt.not_lt) after
    · exact before.asymm (fun _ _ _ => EnteredAt.not_lt) after

/-! ### Lists in order of time -/

section Chronological

variable {α : Type} {since after : α → Nat → Prop} {items : List α}

/-- A list whose members date from increasing moments. -/
structure Chronological (since : α → Nat → Prop) (items : List α) : Prop where
  nodup : items.Nodup
  ordered : items.Pairwise (Earlier since)
  dated : ∀ item ∈ items, ∃ moment, since item moment

theorem chronological_nil (since : α → Nat → Prop) : Chronological since [] :=
  ⟨List.nodup_nil, List.Pairwise.nil, List.forall_mem_nil _⟩

theorem Chronological.imp (chronological : Chronological since items)
    (kept : ∀ item ∈ items, ∀ moment, since item moment → after item moment) :
    Chronological after items where
  nodup := chronological.nodup
  ordered := by
    refine chronological.ordered.imp_of_mem ?_
    rintro first second member other ⟨moment, later, since, also, before⟩
    exact ⟨moment, later, kept first member moment since, kept second other later also, before⟩
  dated item member := by
    obtain ⟨moment, since⟩ := chronological.dated item member
    exact ⟨moment, kept item member moment since⟩

theorem Chronological.filter (chronological : Chronological since items) (keep : α → Bool) :
    Chronological since (items.filter keep) where
  nodup := chronological.nodup.filter keep
  ordered := chronological.ordered.filter keep
  dated item member := chronological.dated item (List.mem_of_mem_filter member)

/-- What dates from now goes to the end. -/
theorem Chronological.snoc {now : Nat} {item : α} (chronological : Chronological since items)
    (kept : ∀ old ∈ items, ∀ moment, since old moment → after old moment ∧ moment < now)
    (new : after item now) (fresh : item ∉ items) : Chronological after (items ++ [item]) where
  nodup := by
    rw [List.nodup_append]
    refine ⟨chronological.nodup, List.nodup_singleton item, ?_⟩
    rintro old member last same rfl
    exact fresh (List.mem_singleton.mp same ▸ member)
  ordered := by
    have old := chronological.imp fun old member moment since => (kept old member moment since).1
    rw [List.pairwise_append]
    refine ⟨old.ordered, List.pairwise_singleton _ _, ?_⟩
    intro earlier member last same
    obtain ⟨moment, since⟩ := chronological.dated earlier member
    obtain ⟨also, past⟩ := kept earlier member moment since
    rw [List.mem_singleton.mp same]
    exact ⟨moment, now, also, new, past⟩
  dated other member := by
    rcases List.mem_append.mp member with old | last
    · obtain ⟨moment, since⟩ := chronological.dated other old
      exact ⟨moment, (kept other old moment since).1⟩
    · exact ⟨now, List.mem_singleton.mp last ▸ new⟩

end Chronological

end Call

end Targeting
