import Targeting.Host
import Targeting.Keyed

/-!
# Scoreboards in memory

Objectives in the order of their creation. Each holds the scores of identities
in the order in which their entries were set.
-/
namespace Targeting

/-- Which of its services a board offers. -/
inductive BoardService where
  | full
  /-- Every look-up of an objective fails. -/
  | offline
  /-- Objectives are found but no participant is listed. -/
  | unlisted
deriving DecidableEq, Repr

structure Board where
  service : BoardService := .full
  objectives : List (String × List (Identity × Int)) := []
  named : List (String × Identity) := []
deriving DecidableEq, Repr

/-- The members of a list, each at its first place. -/
def distinct {α : Type} [DecidableEq α] : List α → List α
  | [] => []
  | a :: rest => a :: (distinct rest).filter (· ≠ a)

theorem mem_distinct {α : Type} [DecidableEq α] {a : α} {items : List α} :
    a ∈ distinct items ↔ a ∈ items := by
  induction items with
  | nil => simp [distinct]
  | cons b rest ih =>
    by_cases same : a = b
    · simp [distinct, same]
    · simp [distinct, same, ih]

theorem nodup_distinct {α : Type} [DecidableEq α] (items : List α) : (distinct items).Nodup := by
  induction items with
  | nil => exact List.nodup_nil
  | cons a rest ih => exact List.nodup_cons.mpr ⟨by simp, ih.filter _⟩

theorem distinct_of_nodup {α : Type} [DecidableEq α] {items : List α} (unique : items.Nodup) :
    distinct items = items := by
  induction items with
  | nil => rfl
  | cons a rest ih =>
    obtain ⟨fresh, unique⟩ := List.nodup_cons.mp unique
    rw [distinct, ih unique, List.filter_eq_self.mpr]
    intro b member
    exact decide_eq_true fun same => fresh (same ▸ member)

theorem distinct_append {α : Type} [DecidableEq α] (items more : List α) :
    distinct (items ++ more) = distinct items ++ (distinct more).filter (· ∉ items) := by
  induction items with
  | nil => exact (List.filter_eq_self.mpr fun _ _ => decide_eq_true List.not_mem_nil).symm
  | cons a rest ih =>
    rw [List.cons_append, distinct, distinct, ih, List.filter_append, List.filter_filter]
    simp [not_or]

namespace Board

def offlineFault : Fault := ⟨"scoreboard offline"⟩

def scores? (b : Board) (objective : String) : Option (List (Identity × Int)) :=
  Keyed.get? objective b.objectives

/-- Adds an objective without scores; `none` if it exists. -/
def addObjective? (b : Board) (objective : String) : Option Board :=
  if (b.scores? objective).isSome then none
  else some { b with objectives := Keyed.put objective [] b.objectives }

/-- Changes the scores of an objective; a board without it stays as it is. -/
def edit (b : Board) (objective : String)
    (change : List (Identity × Int) → List (Identity × Int)) : Board :=
  match b.scores? objective with
  | none => b
  | some scores => { b with objectives := Keyed.put objective (change scores) b.objectives }

def setScore (b : Board) (objective : String) (holder : Identity) (score : Int) : Board :=
  b.edit objective (Keyed.put holder score)

def resetScore (b : Board) (objective : String) (holder : Identity) : Board :=
  b.edit objective (Keyed.remove holder)

def score? (b : Board) (objective : String) (holder : Identity) : Option Int :=
  (b.scores? objective).bind (Keyed.get? holder)

/-- Everyone with a score, by first objective and then by entry. -/
def participants (b : Board) : List Identity :=
  distinct (b.objectives.flatMap fun objective => objective.2.map (·.1))

/-- The participants as the service of the board lists them. -/
def listed (b : Board) : List Identity :=
  match b.service with
  | .full => b.participants
  | .offline => []
  | .unlisted => []

/-- The board as an evaluation sees it. -/
def scoreboard (b : Board) : Scoreboard where
  objective name :=
    match b.service with
    | .offline => .error offlineFault
    | .full | .unlisted =>
      .ok ((b.scores? name).map fun scores => ⟨fun holder => .ok (Keyed.get? holder scores)⟩)
  participants := .ok b.listed

end Board

end Targeting
