import Targeting.Argument.Reading
import Targeting.Proofs.Outcome
import Targeting.Proofs.Splitting

/-!
# Reading as a fold

A query is the fold of the constraints that its tokens are accepted as. Item
conditions only ever accumulate, and no other part of a query depends on them.
-/
namespace Targeting

open Argument

/-! ### Accepted constraints -/

/-- The constraint that a token is accepted as. -/
def Constraint.ofToken? (token : List Char) : Option Constraint :=
  let (key, value) := splitAssignment token
  if key.isEmpty then none else (outcome (Constraint.ofArgument key value)).toOption

namespace Query

/-- The accepted constraints of an argument list, in order. -/
def constraints (arguments : List Char) : List Constraint :=
  (split arguments).filterMap Constraint.ofToken?

theorem value_addToken (context : String) (q : Query) (token : List Char) :
    (q.addToken context token).value = (Constraint.ofToken? token).elim q q.add := by
  unfold addToken Constraint.ofToken?
  rcases splitAssignment token with ⟨key, value⟩
  cases key with
  | nil => rfl
  | cons c key =>
    simp only [List.isEmpty_cons, Bool.false_eq_true, if_false, outcome, Logged.value_bind]
    cases (Constraint.ofArgument (c :: key) value).run.value <;> rfl

theorem value_foldlM {α σ : Type} (step : σ → α → Logged σ) (items : List α) (start : σ) :
    (items.foldlM step start).value = items.foldl (fun state i => (step state i).value) start := by
  induction items generalizing start with
  | nil => rfl
  | cons first rest ih => rw [List.foldlM_cons, Logged.value_bind, ih, List.foldl_cons]

/-- Reading adds the accepted constraints one after the other; the rest leaves no trace. -/
theorem value_read (arguments : List Char) (selector : String) :
    (Query.read arguments selector).value = (constraints arguments).foldl Query.add {} := by
  unfold Query.read constraints
  simp only [value_foldlM, value_addToken]
  -- The fold starts at the empty query only at first.
  generalize ({} : Query) = q
  induction split arguments generalizing q with
  | nil => rfl
  | cons token rest ih =>
    rw [List.foldl_cons, ih]
    cases accepted : Constraint.ofToken? token <;> simp [accepted]

theorem constraints_append_comma {before : List Char}
    (level : (({} : Depth).after before).isLevel = true) (after : List Char) :
    constraints (before ++ ',' :: after) = constraints before ++ constraints after := by
  rw [constraints, split_append_comma level, List.filterMap_append]
  rfl

end Query

/-! ### Item conditions of constraints -/

def Constraint.conditions : Constraint → List ItemCondition
  | .items conditions => conditions
  | _ => []

namespace Query

/-- The same query with other item conditions. -/
def withItems (q : Query) (items : List ItemCondition) : Query := { q with items }

/-- A constraint adds its item conditions, and its effect on the rest does not depend on those that
are there. -/
theorem add_withItems (q : Query) (items : List ItemCondition) (constraint : Constraint) :
    (q.withItems items).add constraint =
      (q.add constraint).withItems (items ++ constraint.conditions) := by
  -- Constraints that may be negated, and a count that may be zero, add in two ways.
  cases constraint with
  | type negated | name negated | tag negated | family negated | gameMode negated =>
    cases negated <;> simp [add, withItems, Constraint.conditions]
  | count limit => cases limit <;> simp [add, withItems, Constraint.conditions]
  | _ => simp [add, withItems, Constraint.conditions]

theorem foldl_add_withItems (constraints : List Constraint) (q : Query)
    (items : List ItemCondition) : constraints.foldl add (q.withItems items) =
      (constraints.foldl add q).withItems (items ++ constraints.flatMap Constraint.conditions) := by
  induction constraints generalizing q items with
  | nil => simp
  | cons first rest ih =>
    rw [List.foldl_cons, add_withItems, ih, List.foldl_cons, List.flatMap_cons, List.append_assoc]

theorem items_foldl_add (constraints : List Constraint) (q : Query) :
    (constraints.foldl add q).items = q.items ++ constraints.flatMap Constraint.conditions :=
  congrArg Query.items (foldl_add_withItems constraints q q.items)

theorem items_read (arguments : List Char) (selector : String) :
    (Query.read arguments selector).value.items =
      (constraints arguments).flatMap Constraint.conditions := by
  rw [value_read, items_foldl_add]
  rfl

end Query

end Targeting
