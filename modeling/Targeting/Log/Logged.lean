import Targeting.Log.Notice

/-!
# Logged values

A value together with the notices of the steps that led to it, oldest first.
Steps that may fail are `ExceptT ε Logged`: a failure keeps the notices before
it.
-/
namespace Targeting

structure Logged (α : Type) where
  value : α
  notices : List Notice := []

namespace Logged

variable {α β : Type}

instance : Monad Logged where
  pure value := { value }
  bind step next :=
    let after := next step.value
    { value := after.value, notices := step.notices ++ after.notices }

/-- Reports one notice. -/
def note (notice : Notice) : Logged Unit := { value := (), notices := [notice] }

@[simp] theorem value_pure (a : α) : (pure a : Logged α).value = a := rfl

@[simp] theorem notices_pure (a : α) : (pure a : Logged α).notices = [] := rfl

@[simp] theorem value_bind (step : Logged α) (next : α → Logged β) :
    (step >>= next).value = (next step.value).value := rfl

@[simp] theorem notices_bind (step : Logged α) (next : α → Logged β) :
    (step >>= next).notices = step.notices ++ (next step.value).notices := rfl

@[ext] theorem ext {left right : Logged α} (value : left.value = right.value)
    (notices : left.notices = right.notices) : left = right := by
  cases left
  cases right
  simp_all

instance : LawfulMonad Logged :=
  LawfulMonad.mk' Logged
    (fun step => by apply Logged.ext <;> simp [Functor.map])
    (fun value next => by apply Logged.ext <;> simp)
    (fun step next last => by apply Logged.ext <;> simp [List.append_assoc])

@[simp] theorem value_map (f : α → β) (step : Logged α) : (f <$> step).value = f step.value := rfl

@[simp] theorem notices_map (f : α → β) (step : Logged α) : (f <$> step).notices = step.notices := by
  rw [map_eq_pure_bind, notices_bind, notices_pure, List.append_nil]

end Logged

/-- Reports one notice from a step that may fail. -/
def note {ε : Type} (notice : Notice) : ExceptT ε Logged Unit := ExceptT.lift (Logged.note notice)

end Targeting
