import Targeting.Proofs.Outcome

/-!
# Warnings

The warnings among the notices of a step, oldest first. What is reported for
debugging alone is left aside.
-/
namespace Targeting

variable {ε α β : Type}

namespace Logged

def warnings (step : Logged α) : List Notice := step.notices.filter (·.level = .warning)

@[simp] theorem warnings_pure (value : α) : (pure value : Logged α).warnings = [] := rfl

@[simp] theorem warnings_bind (step : Logged α) (next : α → Logged β) :
    (step >>= next).warnings = step.warnings ++ (next step.value).warnings :=
  List.filter_append _ _

@[simp] theorem warnings_map (f : α → β) (step : Logged α) :
    (f <$> step).warnings = step.warnings := by
  rw [map_eq_pure_bind, warnings_bind, warnings_pure, List.append_nil]

theorem warnings_note {notice : Notice} (warns : notice.level = .warning) :
    (note notice).warnings = [notice] :=
  List.filter_cons_of_pos (by simp [warns])

end Logged

/-- The warnings of a step that may fail. -/
def warnings (step : ExceptT ε Logged α) : List Notice := step.run.warnings

@[simp] theorem warnings_pure (value : α) : warnings (pure value : ExceptT ε Logged α) = [] := rfl

@[simp] theorem warnings_throw (error : ε) : warnings (throw error : ExceptT ε Logged α) = [] := rfl

@[simp] theorem warnings_liftM (answer : Except ε α) :
    warnings (liftM answer : ExceptT ε Logged α) = [] := rfl

@[simp] theorem warnings_lift (step : Logged α) :
    warnings (ExceptT.lift step : ExceptT ε Logged α) = step.warnings :=
  Logged.warnings_map Except.ok step

theorem warnings_note_of_debug {notice : Notice} (debug : notice.level ≠ .warning) :
    warnings (note notice : ExceptT ε Logged Unit) = [] := by
  rw [note, warnings_lift]
  exact List.filter_cons_of_neg (by simp [debug])

/-- A step that succeeds is followed by the warnings of the next one, a step that fails by none. -/
theorem warnings_bind (step : ExceptT ε Logged α) (next : α → ExceptT ε Logged β) :
    warnings (step >>= next) =
      warnings step ++ (outcome step).toOption.elim [] fun value => warnings (next value) := by
  simp only [warnings, outcome, ExceptT.run_bind, Logged.warnings_bind]
  cases step.run.value <;> rfl

/-- Steps without a warning make a step without a warning. -/
theorem warnings_bind_eq_nil {step : ExceptT ε Logged α} {next : α → ExceptT ε Logged β}
    (first : warnings step = []) (second : ∀ value, warnings (next value) = []) :
    warnings (step >>= next) = [] := by
  rw [warnings_bind, first, List.nil_append]
  cases outcome step with
  | error error => rfl
  | ok value => exact second value

theorem warnings_mapM_eq_nil {step : α → ExceptT ε Logged β} (quiet : ∀ a, warnings (step a) = [])
    (items : List α) : warnings (items.mapM step) = [] := by
  induction items with
  | nil => rfl
  | cons first rest ih =>
    rw [List.mapM_cons]
    apply warnings_bind_eq_nil (quiet first)
    intro value
    exact warnings_bind_eq_nil ih fun _ => rfl

end Targeting
