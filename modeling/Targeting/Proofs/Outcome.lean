import Mathlib.Data.List.Forall2
import Targeting.Filter.Entity
import Targeting.Log.Logged

/-!
# Outcomes

What a logged step comes to when its notices are left aside, and where a list
of steps breaks off: at the first item that breaks, all before it having
passed.
-/
namespace Targeting

variable {ε α β : Type}

/-- The value or the error of a step, its notices left aside. -/
def outcome (step : ExceptT ε Logged α) : Except ε α := step.run.value

@[simp] theorem outcome_pure (value : α) : outcome (pure value : ExceptT ε Logged α) = .ok value := rfl

@[simp] theorem outcome_throw (error : ε) :
    outcome (throw error : ExceptT ε Logged α) = .error error := rfl

@[simp] theorem outcome_bind (step : ExceptT ε Logged α) (next : α → ExceptT ε Logged β) :
    outcome (step >>= next) = (outcome step).bind fun value => outcome (next value) := by
  simp only [outcome, ExceptT.run_bind, Logged.value_bind]
  cases step.run.value <;> rfl

@[simp] theorem outcome_liftM (answer : Except ε α) :
    outcome (liftM answer : ExceptT ε Logged α) = answer := rfl

@[simp] theorem outcome_lift (step : Logged α) :
    outcome (ExceptT.lift step : ExceptT ε Logged α) = .ok step.value := rfl

@[simp] theorem outcome_note (notice : Notice) :
    outcome (note notice : ExceptT ε Logged Unit) = .ok () := rfl

theorem outcome_if_note (reported : Prop) [Decidable reported] (notice : Notice)
    (step : ExceptT ε Logged α) :
    outcome (if reported then do note notice; step else step) = outcome step := by
  split
  · rw [outcome_bind, outcome_note]
    rfl
  · rfl

/-! ### Answers -/

theorem bind_eq_ok_iff (answer : Except ε α) (next : α → Except ε β) (result : β) :
    answer.bind next = .ok result ↔ ∃ value, answer = .ok value ∧ next value = .ok result := by
  cases answer <;> simp [Except.bind]

theorem bind_eq_error_iff (answer : Except ε α) (next : α → Except ε β) (error : ε) :
    answer.bind next = .error error ↔
      answer = .error error ∨ ∃ value, answer = .ok value ∧ next value = .error error := by
  cases answer <;> simp [Except.bind]

theorem map_eq_ok_iff (answer : Except ε α) (f : α → β) (result : β) :
    answer.map f = .ok result ↔ ∃ value, answer = .ok value ∧ f value = result := by
  cases answer <;> simp [Except.map]

theorem map_eq_error_iff (answer : Except ε α) (f : α → β) (error : ε) :
    answer.map f = .error error ↔ answer = .error error := by
  cases answer <;> simp [Except.map]

theorem mapError_eq_ok_iff {ε' : Type} (answer : Except ε α) (f : ε → ε') (result : α) :
    answer.mapError f = .ok result ↔ answer = .ok result := by
  cases answer <;> simp [Except.mapError]

theorem toOption_eq_some_iff (answer : Except ε α) (value : α) :
    answer.toOption = some value ↔ answer = .ok value := by
  cases answer <;> simp [Except.toOption]

theorem toOption_map (answer : Except ε α) (f : α → β) :
    (answer.map f).toOption = answer.toOption.map f := by
  cases answer <;> rfl

/-! ### Where a list breaks off -/

/-- Some item breaks, and every item before it passes. -/
def FirstToBreak (passes breaks : α → Prop) (items : List α) : Prop :=
  ∃ before item after, items = before ++ item :: after ∧ (∀ i ∈ before, passes i) ∧ breaks item

@[simp] theorem firstToBreak_nil (passes breaks : α → Prop) :
    ¬ FirstToBreak passes breaks [] := by
  rintro ⟨before, item, after, split, -, -⟩
  simp at split

theorem firstToBreak_cons (passes breaks : α → Prop) (first : α) (rest : List α) :
    FirstToBreak passes breaks (first :: rest) ↔
      breaks first ∨ passes first ∧ FirstToBreak passes breaks rest := by
  constructor
  · rintro ⟨before, item, after, split, passed, broken⟩
    -- The head is the item that breaks, or one of those that pass before it.
    cases before with
    | nil =>
      obtain ⟨rfl, rfl⟩ := List.cons.inj split
      exact Or.inl broken
    | cons head before =>
      obtain ⟨rfl, rfl⟩ := List.cons.inj split
      right
      exact ⟨passed first (by simp), before, item, after, rfl,
        fun i member => passed i (by simp [member]), broken⟩
  · rintro (broken | ⟨passed, before, item, after, rfl, others, broken⟩)
    · exact ⟨[], first, rest, rfl, by simp, broken⟩
    · refine ⟨first :: before, item, after, rfl, ?_, broken⟩
      intro i member
      rcases List.mem_cons.mp member with rfl | member
      · exact passed
      · exact others i member

/-- A list breaks off in its first part, or passes it and breaks off in the second. -/
theorem firstToBreak_append (passes breaks : α → Prop) (first second : List α) :
    FirstToBreak passes breaks (first ++ second) ↔
      FirstToBreak passes breaks first ∨
        (∀ i ∈ first, passes i) ∧ FirstToBreak passes breaks second := by
  induction first with
  | nil => simp
  | cons head rest ih =>
    rw [List.cons_append, firstToBreak_cons, firstToBreak_cons, ih, List.forall_mem_cons]
    constructor
    · rintro (broken | ⟨passed, broken | ⟨others, broken⟩⟩)
      · exact Or.inl (Or.inl broken)
      · exact Or.inl (Or.inr ⟨passed, broken⟩)
      · exact Or.inr ⟨⟨passed, others⟩, broken⟩
    · rintro ((broken | ⟨passed, broken⟩) | ⟨⟨passed, others⟩, broken⟩)
      · exact Or.inl broken
      · exact Or.inr ⟨passed, Or.inl broken⟩
      · exact Or.inr ⟨passed, Or.inr ⟨others, broken⟩⟩

theorem firstToBreak_map (f : α → β) (passes breaks : β → Prop) (items : List α) :
    FirstToBreak passes breaks (items.map f) ↔
      FirstToBreak (fun i => passes (f i)) (fun i => breaks (f i)) items := by
  induction items with
  | nil => simp
  | cons first rest ih => simp only [List.map_cons, firstToBreak_cons, ih]

theorem firstToBreak_filter (keeps : α → Prop) [DecidablePred keeps] (passes breaks : α → Prop)
    (items : List α) : FirstToBreak passes breaks (items.filter fun i => keeps i) ↔
      FirstToBreak (fun i => keeps i → passes i) (fun i => keeps i ∧ breaks i) items := by
  induction items with
  | nil => simp
  | cons first rest ih =>
    by_cases kept : keeps first
    · simp [kept, firstToBreak_cons, ih]
    · simp [kept, firstToBreak_cons, ih]

/-- If some item breaks, then there is a first one. -/
theorem firstToBreak_of_mem {breaks : α → Prop} {items : List α} {item : α} (member : item ∈ items)
    (broken : breaks item) : FirstToBreak (fun i => ¬ breaks i) breaks items := by
  induction items with
  | nil => cases member
  | cons first rest ih =>
    rw [firstToBreak_cons]
    by_cases here : breaks first
    · exact Or.inl here
    · have behind : item ∈ rest := by
        rcases List.mem_cons.mp member with rfl | behind
        · exact absurd broken here
        · exact behind
      exact Or.inr ⟨here, ih behind⟩

/-- Only what the items themselves do matters. -/
theorem firstToBreak_congr {passes passes' breaks breaks' : α → Prop} {items : List α}
    (same : ∀ i ∈ items, (passes i ↔ passes' i) ∧ (breaks i ↔ breaks' i)) :
    FirstToBreak passes breaks items ↔ FirstToBreak passes' breaks' items := by
  induction items with
  | nil => simp
  | cons first rest ih =>
    have head := same first (by simp)
    have tail := ih fun i member => same i (by simp [member])
    simp only [firstToBreak_cons, head, tail]

/-! ### Steps in a row -/

theorem mapM_cons_eq (step : α → Except ε β) (first : α) (rest : List α) :
    (first :: rest).mapM step =
      (step first).bind fun value => (rest.mapM step).map (value :: ·) := by
  rw [List.mapM_cons]
  cases step first with
  | error error => rfl
  | ok value =>
    change (rest.mapM step >>= _) = _
    cases rest.mapM step <;> rfl

/-- All steps succeed, and their results stand in the order of the items. -/
theorem mapM_eq_ok_iff (step : α → Except ε β) (items : List α) (results : List β) :
    items.mapM step = .ok results ↔
      List.Forall₂ (fun item result => step item = .ok result) items results := by
  induction items generalizing results with
  | nil =>
    rw [List.mapM_nil, List.forall₂_nil_left_iff]
    exact Except.ok.injEq [] results ▸ eq_comm
  | cons first rest ih =>
    rw [mapM_cons_eq, bind_eq_ok_iff, List.forall₂_cons_left_iff]
    simp only [map_eq_ok_iff, ih, eq_comm (a := results)]
    constructor
    · rintro ⟨value, here, values, there, same⟩
      exact ⟨value, values, here, there, same⟩
    · rintro ⟨value, values, here, there, same⟩
      exact ⟨value, here, values, there, same⟩

theorem exists_mapM_iff (step : α → Except ε β) (items : List α) :
    (∃ results, items.mapM step = .ok results) ↔
      ∀ item ∈ items, ∃ result, step item = .ok result := by
  induction items with
  | nil => simp [pure, Except.pure]
  | cons first rest ih =>
    rw [List.forall_mem_cons, ← ih]
    simp only [mapM_cons_eq, bind_eq_ok_iff, map_eq_ok_iff]
    constructor
    · rintro ⟨_, value, here, values, there, -⟩
      exact ⟨⟨value, here⟩, values, there⟩
    · rintro ⟨⟨value, here⟩, values, there⟩
      exact ⟨value :: values, value, here, values, there, rfl⟩

/-- A row of steps breaks off at the first of them that fails. -/
theorem mapM_eq_error_iff (step : α → Except ε β) (items : List α) (error : ε) :
    items.mapM step = .error error ↔
      FirstToBreak (fun item => ∃ result, step item = .ok result)
        (fun item => step item = .error error) items := by
  induction items with
  | nil => simp [pure, Except.pure]
  | cons first rest ih =>
    rw [mapM_cons_eq, bind_eq_error_iff, firstToBreak_cons, ← ih]
    simp only [map_eq_error_iff, exists_and_right]

theorem outcome_mapM (step : α → ExceptT ε Logged β) (items : List α) :
    outcome (items.mapM step) = items.mapM fun item => outcome (step item) := by
  induction items with
  | nil => rfl
  | cons first rest ih =>
    rw [List.mapM_cons, outcome_bind, mapM_cons_eq]
    congr 1
    funext value
    rw [outcome_bind, ← ih]
    cases outcome (rest.mapM step) <;> rfl

/-! ### Checks in a row -/

namespace Check

@[simp] theorem error_and (fault : Fault) (second : Check) :
    Check.and (.error fault) second = .error fault := rfl

@[simp] theorem and_true (first : Check) : Check.and first (.ok true) = first := by
  rcases first with fault | _ | _ <;> rfl

@[simp] theorem and_ok (first second : Bool) :
    Check.and (.ok first) (.ok second) = .ok (first && second) := by
  cases first <;> rfl

theorem and_eq_ok_true_iff (first second : Check) :
    Check.and first second = .ok true ↔ first = .ok true ∧ second = .ok true := by
  rcases first with fault | _ | _ <;> simp

theorem and_eq_error_iff (first second : Check) (fault : Fault) :
    Check.and first second = .error fault ↔
      first = .error fault ∨ first = .ok true ∧ second = .error fault := by
  rcases first with fault' | _ | _ <;> simp

theorem all_cons (first : Check) (rest : List Check) :
    Check.all (first :: rest) = Check.and first (Check.all rest) := rfl

@[simp] theorem all_nil : Check.all [] = .ok true := rfl

theorem all_append (first second : List Check) :
    Check.all (first ++ second) = Check.and (Check.all first) (Check.all second) := by
  induction first with
  | nil => rfl
  | cons check rest ih =>
    simp only [List.cons_append, all_cons, ih]
    rcases check with fault | _ | _ <;> simp

theorem all_eq_ok_true_iff (checks : List Check) :
    Check.all checks = .ok true ↔ ∀ check ∈ checks, check = .ok true := by
  induction checks with
  | nil => simp
  | cons first rest ih => simp [all_cons, and_eq_ok_true_iff, ih]

/-- A row of checks breaks off at the first of them that does. -/
theorem all_eq_error_iff (checks : List Check) (fault : Fault) :
    Check.all checks = .error fault ↔
      FirstToBreak (· = .ok true) (· = .error fault) checks := by
  induction checks with
  | nil => simp
  | cons first rest ih => rw [all_cons, and_eq_error_iff, firstToBreak_cons, ih]

end Check

end Targeting
