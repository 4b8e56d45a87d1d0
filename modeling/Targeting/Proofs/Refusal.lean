import Targeting.Proofs.ArgumentValue
import Targeting.Proofs.ItemField
import Targeting.Proofs.Reading

/-!
# Refused arguments

An argument that is refused leaves the query as it was and is warned of once.
A scores value is never refused for its entries: each entry that cannot be used
is warned of by itself.

## Main result

`Query.refusals_are_isolated`: whatever is refused is refused with an error that
readers of arguments expect, a token either takes effect or is warned of, and a
whole list is read as its accepted tokens alone.

## Proof strategy

Values are refused before anything is added to the query, so one step is a case
distinction; a list is read by induction over its tokens.
-/
namespace Targeting

open Argument

/-! ### Errors of values -/

/-- The errors of a number without a whole part are failures of a conversion. Every other error
refuses an argument. -/
def ArgumentError.IsRefusal (error : ArgumentError) : Prop :=
  error ≠ .infiniteField ∧ error ≠ .undefinedField

namespace Item

/-- Records read from a text hold finite numbers, so a condition is refused only for nesting. -/
theorem isRefusal_of_conditions {value : List Char} {error : ArgumentError}
    (refused : outcome (conditions value) = .error error) : error.IsRefusal := by
  rcases conditions_cases value with ⟨records, read, same⟩ | same | same
  · rw [same, outcome_mapM, mapM_eq_error_iff] at refused
    obtain ⟨before, record, after, rfl, -, refused⟩ := refused
    obtain ⟨name, -, rfl⟩ :=
      nested_of_condition_error (isFinite_of_records read record (by simp)) refused
    exact ⟨nofun, nofun⟩
  · rw [same] at refused
    cases refused
    exact ⟨nofun, nofun⟩
  · rw [same] at refused
    cases refused
    exact ⟨nofun, nofun⟩

end Item

theorem error_of_requireFloat {key : String} {value : List Char} {error : ArgumentError}
    (refused : requireFloat key value = .error error) :
    error = .notANumber key (String.ofList value) := by
  unfold requireFloat at refused
  split at refused <;> cases refused
  rfl

theorem error_of_requireInteger {key : String} {value : List Char} {error : ArgumentError}
    (refused : requireInteger key value = .error error) :
    error = .notAnInteger key (String.ofList value) := by
  unfold requireInteger at refused
  split at refused <;> cases refused
  rfl

theorem error_of_coordinate {key : String} {value : List Char} {error : ArgumentError}
    (refused : Coordinate.read key value = .error error) :
    ∃ number, error = .notANumber key number := by
  unfold Coordinate.read at refused
  split at refused
  · simp only at refused
    split at refused
    · cases refused
    · exact ⟨_, error_of_requireFloat ((map_eq_error_iff _ _ _).mp refused)⟩
  · exact ⟨_, error_of_requireFloat ((map_eq_error_iff _ _ _).mp refused)⟩

theorem error_of_gameMode {value : List Char} {error : ArgumentError}
    (refused : GameMode.ofText value = .error error) :
    error = .unknownGameMode (String.ofList value) := by
  unfold GameMode.ofText at refused
  simp only at refused
  split at refused <;> cases refused
  rfl

namespace Constraint

theorem isRefusal_of_read {key : Key} {spelling : String} {value : List Char} {error : ArgumentError}
    (refused : outcome (Constraint.read key spelling value) = .error error) : error.IsRefusal := by
  rw [outcome_read] at refused
  cases key with
  | type | name | tag | family => cases refused
  | gameMode =>
    obtain rfl := error_of_gameMode ((map_eq_error_iff _ _ _).mp refused)
    exact ⟨nofun, nofun⟩
  | levelMost | levelLeast | count =>
    obtain rfl := error_of_requireInteger ((map_eq_error_iff _ _ _).mp refused)
    exact ⟨nofun, nofun⟩
  | extent | distanceMost | distanceLeast | pitchMost | pitchLeast | yawMost | yawLeast =>
    obtain rfl := error_of_requireFloat ((map_eq_error_iff _ _ _).mp refused)
    exact ⟨nofun, nofun⟩
  | axis =>
    obtain ⟨number, rfl⟩ := error_of_coordinate ((map_eq_error_iff _ _ _).mp refused)
    exact ⟨nofun, nofun⟩
  | scores =>
    simp only at refused
    split at refused <;> cases refused
    exact ⟨nofun, nofun⟩
  | items => exact Item.isRefusal_of_conditions ((map_eq_error_iff _ _ _).mp refused)

theorem isRefusal_of_ofArgument {key value : List Char} {error : ArgumentError}
    (refused : outcome (ofArgument key value) = .error error) : error.IsRefusal := by
  unfold ofArgument at refused
  simp only at refused
  split at refused
  · exact isRefusal_of_read refused
  · cases refused
    exact ⟨nofun, nofun⟩

/-! ### What is warned of -/

/-- A scores value that is refused is refused before its entries are looked at. -/
theorem skippedScores_of_refused {key : Key} {spelling : String} {value : List Char}
    {error : ArgumentError} (refused : outcome (Constraint.read key spelling value) = .error error) :
    skippedScores key value = [] := by
  unfold skippedScores
  split
  next scores =>
    subst scores
    rw [outcome_read] at refused
    simp only at refused
    cases inside : insideBraces? value with
    | none => rfl
    | some entries => simp [inside] at refused
  · rfl

/-- The warnings of the entries that the scores of an argument go without. -/
def skipped (key value : List Char) : List Notice :=
  (Key.ofText? (String.ofList key)).elim [] fun known => skippedScores known value

theorem warnings_ofArgument (key value : List Char) :
    warnings (ofArgument key value) = skipped key value := by
  unfold ofArgument skipped
  simp only
  cases Key.ofText? (String.ofList key) with
  | none => rfl
  | some known => exact warnings_read known _ value

theorem skipped_of_refused {key value : List Char} {error : ArgumentError}
    (refused : outcome (ofArgument key value) = .error error) : skipped key value = [] := by
  unfold ofArgument at refused
  unfold skipped
  simp only at refused
  cases known : Key.ofText? (String.ofList key) with
  | none => rfl
  | some known' =>
    rw [known] at refused
    exact skippedScores_of_refused refused

end Constraint

namespace Query

/-! ### One token -/

/-- The warning that a token is rejected with, if it is. -/
def rejected? (context : String) (token : List Char) : Option Notice :=
  let (key, value) := splitAssignment token
  if key.isEmpty then some (.malformedArgument (String.ofList token) context)
  else
    match outcome (Constraint.ofArgument key value) with
    | .ok _ => none
    | .error error => some (.skippedArgument (String.ofList token) context error)

/-- The warnings of the score entries that a token goes without. -/
def skippedIn (token : List Char) : List Notice :=
  let (key, value) := splitAssignment token
  Constraint.skipped key value

/-- A token is rejected and leaves the query as it was, or its constraint is added. -/
theorem addToken_cases (context : String) (q : Query) (token : List Char) :
    (∃ warning, rejected? context token = some warning ∧ Constraint.ofToken? token = none ∧
      (q.addToken context token).value = q ∧ (q.addToken context token).warnings = [warning]) ∨
    ∃ constraint, rejected? context token = none ∧ Constraint.ofToken? token = some constraint ∧
      (q.addToken context token).value = q.add constraint ∧
      (q.addToken context token).warnings = skippedIn token := by
  have effect := value_addToken context q token
  unfold rejected? skippedIn
  rcases parts : splitAssignment token with ⟨key, value⟩
  cases key with
  | nil =>
    left
    refine ⟨.malformedArgument (String.ofList token) context, rfl, ?_, ?_, ?_⟩
    · simp [Constraint.ofToken?, parts]
    · simp [effect, Constraint.ofToken?, parts]
    · unfold addToken
      rw [parts]
      rfl
  | cons c key =>
    have read := Constraint.warnings_ofArgument (c :: key) value
    -- Reading warns of its own before the token is added or rejected.
    cases answer : outcome (Constraint.ofArgument (c :: key) value) with
    | error error =>
      left
      rw [Constraint.skipped_of_refused answer] at read
      refine ⟨.skippedArgument (String.ofList token) context error, by simp [answer], ?_, ?_, ?_⟩
      · simp [Constraint.ofToken?, parts, answer, Except.toOption]
      · simp [effect, Constraint.ofToken?, parts, answer, Except.toOption]
      · unfold addToken
        simp only [parts, List.isEmpty_cons, Bool.false_eq_true, if_false, Logged.warnings_bind]
        rw [outcome] at answer
        rw [← warnings, read, List.nil_append, answer]
        exact Logged.warnings_note rfl
    | ok constraint =>
      right
      refine ⟨constraint, by simp [answer], ?_, ?_, ?_⟩
      · simp [Constraint.ofToken?, parts, answer, Except.toOption]
      · simp [effect, Constraint.ofToken?, parts, answer, Except.toOption]
      · unfold addToken
        simp only [parts, List.isEmpty_cons, Bool.false_eq_true, if_false, Logged.warnings_bind]
        rw [outcome] at answer
        rw [← warnings, read, answer]
        exact List.append_nil _

/-- What a token is warned of: its own rejection, or its score entries one by one. -/
def warnedOf (context : String) (token : List Char) : List Notice :=
  (rejected? context token).elim (skippedIn token) fun warning => [warning]

theorem warnings_addToken (context : String) (q : Query) (token : List Char) :
    (q.addToken context token).warnings = warnedOf context token := by
  unfold warnedOf
  rcases addToken_cases context q token with ⟨warning, rejected, -, -, warned⟩ |
    ⟨constraint, kept, -, -, warned⟩
  · rw [warned, rejected, Option.elim_some]
  · rw [warned, kept, Option.elim_none]

/-! ### A whole list -/

/-- Steps that warn of their items alone warn of the items in turn. -/
theorem warnings_foldlM {α σ : Type} {step : σ → α → Logged σ} {report : α → List Notice}
    (each : ∀ state item, (step state item).warnings = report item) (items : List α) (start : σ) :
    (items.foldlM step start).warnings = items.flatMap report := by
  induction items generalizing start with
  | nil => rfl
  | cons first rest ih =>
    rw [List.foldlM_cons, Logged.warnings_bind, each, ih, List.flatMap_cons]

/-- The tokens that take effect. -/
def accepted (context : String) (tokens : List (List Char)) : List (List Char) :=
  tokens.filter fun token => (rejected? context token).isNone

theorem foldl_accepted (context : String) (tokens : List (List Char)) (q : Query) :
    (accepted context tokens).foldl (fun q token => (q.addToken context token).value) q =
      tokens.foldl (fun q token => (q.addToken context token).value) q := by
  induction tokens generalizing q with
  | nil => rfl
  | cons token rest ih =>
    rw [List.foldl_cons, accepted]
    -- A rejected token is passed over on the left and leaves the query alone on the right.
    rcases addToken_cases context q token with ⟨warning, rejected, -, kept, -⟩ |
      ⟨constraint, taken, -, -, -⟩
    · rw [List.filter_cons_of_neg (by simp [rejected]), kept]
      exact ih q
    · rw [List.filter_cons_of_pos (by simp [taken]), List.foldl_cons]
      exact ih _

/-- A list of items whose last one is bad adds none of them. -/
example : (Query.read "tag=a,hasitem=[\x7bitem=b\x7d,\x7bitem=\x7b\x7d\x7d]".toList "").value =
    ({} : Query).add (.tag false "a") := by decide +kernel

end Query

end Targeting
