import Targeting.Argument.Reading
import Targeting.Proofs.Warning

/-!
# Values of arguments

What a value comes to under each key, and what is warned of on the way. Only
the entries of a scores value are warned of one by one; everything else either
becomes a constraint or is refused as a whole.
-/
namespace Targeting

open Argument

/-! ### Score entries -/

namespace ScoreFilter

/-- The warning that an entry is skipped with, if it is. -/
def skipped? (entry : List Char) : Option Notice :=
  match ScoreFilter.read entry with
  | .ok _ => none
  | .error notice => some notice

theorem level_of_skipped {entry : List Char} {notice : Notice}
    (skipped : ScoreFilter.read entry = .error notice) : notice.level = .warning := by
  unfold ScoreFilter.read at skipped
  simp only at skipped
  split at skipped
  · cases skipped
    rfl
  split at skipped
  · cases skipped
    rfl
  split at skipped <;> cases skipped
  rfl

theorem value_readAll (entries : List (List Char)) :
    (readAll entries).value = entries.filterMap fun entry => (ScoreFilter.read entry).toOption := by
  induction entries with
  | nil => rfl
  | cons entry rest ih =>
    unfold readAll
    cases taken : ScoreFilter.read entry <;> simp [taken, ih, Except.toOption]

theorem warnings_readAll (entries : List (List Char)) :
    (readAll entries).warnings = entries.filterMap skipped? := by
  induction entries with
  | nil => rfl
  | cons entry rest ih =>
    unfold readAll
    cases taken : ScoreFilter.read entry with
    | ok filter => simp [skipped?, taken, ih]
    | error notice => simp [skipped?, taken, ih, Logged.warnings_note (level_of_skipped taken)]

end ScoreFilter

/-! ### Numbers -/

theorem toOption_requireFloat (key : String) (value : List Char) :
    (requireFloat key value).toOption = Number.leadingFloat? value := by
  unfold requireFloat
  cases Number.leadingFloat? value <;> rfl

theorem toOption_requireInteger (key : String) (value : List Char) :
    (requireInteger key value).toOption = Number.leadingInteger? value := by
  unfold requireInteger
  cases Number.leadingInteger? value <;> rfl

/-! ### Item conditions -/

namespace Item

/-- Unknown fields of an item are reported, but not as a warning. -/
theorem warnings_condition (record : Record) : warnings (condition record) = [] := by
  unfold condition
  iterate 5 refine warnings_bind_eq_nil (warnings_liftM _) fun _ => ?_
  simp only
  split
  · exact warnings_bind_eq_nil (warnings_note_of_debug (by simp [Notice.level])) fun _ => rfl
  · rfl

/-- A value spells records, which are read one by one, or is refused for its shape. -/
theorem conditions_cases (value : List Char) :
    (∃ records, records? (Text.trim value) = some records ∧
      conditions value = records.mapM condition) ∨
    conditions value = throw (.itemsGrammar (String.ofList value)) ∨
    conditions value = throw (.itemsShape (String.ofList value)) := by
  unfold conditions
  simp only
  split
  · cases records? (Text.trim value) with
    | some records => exact Or.inl ⟨records, rfl, rfl⟩
    | none => exact Or.inr (Or.inl rfl)
  · cases records? (Text.trim value) with
    | some records => exact Or.inl ⟨records, rfl, rfl⟩
    | none => exact Or.inr (Or.inl rfl)
  · exact Or.inr (Or.inr rfl)

theorem warnings_conditions (value : List Char) : warnings (conditions value) = [] := by
  rcases conditions_cases value with ⟨records, -, same⟩ | same | same
  · rw [same]
    exact warnings_mapM_eq_nil warnings_condition records
  · rw [same, warnings_throw]
  · rw [same, warnings_throw]

end Item

/-! ### Values -/

namespace Constraint

/-- What a value comes to under a key. -/
theorem outcome_read (key : Key) (spelling : String) (value : List Char) :
    outcome (Constraint.read key spelling value) =
      let signed := splitNegation value
      let number := requireFloat spelling (unquote value)
      let integer := requireInteger spelling (unquote value)
      match key with
      | .type => .ok (.type signed.1 (String.ofList signed.2))
      | .name => .ok (.name signed.1 (String.ofList signed.2))
      | .tag => .ok (.tag signed.1 (String.ofList signed.2))
      | .family => .ok (.family signed.1 (String.ofList signed.2))
      | .gameMode => (GameMode.ofText signed.2).map (.gameMode signed.1)
      | .levelMost => integer.map .levelMost
      | .levelLeast => integer.map .levelLeast
      | .axis along => (Coordinate.read spelling (unquote value)).map (.axis along)
      | .extent along => number.map (.extent along)
      | .distanceMost => number.map .distanceMost
      | .distanceLeast => number.map .distanceLeast
      | .count => integer.map fun n => .count (CountLimit.ofSigned? n)
      | .pitchMost => number.map .pitchMost
      | .pitchLeast => number.map .pitchLeast
      | .yawMost => number.map .yawMost
      | .yawLeast => number.map .yawLeast
      | .scores =>
        match insideBraces? value with
        | none => .error (.scoresShape (String.ofList value))
        | some entries => .ok (.scores
          ((split entries).filterMap fun entry => (ScoreFilter.read entry).toOption))
      | .items => (outcome (Item.conditions value)).map .items := by
  cases key with
  | type | name | tag | family => rfl
  | gameMode | levelMost | levelLeast | axis | extent | distanceMost | distanceLeast | pitchMost
    | pitchLeast | yawMost | yawLeast | items =>
    simp only [Constraint.read, outcome_bind, outcome_liftM, outcome_pure]
    rfl
  | count =>
    simp only [Constraint.read, outcome_bind, outcome_liftM]
    -- The report of a count of zero does not change what it comes to.
    cases requireInteger spelling (unquote value) with
    | error error => rfl
    | ok n =>
      simp only [Except.bind, Except.map]
      split <;> rfl
  | scores =>
    simp only [Constraint.read]
    cases insideBraces? value with
    | none => rfl
    | some entries =>
      simp only [← ScoreFilter.value_readAll]
      rfl

/-- The warnings of the entries that a scores value goes without. -/
def skippedScores (key : Key) (value : List Char) : List Notice :=
  if key = .scores then
    (insideBraces? value).elim [] fun entries => (split entries).filterMap ScoreFilter.skipped?
  else []

/-- Nothing is warned of while a value is read, the entries of a scores value aside. -/
theorem warnings_read (key : Key) (spelling : String) (value : List Char) :
    warnings (Constraint.read key spelling value) = skippedScores key value := by
  cases key with
  | type | name | tag | family => rfl
  | gameMode | levelMost | levelLeast | axis | extent | distanceMost | distanceLeast | pitchMost
    | pitchLeast | yawMost | yawLeast => exact warnings_bind_eq_nil rfl fun _ => rfl
  | count =>
    apply warnings_bind_eq_nil rfl
    intro n
    simp only
    -- A count of zero is reported, but not as a warning.
    split
    · exact warnings_bind_eq_nil (warnings_note_of_debug (by decide)) fun _ => rfl
    · rfl
  | scores =>
    simp only [Constraint.read, skippedScores, if_true]
    cases insideBraces? value with
    | none => rfl
    | some entries =>
      rw [Option.elim_some, ← ScoreFilter.warnings_readAll]
      simp only [warnings_bind, warnings_lift, outcome_lift]
      exact List.append_nil _
  | items =>
    apply warnings_bind_eq_nil
    · exact Item.warnings_conditions value
    · exact fun _ => rfl

end Constraint

end Targeting
