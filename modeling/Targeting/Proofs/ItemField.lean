import Targeting.Item.Condition
import Targeting.Proofs.ItemGrammar
import Targeting.Proofs.Outcome

/-!
# Numbers in item fields

A field may be asked for as a whole number, and an infinite number or one that
is none has no whole part. No such number gets into a record: a word that
spells one stays a text. So the only fields that are refused are nested ones.

## Proof strategy

What a word stands for is finite, the productions of the grammar pass values on
as they are, and conversions of finite numbers do not fail.
-/
namespace Targeting.Item

/-! ### Finite records -/

/-- The number, if it is one, has a whole part. -/
def Scalar.IsFinite : Scalar → Prop
  | .decimal value => Number.isFinite value = true
  | _ => True

def Value.IsFinite : Value → Prop
  | .scalar value => value.IsFinite
  | .nested => True

def Record.IsFinite (record : Record) : Prop := ∀ entry ∈ record, entry.2.IsFinite

theorem Scalar.ofWord_isFinite (word : List Char) : (Scalar.ofWord word).IsFinite := by
  unfold Scalar.ofWord
  simp only
  split
  · trivial
  split
  · trivial
  split
  · trivial
  split
  · trivial
  next value spelled =>
    split
    · trivial
    next finite =>
      have finite : Number.isFinite value = true := by simpa using finite
      -- A number that is written as a whole one and is too long for that is still finite.
      split
      · split
        · trivial
        · exact finite
      · exact finite

/-- Every number that is read has a whole part. -/
def Reading.IsFinite : Reading → Prop
  | .value bound => bound.IsFinite
  | .pairs bindings | .object bindings => Record.IsFinite bindings
  | .objects members | .array members | .start members =>
    ∀ bindings ∈ members, Record.IsFinite bindings

theorem isFinite_of_derives {reading : Reading} {tokens : List Token}
    (derived : Derives reading tokens) : reading.IsFinite := by
  induction derived with
  | word text => exact Scalar.ofWord_isFinite text
  | quoted | inner | list => trivial
  | pair _ _ value => exact List.forall_mem_singleton.mpr value
  | pairs _ _ _ value rest => exact List.forall_mem_cons.mpr ⟨value, rest⟩
  | blank | empty => exact List.forall_mem_nil _
  | object _ pairs => exact pairs
  | single _ object => exact List.forall_mem_singleton.mpr object
  | objects _ _ object behind => exact List.forall_mem_cons.mpr ⟨object, behind⟩
  | array _ members => exact members
  | alone _ object => exact List.forall_mem_singleton.mpr object
  | several _ array => exact array

/-- The objects of a text hold no infinite number, whichever of their bindings are kept. -/
theorem isFinite_of_spells {text : List Char} {objects : List Bindings}
    (spelled : Spells text objects) :
    ∀ object ∈ objects, Record.IsFinite (Keyed.ofPairs object) := by
  obtain ⟨tokens, -, derived⟩ := spelled
  intro object member entry kept
  exact isFinite_of_derives derived object member entry (Keyed.mem_of_mem_ofPairs kept)

theorem isFinite_of_records {text : List Char} {records : List Record}
    (read : records? text = some records) : ∀ record ∈ records, record.IsFinite := by
  obtain ⟨objects, spelled, rfl⟩ := records?_eq_some_iff.mp read
  exact List.forall_mem_map.mpr (isFinite_of_spells spelled)

/-! ### Refused fields -/

theorem truncate_of_isFinite {value : Float} (finite : Number.isFinite value = true) :
    ∃ n, truncate value = .ok n := by
  obtain ⟨binary, decoded⟩ := Option.isSome_iff_exists.mp finite
  exact ⟨binary.truncate, by simp [truncate, Number.truncate?, decoded]⟩

theorem Scalar.toRange_of_isFinite {value : Scalar} (finite : value.IsFinite) :
    ∃ range, value.toRange = .ok range := by
  cases value with
  | decimal value =>
    obtain ⟨n, whole⟩ := truncate_of_isFinite finite
    exact ⟨.exactly n, by simp [toRange, whole, Except.map]⟩
  | _ => exact ⟨_, rfl⟩

theorem Scalar.toDamage_of_isFinite {value : Scalar} (finite : value.IsFinite) :
    ∃ damage, value.toDamage = .ok damage := by
  cases value with
  | decimal value =>
    obtain ⟨n, whole⟩ := truncate_of_isFinite finite
    exact ⟨some n, by simp [toDamage, whole, Except.map]⟩
  | _ => exact ⟨_, rfl⟩

/-- A field is refused only for being nested, if no finite number is. -/
theorem nested_of_field_error {α : Type} {record : Record} (finite : record.IsFinite) {name : String}
    {default : α} {read : Scalar → Except ArgumentError α}
    (reads : ∀ value : Scalar, value.IsFinite → ∃ result, read value = .ok result)
    {error : ArgumentError} (refused : field record name default read = .error error) :
    error = .nestedField name := by
  unfold field at refused
  split at refused
  next => cases refused
  next =>
    cases refused
    rfl
  next value found =>
    obtain ⟨result, returned⟩ := reads value (finite _ (Keyed.mem_of_get? found))
    rw [returned] at refused
    cases refused

theorem nested_of_condition_error {record : Record} (finite : record.IsFinite)
    {error : ArgumentError} (refused : outcome (condition record) = .error error) :
    ∃ name ∈ fieldNames, error = .nestedField name := by
  have text (value : Scalar) (_ : value.IsFinite) :
      ∃ result, (.ok (some value.toText) : Except ArgumentError (Option String)) = .ok result :=
    ⟨_, rfl⟩
  have range (value : Scalar) (whole : value.IsFinite) :
      ∃ result, value.toRange.map some = .ok result := by
    obtain ⟨range, returned⟩ := value.toRange_of_isFinite whole
    exact ⟨some range, by rw [returned]; rfl⟩
  unfold condition at refused
  simp only [outcome_bind, outcome_liftM, bind_eq_error_iff] at refused
  -- The five fields are read in turn, and what follows them does not fail.
  rcases refused with item | ⟨_, -, quantity | ⟨_, -, damage | ⟨_, -, location | ⟨_, -, slot | rest⟩⟩⟩⟩
  · exact ⟨"item", by decide, nested_of_field_error finite text item⟩
  · exact ⟨"quantity", by decide,
      nested_of_field_error finite (fun _ => Scalar.toRange_of_isFinite) quantity⟩
  · exact ⟨"data", by decide,
      nested_of_field_error finite (fun _ => Scalar.toDamage_of_isFinite) damage⟩
  · exact ⟨"location", by decide, nested_of_field_error finite text location⟩
  · exact ⟨"slot", by decide, nested_of_field_error finite range slot⟩
  · obtain ⟨_, -, rest⟩ := rest
    split at rest <;> cases rest

end Targeting.Item
