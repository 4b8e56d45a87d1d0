import Targeting.Bounds.Literal
import Targeting.Item.Record
import Targeting.Log.Logged

/-!
# Item conditions

How the fields of a record become a condition on items. Fields that no
condition has are reported and left out.
-/
namespace Targeting.Item

open Text Number

/-- Scalars read as text: numbers in their own spelling, truth values in lower case. -/
def Scalar.toText : Scalar → String
  | .text value => value
  | .whole value => toString value
  | .decimal value => decimalText value
  | .flag value => if value then "true" else "false"

def truncate (value : Float) : Except ArgumentError Int :=
  match truncate? value with
  | some n => .ok n
  | none => .error (if value.isNaN then .undefinedField else .infiniteField)

/-- A number asks for itself, a text for the range it spells, anything else for nothing. -/
def Scalar.toRange : Scalar → Except ArgumentError IntRange
  | .text value => .ok ((IntRange.parse? value.toList).getD {})
  | .whole value => .ok (.exactly value)
  | .decimal value => (truncate value).map .exactly
  | .flag _ => .ok {}

def Scalar.toDamage : Scalar → Except ArgumentError (Option Int)
  | .text value => .ok (leadingInteger? value.toList)
  | .whole value => .ok (some value)
  | .decimal value => (truncate value).map some
  | .flag _ => .ok none

def fieldNames : List String := ["item", "quantity", "data", "location", "slot"]

/-- Reads one field, or keeps the default when the record does not have it. -/
def field {α : Type} (record : Record) (name : String) (default : α)
    (read : Scalar → Except ArgumentError α) : Except ArgumentError α :=
  match Keyed.get? name record with
  | none => .ok default
  | some .nested => .error (.nestedField name)
  | some (.scalar value) => read value

def unknownFields (record : Record) : List String :=
  ((record.map (·.1)).filter fun name => !fieldNames.contains name).mergeSort fun a b => a ≤ b

def condition (record : Record) : ExceptT ArgumentError Logged ItemCondition := do
  let item ← field record "item" none fun value => .ok (some value.toText)
  let quantity ← field record "quantity" ⟨some 1, none⟩ Scalar.toRange
  let damage ← field record "data" none Scalar.toDamage
  let location ← field record "location" none fun value => .ok (some value.toText)
  let slot ← field record "slot" none fun value => value.toRange.map some
  -- Only a record that is accepted is reported for its unknown fields.
  let unknown := unknownFields record
  if !unknown.isEmpty then note (.unknownItemFields unknown)
  return { item, quantity, damage, location, slot }

def conditions (value : List Char) : ExceptT ArgumentError Logged (List ItemCondition) := do
  let text := trim value
  match text with
  | '{' :: _ | '[' :: _ =>
    match records? text with
    | some records => records.mapM condition
    | none => throw (.itemsGrammar (String.ofList value))
  | _ => throw (.itemsShape (String.ofList value))

end Targeting.Item
