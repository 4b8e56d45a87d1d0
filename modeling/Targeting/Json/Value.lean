import Targeting.Keyed

/-!
# Json values

Decoded values. Whole numbers and decimals are told apart by how they were
written, and an object keeps its keys in order, each once. A whole number that
can be read has few enough digits to be written again.
-/
namespace Targeting

inductive Json where
  | null
  | flag (value : Bool)
  | whole (value : Int)
  | decimal (value : Float)
  | text (value : String)
  | list (items : List Json)
  | object (fields : List (String × Json))

namespace Json

/-- Whether a value counts as present: null, false, zero and empty values do not. -/
def isPresent : Json → Bool
  | .null => false
  | .flag value => value
  | .whole value => value ≠ 0
  | .decimal value => !(value == 0.0)
  | .text value => !value.isEmpty
  | .list items => !items.isEmpty
  | .object fields => !fields.isEmpty

def member? (name : String) : Json → Option Json
  | .object fields => Keyed.get? name fields
  | _ => none

theorem sizeOf_get?_lt {name : String} {fields : List (String × Json)} {value : Json}
    (found : Keyed.get? name fields = some value) : sizeOf value + 1 < sizeOf fields := by
  induction fields with
  | nil => simp [Keyed.get?] at found
  | cons entry rest ih =>
    obtain ⟨key, held⟩ := entry
    simp only [Keyed.get?] at found
    split at found
    · cases found
      simp only [List.cons.sizeOf_spec, Prod.mk.sizeOf_spec]
      omega
    · have smaller := ih found
      simp only [List.cons.sizeOf_spec]
      omega

end Json

end Targeting
