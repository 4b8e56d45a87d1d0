import Targeting.Json.Value
import Targeting.Number.Shortest
import Targeting.Text.Quoted

/-!
# Json values as plain text

How a decoded value reads inside a message: truth values and the missing value
as words, decimals in their shortest form, and texts quoted where they stand
inside a list or an object.
-/
namespace Targeting

/-- Decimals keep `.0`, and exponents from -4 to 15 are written out. -/
def decimalLayout : Number.DecimalLayout := ⟨-4, 15, 2⟩

def decimalText (value : Float) : String := decimalLayout.text value

/-- The word for a value that is not there. -/
def absentWord : String := "None"

namespace Json

mutual

/-- A value as it stands inside a list or an object. -/
def innerText : Json → String
  | .null => absentWord
  | .flag value => if value then "True" else "False"
  | .whole value => toString value
  | .decimal value => decimalText value
  | .text value => Text.quoted value
  | .list items => "[" ++ ", ".intercalate (itemTexts items) ++ "]"
  | .object fields => "\x7b" ++ ", ".intercalate (fieldTexts fields) ++ "\x7d"

def itemTexts : List Json → List String
  | [] => []
  | item :: rest => innerText item :: itemTexts rest

def fieldTexts : List (String × Json) → List String
  | [] => []
  | (name, value) :: rest => (Text.quoted name ++ ": " ++ innerText value) :: fieldTexts rest

end

/-- A value by itself: a text stands as it is. -/
def display : Json → String
  | .text value => value
  | value => value.innerText

end Json

end Targeting
