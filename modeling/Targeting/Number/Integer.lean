import Targeting.Text.Blank
import Targeting.Text.Digit

/-!
# Integer literals

Digits of any script spell an integer. A literal of more than 4300 digits is
refused, leading zeros included; the sign and the underscores that may stand
between two digits do not count.
-/
namespace Targeting.Number

open Text

def maxDigits : Nat := 4300

/-- The number that a list of digit values spells. -/
def digitsValue (digits : List Nat) : Nat := digits.foldl (fun n digit => 10 * n + digit) 0

/-- The value of a run of digits, when all are digits and they are not too many. -/
def natOfDigits? (cs : List Char) : Option Nat :=
  if cs.length ≤ maxDigits then (cs.mapM digitValue?).map digitsValue else none

/-- The same for a run that has at least one digit, with its sign. -/
def signed? (negative : Bool) : List Char → Option Int
  | [] => none
  | cs => (natOfDigits? cs).map fun n => if negative then -(n : Int) else n

/-- A sign in front of a literal; `true` for minus. -/
def splitSign : List Char → Bool × List Char
  | '-' :: cs => (true, cs)
  | '+' :: cs => (false, cs)
  | cs => (false, cs)

/-- Drops the underscores of a literal; each has to stand between two digits. -/
def dropUnderscores? : List Char → Option (List Char)
  | [] => some []
  | '_' :: _ => none
  | a :: '_' :: b :: cs =>
    if isDigit a && isDigit b then (dropUnderscores? (b :: cs)).map (a :: ·) else none
  | a :: cs => (dropUnderscores? cs).map (a :: ·)

/-- The integer that the whole text spells, spaces around it aside. -/
def integer? (cs : List Char) : Option Int :=
  let (negative, digits) := splitSign (trimSpaces cs)
  (dropUnderscores? digits).bind (signed? negative)

/-- The integer at the start of the text, after blanks; what follows it is not read. -/
def leadingInteger? (cs : List Char) : Option Int :=
  let (negative, rest) := splitSign (cs.dropWhile isBlank)
  signed? negative (rest.takeWhile isDigit)

@[simp] theorem signed?_nil (negative : Bool) : signed? negative [] = none := rfl

end Targeting.Number
