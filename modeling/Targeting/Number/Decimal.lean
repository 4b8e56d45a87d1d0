import Targeting.Number.Integer

/-!
# Decimal literals

Decimal text read as a double, rounded to nearest. A literal is an optional
sign, digits of any script with at most one point among them, and an optional
exponent; values beyond the range become infinite.
-/
namespace Targeting.Number

open Text

/-- A decimal literal taken apart: `digits / 10 ^ places * 10 ^ exponent`. -/
structure Decimal where
  negative : Bool
  digits : List Nat
  places : Nat
  exponent : Int
deriving DecidableEq, Repr

def Decimal.toFloat (d : Decimal) : Float :=
  let scale := d.exponent - d.places
  let magnitude := Float.ofScientific (digitsValue d.digits) (scale < 0) scale.natAbs
  if d.negative then -magnitude else magnitude

def scanDigits (cs : List Char) : List Nat × List Char :=
  ((cs.takeWhile isDigit).filterMap digitValue?, cs.dropWhile isDigit)

/-- An exponent mark with its digits; without digits the mark is left unread. -/
def scanExponent (cs : List Char) : Int × List Char :=
  match cs with
  | [] => (0, [])
  | mark :: rest =>
    if mark = 'e' || mark = 'E' then
      let (negative, afterSign) := splitSign rest
      match scanDigits afterSign with
      | ([], _) => (0, cs)
      | (digits, tail) =>
        ((if negative then -(digitsValue digits : Int) else digitsValue digits), tail)
    else (0, cs)

/-- The longest literal at the start of a text, and what follows it. -/
def Decimal.scan? (cs : List Char) : Option (Decimal × List Char) :=
  let (negative, afterSign) := splitSign cs
  let (whole, afterWhole) := scanDigits afterSign
  let (fraction, afterFraction) :=
    match afterWhole with
    | '.' :: rest => scanDigits rest
    | _ => ([], afterWhole)
  if whole.isEmpty && fraction.isEmpty then none
  else
    let (exponent, tail) := scanExponent afterFraction
    some (⟨negative, whole ++ fraction, fraction.length, exponent⟩, tail)

/-- The number at the start of a text, after blanks; what follows it is not read. -/
def leadingFloat? (cs : List Char) : Option Float :=
  (Decimal.scan? (cs.dropWhile isBlank)).map (·.1.toFloat)

def infinity : Float := 1.0 / 0.0

/-- The spelled-out values, in any letter case. -/
def named? (cs : List Char) : Option Float :=
  let word := String.ofList (cs.map Char.toLower)
  if word = "inf" || word = "infinity" then some infinity
  else if word = "nan" then some (0.0 / 0.0)
  else none

/-- The number that the whole text spells, spaces around it aside. -/
def float? (cs : List Char) : Option Float :=
  (dropUnderscores? (trimSpaces cs)).bind fun text =>
    -- The literal has its own sign, so it is scanned from the text with the sign.
    let (negative, word) := splitSign text
    match named? word with
    | some value => some (if negative then -value else value)
    | none =>
      match Decimal.scan? text with
      | some (literal, []) => some literal.toFloat
      | _ => none

end Targeting.Number
