import Targeting.Json.Value
import Targeting.Json.StringLiteral
import Targeting.Number.Decimal

/-!
# Reading json

Reads json text. Beyond the standard grammar the words `NaN`, `Infinity` and
`-Infinity` are values, a repeated key keeps its last value, and a whole number
may have no more than `Number.maxDigits` digits.
-/
namespace Targeting.Json

inductive ReadFault where
  | malformed
  | tooManyDigits (digits : Nat)
deriving DecidableEq, Repr

/-- Blanks of the json grammar. -/
def isGap (c : Char) : Bool := c = ' ' || c = '\t' || c = '\n' || c = '\r'

def skipGaps (cs : List Char) : List Char := cs.dropWhile isGap

def isAsciiDigit (c : Char) : Bool := '0' ≤ c && c ≤ '9'

def asciiDigits (cs : List Char) : List Nat := cs.map fun c => c.toNat - 0x30

/-- The digits at the start of the text, if there are any, and what follows them. -/
def readDigits (cs : List Char) : Option (List Char × List Char) :=
  let digits := cs.takeWhile isAsciiDigit
  if digits.isEmpty then none else some (digits, cs.dropWhile isAsciiDigit)

def readFraction (cs : List Char) : Option (List Char × List Char) :=
  match cs with
  | '.' :: rest => readDigits rest
  | _ => none

def integerOf (negative : Bool) (digits : List Char) : Int :=
  let value := Number.digitsValue (asciiDigits digits)
  if negative then -(value : Int) else value

def readExponent (cs : List Char) : Option (Int × List Char) :=
  match cs with
  | [] => none
  | mark :: rest =>
    if mark = 'e' || mark = 'E' then
      let (negative, afterSign) := Number.splitSign rest
      (readDigits afterSign).map fun (digits, tail) => (integerOf negative digits, tail)
    else none

/-- The whole digits of a number: a zero alone, or digits that do not begin with one. -/
def readWhole (cs : List Char) : Option (List Char × List Char) :=
  match cs with
  | '0' :: rest => some (['0'], rest)
  | _ => readDigits cs

def decimalOf (negative : Bool) (digits : List Char) (fraction : Option (List Char))
    (exponent : Option Int) : Float :=
  let places := fraction.getD []
  let literal : Number.Decimal :=
    { negative, digits := asciiDigits (digits ++ places), places := places.length
      exponent := exponent.getD 0 }
  literal.toFloat

/-- A number without its sign; it is whole if it has neither fraction nor exponent. -/
def readUnsigned (negative : Bool) (cs : List Char) : Except ReadFault (Json × List Char) :=
  match readWhole cs with
  | none => .error .malformed
  | some (digits, afterWhole) =>
    let fraction := readFraction afterWhole
    let afterFraction := (fraction.map (·.2)).getD afterWhole
    let exponent := readExponent afterFraction
    if fraction.isNone && exponent.isNone then
      if Number.maxDigits < digits.length then .error (.tooManyDigits digits.length)
      else
        .ok (.whole (integerOf negative digits), afterWhole)
    else
      let value := decimalOf negative digits (fraction.map (·.1)) (exponent.map (·.1))
      .ok (.decimal value, (exponent.map (·.2)).getD afterFraction)

def readNumber (cs : List Char) : Except ReadFault (Json × List Char) :=
  match cs with
  | '-' :: rest => readUnsigned true rest
  | _ => readUnsigned false cs

def words : List (String × Json) :=
  [("null", .null), ("true", .flag true), ("false", .flag false), ("NaN", .decimal (0.0 / 0.0)),
   ("Infinity", .decimal Number.infinity), ("-Infinity", .decimal (-Number.infinity))]

def readWord (cs : List Char) : Option (Json × List Char) :=
  words.findSome? fun (word, value) => (word.toList.isPrefixOf? cs).map fun rest => (value, rest)

/-- A key and its colon, and the start of the value after them. -/
def readKey (cs : List Char) : Option (String × List Char) :=
  match cs with
  | '"' :: rest =>
    (readString rest).bind fun (key, afterKey) =>
      match skipGaps afterKey with
      | ':' :: start => some (key, skipGaps start)
      | _ => none
  | _ => none

mutual

/-- A value at the start of the text, and what follows it. -/
def readValue : Nat → List Char → Except ReadFault (Json × List Char)
  | 0, _ => .error .malformed
  | fuel + 1, cs =>
    match cs with
    | '"' :: rest =>
      match readString rest with
      | some (content, tail) => .ok (.text content, tail)
      | none => .error .malformed
    | '[' :: rest =>
      match skipGaps rest with
      | ']' :: tail => .ok (.list [], tail)
      | start => do
        let (items, tail) ← readItems fuel start
        return (.list items, tail)
    | '{' :: rest =>
      match skipGaps rest with
      | '}' :: tail => .ok (.object [], tail)
      | start => do
        let (fields, tail) ← readFields fuel start
        -- Fields are joined only here, so that a repeated key keeps its last value.
        return (.object (Keyed.ofPairs fields), tail)
    | _ =>
      -- Words first: a minus sign begins an infinity as well as a number.
      match readWord cs with
      | some found => .ok found
      | none => readNumber cs

def readItems : Nat → List Char → Except ReadFault (List Json × List Char)
  | 0, _ => .error .malformed
  | fuel + 1, cs => do
    let (item, rest) ← readValue fuel cs
    match skipGaps rest with
    | ']' :: tail => return ([item], tail)
    | ',' :: next =>
      let (items, tail) ← readItems fuel (skipGaps next)
      return (item :: items, tail)
    | _ => .error .malformed

def readFields : Nat → List Char → Except ReadFault (List (String × Json) × List Char)
  | 0, _ => .error .malformed
  | fuel + 1, cs =>
    match readKey cs with
    | none => .error .malformed
    | some (key, start) => do
      let (value, rest) ← readValue fuel start
      match skipGaps rest with
      | '}' :: tail => return ([(key, value)], tail)
      | ',' :: next =>
        let (fields, tail) ← readFields fuel (skipGaps next)
        return ((key, value) :: fields, tail)
      | _ => .error .malformed

end

/-- Each nested value and each item costs at most two steps and at least one character. -/
def readFuel (cs : List Char) : Nat := 2 * cs.length + 2

def read (cs : List Char) : Except ReadFault Json := do
  let (value, rest) ← readValue (readFuel cs) (skipGaps cs)
  if (skipGaps rest).isEmpty then return value else .error .malformed

def parse (text : String) : Except ReadFault Json := read text.toList

end Targeting.Json
