/-!
# Json string literals

What stands between the quotes of a string literal. Control characters have to
be escaped; a pair of escaped surrogates is one character.
-/
namespace Targeting.Json

def hexValue? (c : Char) : Option Nat :=
  if '0' ≤ c && c ≤ '9' then some (c.toNat - 0x30)
  else if 'a' ≤ c && c ≤ 'f' then some (c.toNat - 0x61 + 10)
  else if 'A' ≤ c && c ≤ 'F' then some (c.toNat - 0x41 + 10)
  else none

def hexUnit? (a b c d : Char) : Option Nat := do
  let a ← hexValue? a
  let b ← hexValue? b
  let c ← hexValue? c
  let d ← hexValue? d
  return ((a * 16 + b) * 16 + c) * 16 + d

def escapeUnit? (c : Char) : Option Nat :=
  match c with
  | '"' => some 0x22
  | '\\' => some 0x5C
  | '/' => some 0x2F
  | 'b' => some 0x8
  | 'f' => some 0xC
  | 'n' => some 0xA
  | 'r' => some 0xD
  | 't' => some 0x9
  | _ => none

/-- Reads up to the closing quote: the code units of the content, and what follows the quote. -/
def readUnits : List Char → Option (List Nat × List Char)
  | [] => none
  | '"' :: rest => some ([], rest)
  | '\\' :: 'u' :: a :: b :: c :: d :: rest => do
    let unit ← hexUnit? a b c d
    let (units, tail) ← readUnits rest
    return (unit :: units, tail)
  | '\\' :: mark :: rest => do
    let unit ← escapeUnit? mark
    let (units, tail) ← readUnits rest
    return (unit :: units, tail)
  | c :: rest =>
    if c.toNat < 0x20 || c = '\\' then none
    else do
      let (units, tail) ← readUnits rest
      return (c.toNat :: units, tail)

def isHighSurrogate (unit : Nat) : Bool := 0xD800 ≤ unit && unit ≤ 0xDBFF

def isLowSurrogate (unit : Nat) : Bool := 0xDC00 ≤ unit && unit ≤ 0xDFFF

/-- Joins surrogate pairs; a surrogate alone becomes the replacement character. -/
def joinUnits : List Nat → List Char
  | [] => []
  | [unit] =>
    [if isHighSurrogate unit || isLowSurrogate unit then '\uFFFD' else Char.ofNat unit]
  | high :: low :: rest =>
    if isHighSurrogate high && isLowSurrogate low then
      Char.ofNat (0x10000 + (high - 0xD800) * 0x400 + (low - 0xDC00)) :: joinUnits rest
    else if isHighSurrogate high || isLowSurrogate high then '\uFFFD' :: joinUnits (low :: rest)
    else Char.ofNat high :: joinUnits (low :: rest)

/-- The content of a literal whose opening quote has been read, and what follows it. -/
def readString (cs : List Char) : Option (String × List Char) :=
  (readUnits cs).map fun (units, tail) => (String.ofList (joinUnits units), tail)

end Targeting.Json
