import Targeting.Item.Token
import Targeting.Json.Reader
import Targeting.Number.Binary

/-!
# Item records

The grammar of item conditions over tokens: one record, or a bracketed list of
records. A record lists fields `key=value`. Values nest, but only the fields at
the top of a record are kept.
-/
namespace Targeting.Item

open Text Number

inductive Scalar where
  | text (value : String)
  | whole (value : Int)
  | decimal (value : Float)
  | flag (value : Bool)
deriving DecidableEq, Repr

inductive Value where
  | scalar (value : Scalar)
  | nested
deriving DecidableEq, Repr

/-- Fields in order, each key once with its last value. -/
abbrev Record := List (String × Value)

def hasPoints : List Char → Bool
  | '.' :: '.' :: _ => true
  | _ :: rest => hasPoints rest
  | [] => false

/-- What an unquoted word stands for: a truth value, a finite number, or itself. A number written
without point and exponent is whole. -/
def Scalar.ofWord (word : List Char) : Scalar :=
  let itself := Scalar.text (String.ofList word)
  let lowered := word.map Char.toLower
  if lowered = "true".toList then .flag true
  else if lowered = "false".toList then .flag false
  else if hasPoints word then itself
  else match float? word with
    | none => itself
    | some value =>
      if !isFinite value then itself
      else if isWhole value && !word.contains '.' && !lowered.contains 'e' then
        match integer? word with
        | some n => .whole n
        | none => .decimal value
      else .decimal value

/-- The text of a string literal; one with escapes that mean nothing stands for itself. -/
def unescape (raw : List Char) : String :=
  match Json.readString (raw ++ ['"']) with
  | some (text, []) => text
  | _ => String.ofList raw

def key? : Token → Option String
  | .word text => some (String.ofList text)
  | .quoted raw => some (unescape raw)
  | _ => none

mutual

/-- A value at the start of the tokens, and what follows it. -/
def readValue? : Nat → List Token → Option (Value × List Token)
  | 0, _ => none
  | fuel + 1, tokens =>
    match tokens with
    | .word text :: rest => some (.scalar (.ofWord text), rest)
    | .quoted raw :: rest => some (.scalar (.text (unescape raw)), rest)
    | .openBrace :: rest => (readRecord? fuel rest).map fun (_, tail) => (.nested, tail)
    | .openBracket :: rest => (readRecords? fuel rest).map fun (_, tail) => (.nested, tail)
    | _ => none

/-- A record whose brace has been opened. -/
def readRecord? : Nat → List Token → Option (Record × List Token)
  | 0, _ => none
  | fuel + 1, tokens =>
    match tokens with
    | .closeBrace :: rest => some ([], rest)
    | _ => (readFields? fuel tokens).map fun (fields, tail) => (Keyed.ofPairs fields, tail)

/-- One or more fields up to the closing brace. -/
def readFields? : Nat → List Token → Option (List (String × Value) × List Token)
  | 0, _ => none
  | fuel + 1, tokens =>
    match tokens with
    | keyToken :: .equals :: rest => do
      let key ← key? keyToken
      let (value, afterValue) ← readValue? fuel rest
      match afterValue with
      | .closeBrace :: tail => some ([(key, value)], tail)
      | .comma :: next => do
        let (fields, tail) ← readFields? fuel next
        some ((key, value) :: fields, tail)
      | _ => none
    | _ => none

/-- A list of records whose bracket has been opened. -/
def readRecords? : Nat → List Token → Option (List Record × List Token)
  | 0, _ => none
  | fuel + 1, tokens =>
    match tokens with
    | .closeBracket :: rest => some ([], rest)
    | _ => readSomeRecords? fuel tokens

/-- One or more records up to the closing bracket. -/
def readSomeRecords? : Nat → List Token → Option (List Record × List Token)
  | 0, _ => none
  | fuel + 1, tokens =>
    match tokens with
    | .openBrace :: rest => do
      let (record, afterRecord) ← readRecord? fuel rest
      match afterRecord with
      | .closeBracket :: tail => some ([record], tail)
      | .comma :: next => do
        let (records, tail) ← readSomeRecords? fuel next
        some (record :: records, tail)
      | _ => none
    | _ => none

end

/-- The records that the tokens spell, with nothing left over. -/
def recordsOfTokens? (tokens : List Token) : Option (List Record) :=
  -- No token costs more than three steps.
  let fuel := 3 * tokens.length + 3
  match tokens with
  | .openBrace :: rest =>
    match readRecord? fuel rest with
    | some (record, []) => some [record]
    | _ => none
  | .openBracket :: rest =>
    match readRecords? fuel rest with
    | some (records, []) => some records
    | _ => none
  | _ => none

def records? (text : List Char) : Option (List Record) := (tokens? text).bind recordsOfTokens?

end Targeting.Item
