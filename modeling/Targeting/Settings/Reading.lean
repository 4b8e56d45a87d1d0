import Targeting.Json.Reader
import Targeting.Number.Binary
import Targeting.Settings
import Targeting.Text.Quoted

/-!
# Reading settings

Settings are read from the fields of an object. A missing field keeps its
default; numbers and truth values may be spelled as text. All fields are looked
at, so one reading reports every error, the settings in their own order first
and then the fields that no setting has.
-/
namespace Targeting

open Text Number

inductive FieldProblem where
  | notText
  | notInteger
  | unreadableInteger
  | oversizedInteger
  | fractional
  | notFinite
  | notFlag
  | unreadableFlag
  | bareTypeId (typeId : String)
  | badNamespace (space : String)
  | notPositive
  | unknownLevel (name : String)
  | unknownField
deriving DecidableEq, Repr

namespace FieldProblem

/-- The kind of a problem as reports name it. -/
def kind : FieldProblem → String
  | .notText => "string_type"
  | .notInteger => "int_type"
  | .unreadableInteger => "int_parsing"
  | .oversizedInteger => "int_parsing_size"
  | .fractional => "int_from_float"
  | .notFinite => "finite_number"
  | .notFlag => "bool_type"
  | .unreadableFlag => "bool_parsing"
  | .unknownField => "extra_forbidden"
  | .bareTypeId _ => "value_error"
  | .badNamespace _ => "value_error"
  | .notPositive => "value_error"
  | .unknownLevel _ => "value_error"

def message : FieldProblem → String
  | .notText => "Input should be a valid string"
  | .notInteger => "Input should be a valid integer"
  | .unreadableInteger => "Input should be a valid integer, unable to parse string as an integer"
  | .oversizedInteger => "Unable to parse input string as an integer, exceeded maximum size"
  | .fractional => "Input should be a valid integer, got a number with a fractional part"
  | .notFinite => "Input should be a finite number"
  | .notFlag => "Input should be a valid boolean"
  | .unreadableFlag => "Input should be a valid boolean, unable to interpret input"
  | .unknownField => "Extra inputs are not permitted"
  | .bareTypeId typeId => "Value error, player_type_id must be namespaced, got: " ++ typeId
  | .badNamespace space => "Value error, Invalid namespace: " ++ quoted space
  | .notPositive => "Value error, Value must be positive"
  | .unknownLevel name =>
    "Value error, log_level must be one of " ++ ", ".intercalate (Log.Level.all.map (·.name))
      ++ ", got: " ++ name

end FieldProblem

structure FieldError where
  field : String
  problem : FieldProblem
deriving DecidableEq, Repr

namespace Settings

/-- Skips leading zeros, and underscores among them, of digits that do not begin with a sign. -/
def skipZeros? (digits : List Char) : Option (List Char) :=
  match digits with
  | '0' :: _ =>
    match digits.dropWhile fun c => c = '0' || c = '_' with
    | [] => digits.getLast?.map ([·])
    | '.' :: rest => digits[(digits.takeWhile fun c => c = '0' || c = '_').length - 1]?.map fun c =>
        c :: '.' :: rest
    | rest => some rest
  | _ => some digits

/-- Drops a point that only zeros follow. -/
def dropZeroFraction (digits : List Char) : List Char :=
  match digits.dropWhile (· ≠ '.') with
  | '.' :: fraction => if fraction.all (· = '0') then digits.takeWhile (· ≠ '.') else digits
  | _ => digits

/-- The integer that a text spells: ASCII digits with single underscores between them, and maybe a
point with zeros. Only a number without a minus sign may begin with further zeros. -/
def integerOfText (text : List Char) : Except FieldProblem Int :=
  let (negative, unsigned) := splitSign (trimSpaces text)
  let digits :=
    if negative then some unsigned else skipZeros? unsigned
  match digits.bind fun digits => dropUnderscores? (dropZeroFraction digits) with
  | none => .error .unreadableInteger
  | some digits =>
    -- Zeros in front were skipped where they may stand, so what is left of them is an error.
    let padded := digits.head? = some '0' && 1 < digits.length
    if digits.isEmpty || !digits.all Json.isAsciiDigit || padded then .error .unreadableInteger
    else if maxDigits < digits.length then .error .oversizedInteger
    else
      let magnitude := digitsValue (Json.asciiDigits digits)
      .ok (if negative then -(magnitude : Int) else magnitude)

def fitsWord (n : Int) : Bool := -Int.pow 2 63 ≤ n && n < Int.pow 2 63

/-- A whole double that fits into 64 bits; the least number of 64 bits is not read. -/
def integerOfFloat (value : Float) : Except FieldProblem Int :=
  match Binary.ofFloat? value with
  | none => .error .notFinite
  | some b =>
    if !b.isWhole then .error .fractional
    else if fitsWord b.truncate && b.truncate ≠ -Int.pow 2 63 then .ok b.truncate
    else .error .oversizedInteger

def readText : Json → Except FieldProblem String
  | .text value => .ok value
  | _ => .error .notText

def readInteger : Json → Except FieldProblem Int
  | .whole value => .ok value
  | .flag value => .ok (if value then 1 else 0)
  | .decimal value => integerOfFloat value
  | .text value => integerOfText value.toList
  | _ => .error .notInteger

def flagWords : List (String × Bool) :=
  [("0", false), ("f", false), ("n", false), ("no", false), ("off", false), ("false", false),
   ("1", true), ("t", true), ("y", true), ("yes", true), ("on", true), ("true", true)]

def flagOfInteger (value : Int) : Except FieldProblem Bool :=
  if value = 0 then .ok false else if value = 1 then .ok true else .error .unreadableFlag

def readFlag : Json → Except FieldProblem Bool
  | .flag value => .ok value
  | .whole value => if fitsWord value then flagOfInteger value else .error .notFlag
  | .decimal value =>
    match integerOfFloat value with
    | .ok n => flagOfInteger n
    | .error _ => .error .notFlag
  | .text value =>
    match Keyed.get? (String.ofList (value.toList.map Char.toLower)) flagWords with
    | some flag => .ok flag
    | none => .error .unreadableFlag
  | _ => .error .notFlag

def readPlayerTypeId (value : Json) : Except FieldProblem String := do
  let typeId ← readText value
  if typeId.toList.contains ':' then return typeId else throw (.bareTypeId typeId)

/-- A namespace loses the blanks around it. -/
def readNamespace (value : Json) : Except FieldProblem String := do
  let plain := trim (← readText value).toList
  let space := String.ofList plain
  if plain.isEmpty || plain.contains ':' then throw (.badNamespace space) else return space

def readPositive (value : Json) : Except FieldProblem Nat := do
  let n ← readInteger value
  if 0 < n then return n.toNat else throw .notPositive

def readLevel (value : Json) : Except FieldProblem Log.Level := do
  let name ← readText value
  match Log.Level.ofName? name with
  | some level => return level
  | none => throw (.unknownLevel name)

def readOptionalText : Json → Except FieldProblem (Option String)
  | .null => .ok none
  | .text value => .ok (some value)
  | _ => .error .notText

def fieldNames : List String :=
  ["player_type_id", "default_namespace", "hotbar_size", "default_random_count",
   "strip_formatting", "log_level", "log_file"]

/-- A field as it was read: its value, or the default, or an error. -/
def readField {α : Type} (fields : List (String × Json)) (name : String) (default : α)
    (read : Json → Except FieldProblem α) : Except FieldError α :=
  match Keyed.get? name fields with
  | none => .ok default
  | some value => (read value).mapError fun problem => ⟨name, problem⟩

def errorsOf {α : Type} : Except FieldError α → List FieldError
  | .ok _ => []
  | .error error => [error]

def unknownFields (fields : List (String × Json)) : List FieldError :=
  (fields.filter fun field => !fieldNames.contains field.1).map fun field =>
    ⟨field.1, .unknownField⟩

def read (fields : List (String × Json)) : Except (List FieldError) Settings :=
  let defaults : Settings := {}
  let playerTypeId := readField fields "player_type_id" defaults.playerTypeId readPlayerTypeId
  let space := readField fields "default_namespace" defaults.defaultNamespace readNamespace
  let hotbar := readField fields "hotbar_size" defaults.hotbarSize readPositive
  let random := readField fields "default_random_count" defaults.defaultRandomCount readPositive
  let strip := readField fields "strip_formatting" defaults.stripFormatting readFlag
  let level := readField fields "log_level" defaults.logLevel readLevel
  let file := readField fields "log_file" defaults.logFile readOptionalText
  match playerTypeId, space, hotbar, random, strip, level, file, unknownFields fields with
  | .ok playerTypeId, .ok defaultNamespace, .ok hotbarSize, .ok defaultRandomCount,
    .ok stripFormatting, .ok logLevel, .ok logFile, [] =>
    .ok { playerTypeId, defaultNamespace, hotbarSize, defaultRandomCount, stripFormatting, logLevel,
          logFile }
  | playerTypeId, space, hotbar, random, strip, level, file, unknown =>
    .error (errorsOf playerTypeId ++ errorsOf space ++ errorsOf hotbar ++ errorsOf random
      ++ errorsOf strip ++ errorsOf level ++ errorsOf file ++ unknown)

end Settings

end Targeting
