import Targeting.Argument.Token
import Targeting.Item.Condition
import Targeting.Number.Decimal

/-!
# Constraints

One argument `key=value` of a selector, read as the constraint that it puts on
a query. Reading may refuse the value; adding a constraint that was read never
fails, so a refused argument leaves the query as it was.
-/
namespace Targeting

open Argument

inductive Key where
  | type
  | name
  | tag
  | family
  | gameMode
  | levelMost
  | levelLeast
  | axis (axis : Axis)
  | extent (axis : Axis)
  | distanceMost
  | distanceLeast
  | count
  | pitchMost
  | pitchLeast
  | yawMost
  | yawLeast
  | scores
  | items
deriving DecidableEq, Repr

namespace Key

def spellings : List (Key × String) :=
  [(.type, "type"), (.name, "name"), (.tag, "tag"), (.family, "family"), (.gameMode, "m"),
   (.levelMost, "l"), (.levelLeast, "lm"), (.axis .x, "x"), (.axis .y, "y"), (.axis .z, "z"),
   (.extent .x, "dx"), (.extent .y, "dy"), (.extent .z, "dz"), (.distanceMost, "r"),
   (.distanceLeast, "rm"), (.count, "c"), (.pitchMost, "rx"), (.pitchLeast, "rxm"),
   (.yawMost, "ry"), (.yawLeast, "rym"), (.scores, "scores"), (.items, "hasitem")]

def ofText? (text : String) : Option Key :=
  (spellings.find? fun spelling => spelling.2 = text).map (·.1)

end Key

def GameMode.spellings : List (String × GameMode) :=
  [("survival", .survival), ("s", .survival), ("0", .survival), ("default", .survival),
   ("d", .survival), ("5", .survival), ("creative", .creative), ("c", .creative),
   ("1", .creative), ("adventure", .adventure), ("a", .adventure), ("2", .adventure),
   ("spectator", .spectator), ("6", .spectator)]

/-- The game mode of a name or abbreviation in any letter case, blanks around it aside. -/
def GameMode.ofText (value : List Char) : Except ArgumentError GameMode :=
  let plain := String.ofList ((Text.trim value).map Char.toLower)
  match GameMode.spellings.find? fun spelling => spelling.1 = plain with
  | some spelling => .ok spelling.2
  | none => .error (.unknownGameMode (String.ofList value))

inductive Constraint where
  | type (negated : Bool) (id : String)
  | name (negated : Bool) (name : String)
  | tag (negated : Bool) (tag : String)
  | family (negated : Bool) (family : String)
  | gameMode (negated : Bool) (mode : GameMode)
  | levelMost (level : Int)
  | levelLeast (level : Int)
  | axis (axis : Axis) (coordinate : Coordinate)
  | extent (axis : Axis) (length : Float)
  | distanceMost (distance : Float)
  | distanceLeast (distance : Float)
  | count (limit : Option CountLimit)
  | pitchMost (angle : Float)
  | pitchLeast (angle : Float)
  | yawMost (angle : Float)
  | yawLeast (angle : Float)
  | scores (filters : List ScoreFilter)
  | items (conditions : List ItemCondition)
deriving DecidableEq, Repr

def requireFloat (key : String) (value : List Char) : Except ArgumentError Float :=
  match Number.leadingFloat? value with
  | some number => .ok number
  | none => .error (.notANumber key (String.ofList value))

def requireInteger (key : String) (value : List Char) : Except ArgumentError Int :=
  match Number.leadingInteger? value with
  | some number => .ok number
  | none => .error (.notAnInteger key (String.ofList value))

/-- A coordinate; a tilde makes it an offset, which may be left out. -/
def Coordinate.read (key : String) (value : List Char) : Except ArgumentError Coordinate :=
  match value with
  | '~' :: rest =>
    let offset := Text.trim rest
    if offset.isEmpty then .ok ⟨0.0, true⟩
    else (requireFloat key offset).map fun number => ⟨number, true⟩
  | _ => (requireFloat key value).map fun number => ⟨number, false⟩

/-- An entry of a scores value, or the notice that it is skipped with. -/
def ScoreFilter.read (entry : List Char) : Except Notice ScoreFilter :=
  let (key, value) := splitAssignment entry
  let objective := unquote key
  if objective.isEmpty then .error (.malformedScore (String.ofList entry))
  else
    let (negated, text) := splitNegation value
    match IntRange.parse? text with
    | none => .error (.openScore (String.ofList entry))
    | some range =>
      if range.isOpen then .error (.openScore (String.ofList entry))
      else .ok { objective := String.ofList objective, range, negated }

/-- The entries of a scores value that can be used; each other entry is reported. -/
def ScoreFilter.readAll : List (List Char) → Logged (List ScoreFilter)
  | [] => pure []
  | entry :: rest =>
    match ScoreFilter.read entry with
    | .ok filter => do
      let filters ← readAll rest
      return filter :: filters
    | .error notice => do
      Logged.note notice
      readAll rest

def insideBraces? (value : List Char) : Option (List Char) :=
  match value with
  | '{' :: rest => if rest.getLast? = some '}' then some rest.dropLast else none
  | _ => none

namespace Constraint

def read (key : Key) (spelling : String) (value : List Char) :
    ExceptT ArgumentError Logged Constraint :=
  let signed (make : Bool → String → Constraint) : ExceptT ArgumentError Logged Constraint :=
    let (negated, text) := splitNegation value
    pure (make negated (String.ofList text))
  let number (make : Float → Constraint) : ExceptT ArgumentError Logged Constraint := do
    return make (← requireFloat spelling (unquote value))
  let integer (make : Int → Constraint) : ExceptT ArgumentError Logged Constraint := do
    return make (← requireInteger spelling (unquote value))
  match key with
  | .type => signed .type
  | .name => signed .name
  | .tag => signed .tag
  | .family => signed .family
  | .gameMode => do
    let (negated, text) := splitNegation value
    return .gameMode negated (← GameMode.ofText text)
  | .levelMost => integer .levelMost
  | .levelLeast => integer .levelLeast
  | .axis along => do
    return .axis along (← Coordinate.read spelling (unquote value))
  | .extent along => number (.extent along)
  | .distanceMost => number .distanceMost
  | .distanceLeast => number .distanceLeast
  | .count => do
    let limit := CountLimit.ofSigned? (← requireInteger spelling (unquote value))
    -- A count of zero is accepted and then asks for nothing.
    if limit.isNone then note .zeroCount
    return .count limit
  | .pitchMost => number .pitchMost
  | .pitchLeast => number .pitchLeast
  | .yawMost => number .yawMost
  | .yawLeast => number .yawLeast
  | .scores =>
    match insideBraces? value with
    | none => throw (.scoresShape (String.ofList value))
    | some entries => do
      return .scores (← ExceptT.lift (ScoreFilter.readAll (Argument.split entries)))
  | .items => do
    return .items (← Item.conditions value)

def ofArgument (key value : List Char) : ExceptT ArgumentError Logged Constraint :=
  let spelling := String.ofList key
  match Key.ofText? spelling with
  | some known => read known spelling value
  | none => throw (.unknownKey spelling)

end Constraint

/-- Adds a constraint. Single values replace what was there; exclusions, tags, families, scores and
item conditions accumulate. -/
def Query.add (q : Query) : Constraint → Query
  | .type false id => { q with type := some id }
  | .type true id => { q with excludedTypes := q.excludedTypes ++ [id] }
  | .name false name => { q with name := some name }
  | .name true name => { q with excludedNames := q.excludedNames ++ [name] }
  | .tag false tag => { q with tags := q.tags.insert tag }
  | .tag true tag => { q with excludedTags := q.excludedTags.insert tag }
  | .family false family => { q with families := q.families.insert family }
  | .family true family => { q with excludedFamilies := q.excludedFamilies.insert family }
  | .gameMode false mode => { q with gameMode := some mode }
  | .gameMode true mode => { q with excludedGameModes := q.excludedGameModes.insert mode }
  | .levelMost level => { q with level := { q.level with high := some level } }
  | .levelLeast level => { q with level := { q.level with low := some level } }
  | .axis axis coordinate => { q with origin := some ((q.origin.getD {}).set axis coordinate) }
  | .extent axis length => { q with volume := some ((q.volume.getD {}).set axis length) }
  | .distanceMost distance => { q with distance := { q.distance with high := some distance } }
  | .distanceLeast distance => { q with distance := { q.distance with low := some distance } }
  | .count none => q
  | .count (some limit) => { q with count := some limit }
  | .pitchMost angle => { q with pitch := { q.pitch with high := some angle } }
  | .pitchLeast angle => { q with pitch := { q.pitch with low := some angle } }
  | .yawMost angle => { q with yaw := { q.yaw with high := some angle } }
  | .yawLeast angle => { q with yaw := { q.yaw with low := some angle } }
  | .scores filters => { q with scores := q.scores ++ filters }
  | .items conditions => { q with items := q.items ++ conditions }

end Targeting
