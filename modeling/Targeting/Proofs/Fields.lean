import Mathlib.Data.List.Induction
import Mathlib.Logic.Function.Basic
import Targeting.Proofs.ArgumentValue
import Targeting.Proofs.Reading

/-!
# A query field by field

Each part of a query depends on the values that were given for its own keys, in
their order, and on nothing else: a single value is the last one that was
accepted, and what accumulates holds all of them. How the arguments of
different keys are interleaved does not matter, nor what else stands between
them.

## Proof strategy

`Query.ofValues` is the query of the values that each key was given. One more
value for a key is one more constraint of that query (`ofValues_snoc`), so a
list of tokens is read as the query of its values by induction from its end.
-/
namespace Targeting

open Argument

/-! ### Values that are accepted -/

namespace Argument

variable {α : Type}

/-- The whole numbers among the values of a key. -/
def wholes (values : List (List Char)) : List Int :=
  values.filterMap fun value => Number.leadingInteger? (unquote value)

def numbers (values : List (List Char)) : List Float :=
  values.filterMap fun value => Number.leadingFloat? (unquote value)

/-- A coordinate; a tilde makes it an offset, which may be left out. -/
def coordinate? (value : List Char) : Option Coordinate :=
  match value with
  | '~' :: rest =>
    if (Text.trim rest).isEmpty then some ⟨0.0, true⟩
    else (Number.leadingFloat? (Text.trim rest)).map fun number => ⟨number, true⟩
  | _ => (Number.leadingFloat? value).map fun number => ⟨number, false⟩

def coordinates (values : List (List Char)) : List Coordinate :=
  values.filterMap fun value => coordinate? (unquote value)

/-- The limits that the values ask for; a zero asks for none. -/
def limits (values : List (List Char)) : List CountLimit :=
  (wholes values).filterMap CountLimit.ofSigned?

/-- Every value as a text, with whether it is negated. -/
def texts (values : List (List Char)) : List (Bool × String) :=
  values.map fun value => ((splitNegation value).1, String.ofList (splitNegation value).2)

def modes (values : List (List Char)) : List (Bool × GameMode) :=
  values.filterMap fun value =>
    (GameMode.ofText (splitNegation value).2).toOption.map ((splitNegation value).1, ·)

def scoreFilters (values : List (List Char)) : List ScoreFilter :=
  values.flatMap fun value => (insideBraces? value).elim [] fun entries =>
    (split entries).filterMap fun entry => (ScoreFilter.read entry).toOption

def itemConditions (values : List (List Char)) : List ItemCondition :=
  values.flatMap fun value => (outcome (Item.conditions value)).toOption.getD []

def plain (signed : List (Bool × α)) : List α := (signed.filter fun s => !s.1).map (·.2)

def negated (signed : List (Bool × α)) : List α := (signed.filter fun s => s.1).map (·.2)

/-- The members of a list as a set is kept. -/
def collect [DecidableEq α] (items : List α) : List α :=
  items.foldl (fun members item => members.insert item) []

end Argument

/-- The origin of the axes that are given, if any is. -/
def Anchor.ofAxes? (x y z : Option Coordinate) : Option Anchor :=
  if x.isNone && y.isNone && z.isNone then none else some ⟨x, y, z⟩

/-- The box of the lengths that are given, if any is. The others are zero. -/
def Point.ofLengths? (x y z : Option Float) : Option Point :=
  if x.isNone && y.isNone && z.isNone then none
  else some ⟨x.getD 0.0, y.getD 0.0, z.getD 0.0⟩

/-- The query of the values that each key was given. -/
def Query.ofValues (values : Key → List (List Char)) : Query where
  type := (plain (texts (values .type))).getLast?
  excludedTypes := negated (texts (values .type))
  name := (plain (texts (values .name))).getLast?
  excludedNames := negated (texts (values .name))
  tags := collect (plain (texts (values .tag)))
  excludedTags := collect (negated (texts (values .tag)))
  families := collect (plain (texts (values .family)))
  excludedFamilies := collect (negated (texts (values .family)))
  gameMode := (plain (modes (values .gameMode))).getLast?
  excludedGameModes := collect (negated (modes (values .gameMode)))
  level := ⟨(wholes (values .levelLeast)).getLast?, (wholes (values .levelMost)).getLast?⟩
  origin := Anchor.ofAxes? (coordinates (values (.axis .x))).getLast?
    (coordinates (values (.axis .y))).getLast? (coordinates (values (.axis .z))).getLast?
  volume := Point.ofLengths? (numbers (values (.extent .x))).getLast?
    (numbers (values (.extent .y))).getLast? (numbers (values (.extent .z))).getLast?
  distance := ⟨(numbers (values .distanceLeast)).getLast?, (numbers (values .distanceMost)).getLast?⟩
  pitch := ⟨(numbers (values .pitchLeast)).getLast?, (numbers (values .pitchMost)).getLast?⟩
  yaw := ⟨(numbers (values .yawLeast)).getLast?, (numbers (values .yawMost)).getLast?⟩
  count := (limits (values .count)).getLast?
  scores := scoreFilters (values .scores)
  items := itemConditions (values .items)

/-! ### One more value -/

namespace Argument

variable {α : Type} (values : List (List Char)) (value : List Char)

@[simp] theorem wholes_snoc : wholes (values ++ [value]) =
    wholes values ++ (Number.leadingInteger? (unquote value)).toList := by
  cases accepted : Number.leadingInteger? (unquote value) <;> simp [wholes, accepted]

@[simp] theorem numbers_snoc : numbers (values ++ [value]) =
    numbers values ++ (Number.leadingFloat? (unquote value)).toList := by
  cases accepted : Number.leadingFloat? (unquote value) <;> simp [numbers, accepted]

@[simp] theorem coordinates_snoc : coordinates (values ++ [value]) =
    coordinates values ++ (coordinate? (unquote value)).toList := by
  cases accepted : coordinate? (unquote value) <;> simp [coordinates, accepted]

@[simp] theorem limits_snoc : limits (values ++ [value]) = limits values ++
    ((Number.leadingInteger? (unquote value)).bind CountLimit.ofSigned?).toList := by
  cases accepted : Number.leadingInteger? (unquote value) with
  | none => simp [limits, accepted]
  | some n => cases limit : CountLimit.ofSigned? n <;> simp [limits, accepted, limit]

@[simp] theorem texts_snoc : texts (values ++ [value]) =
    texts values ++ [((splitNegation value).1, String.ofList (splitNegation value).2)] := by
  simp [texts]

@[simp] theorem modes_snoc : modes (values ++ [value]) = modes values ++
    ((GameMode.ofText (splitNegation value).2).toOption.map ((splitNegation value).1, ·)).toList := by
  cases accepted : (GameMode.ofText (splitNegation value).2).toOption <;> simp [modes, accepted]

@[simp] theorem plain_snoc (signed : List (Bool × α)) (sign : Bool) (a : α) :
    plain (signed ++ [(sign, a)]) = if sign then plain signed else plain signed ++ [a] := by
  cases sign <;> simp [plain]

@[simp] theorem negated_snoc (signed : List (Bool × α)) (sign : Bool) (a : α) :
    negated (signed ++ [(sign, a)]) = if sign then negated signed ++ [a] else negated signed := by
  cases sign <;> simp [negated]

@[simp] theorem collect_snoc [DecidableEq α] (items : List α) (a : α) :
    collect (items ++ [a]) = (collect items).insert a := by
  simp [collect]

@[simp] theorem mem_collect [DecidableEq α] (items : List α) (a : α) :
    a ∈ collect items ↔ a ∈ items := by
  induction items using List.reverseRecOn with
  | nil => simp [collect]
  | append_singleton items last ih => simp [ih, or_comm]

theorem toOption_coordinate (key : String) (value : List Char) :
    (Coordinate.read key value).toOption = coordinate? value := by
  by_cases offset : value.head? = some '~'
  · obtain ⟨rest, rfl⟩ := List.head?_eq_some_iff.mp offset
    simp only [Coordinate.read, coordinate?]
    split
    · rfl
    · rw [toOption_map, toOption_requireFloat]
  -- Without a tilde both fall through to the value itself.
  · have apart (rest : List Char) : value ≠ '~' :: rest := by
      rintro rfl
      exact offset rfl
    simp only [Coordinate.read, coordinate?, toOption_map, toOption_requireFloat]

end Argument

/-- Setting an axis of the origin is giving that axis anew. -/
theorem Anchor.set_ofAxes? (x y z : Option Coordinate) (axis : Axis) (coordinate : Coordinate) :
    some (((Anchor.ofAxes? x y z).getD {}).set axis coordinate) =
      match axis with
      | .x => Anchor.ofAxes? (some coordinate) y z
      | .y => Anchor.ofAxes? x (some coordinate) z
      | .z => Anchor.ofAxes? x y (some coordinate) := by
  cases axis <;> cases x <;> cases y <;> cases z <;> rfl

theorem Point.set_ofLengths? (x y z : Option Float) (axis : Axis) (length : Float) :
    some (((Point.ofLengths? x y z).getD {}).set axis length) =
      match axis with
      | .x => Point.ofLengths? (some length) y z
      | .y => Point.ofLengths? x (some length) z
      | .z => Point.ofLengths? x y (some length) := by
  cases axis <;> cases x <;> cases y <;> cases z <;> rfl

/-- What a value is accepted as under a key. -/
def Constraint.ofValue? (key : Key) (value : List Char) : Option Constraint :=
  let signed := splitNegation value
  let number := Number.leadingFloat? (unquote value)
  let integer := Number.leadingInteger? (unquote value)
  match key with
  | .type => some (.type signed.1 (String.ofList signed.2))
  | .name => some (.name signed.1 (String.ofList signed.2))
  | .tag => some (.tag signed.1 (String.ofList signed.2))
  | .family => some (.family signed.1 (String.ofList signed.2))
  | .gameMode => (GameMode.ofText signed.2).toOption.map (.gameMode signed.1)
  | .levelMost => integer.map .levelMost
  | .levelLeast => integer.map .levelLeast
  | .axis along => (coordinate? (unquote value)).map (.axis along)
  | .extent along => number.map (.extent along)
  | .distanceMost => number.map .distanceMost
  | .distanceLeast => number.map .distanceLeast
  | .count => integer.map fun n => .count (CountLimit.ofSigned? n)
  | .pitchMost => number.map .pitchMost
  | .pitchLeast => number.map .pitchLeast
  | .yawMost => number.map .yawMost
  | .yawLeast => number.map .yawLeast
  | .scores => (insideBraces? value).map fun entries =>
    .scores ((split entries).filterMap fun entry => (ScoreFilter.read entry).toOption)
  | .items => (outcome (Item.conditions value)).toOption.map .items

theorem Constraint.toOption_read (key : Key) (spelling : String) (value : List Char) :
    (outcome (Constraint.read key spelling value)).toOption = ofValue? key value := by
  rw [outcome_read]
  unfold ofValue?
  cases key with
  | type | name | tag | family => rfl
  | gameMode | items => exact toOption_map _ _
  | levelMost | levelLeast | count =>
    simp only
    rw [toOption_map, toOption_requireInteger]
  | extent | distanceMost | distanceLeast | pitchMost | pitchLeast | yawMost | yawLeast =>
    simp only
    rw [toOption_map, toOption_requireFloat]
  | axis =>
    simp only
    rw [toOption_map, toOption_coordinate]
  | scores =>
    simp only
    cases insideBraces? value <;> rfl

/-- One more value for a key is one more constraint, if it is accepted, and nothing otherwise. -/
theorem Query.ofValues_snoc (values : Key → List (List Char)) (key : Key) (value : List Char) :
    Query.ofValues (Function.update values key (values key ++ [value])) =
      (Constraint.ofValue? key value).elim (Query.ofValues values) (Query.ofValues values).add := by
  -- Only the fields of the key change; each is a last value or an accumulation of the longer list.
  cases key with
  | type | name | tag | family =>
    rcases parts : splitNegation value with ⟨_ | _, text⟩ <;>
      simp [Constraint.ofValue?, Query.ofValues, Query.add, parts]
  | gameMode =>
    rcases parts : splitNegation value with ⟨_ | _, text⟩ <;>
      cases accepted : (GameMode.ofText text).toOption <;>
        simp [Constraint.ofValue?, Query.ofValues, Query.add, parts, accepted]
  | levelMost | levelLeast =>
    cases accepted : Number.leadingInteger? (unquote value) <;>
      simp [Constraint.ofValue?, Query.ofValues, Query.add, accepted]
  | axis along =>
    cases accepted : coordinate? (unquote value) <;> cases along <;>
      simp [Constraint.ofValue?, Query.ofValues, Query.add, Anchor.set_ofAxes?, accepted]
  | extent along =>
    cases accepted : Number.leadingFloat? (unquote value) <;> cases along <;>
      simp [Constraint.ofValue?, Query.ofValues, Query.add, Point.set_ofLengths?, accepted]
  | distanceMost | distanceLeast | pitchMost | pitchLeast | yawMost | yawLeast =>
    cases accepted : Number.leadingFloat? (unquote value) <;>
      simp [Constraint.ofValue?, Query.ofValues, Query.add, accepted]
  | count =>
    cases accepted : Number.leadingInteger? (unquote value) with
    | none => simp [Constraint.ofValue?, Query.ofValues, accepted]
    | some n =>
      cases limit : CountLimit.ofSigned? n <;>
        simp [Constraint.ofValue?, Query.ofValues, Query.add, accepted, limit]
  | scores =>
    cases inside : insideBraces? value <;>
      simp [Constraint.ofValue?, Query.ofValues, Query.add, scoreFilters, inside]
  | items =>
    cases accepted : (outcome (Item.conditions value)).toOption <;>
      simp [Constraint.ofValue?, Query.ofValues, Query.add, itemConditions, accepted]

/-! ### The values of an argument list -/

/-- The value that a token gives to a key, if it is an assignment to that key. -/
def Key.valueIn? (key : Key) (token : List Char) : Option (List Char) :=
  let (spelling, value) := splitAssignment token
  if Key.ofText? (String.ofList spelling) = some key then some value else none

/-- The values that an argument list gives to a key, in order, those that are refused included. -/
def Query.given (arguments : List Char) (key : Key) : List (List Char) :=
  (split arguments).filterMap key.valueIn?

/-- A token gives a value to one key, which decides whether it is accepted, or to none. -/
theorem Constraint.ofToken?_cases (token : List Char) :
    (Constraint.ofToken? token = none ∧ ∀ key : Key, key.valueIn? token = none) ∨
      ∃ (key : Key) (value : List Char), Constraint.ofToken? token = ofValue? key value ∧
        ∀ other : Key, other.valueIn? token = if other = key then some value else none := by
  unfold Constraint.ofToken? Key.valueIn?
  rcases splitAssignment token with ⟨spelling, value⟩
  simp only
  cases known : Key.ofText? (String.ofList spelling) with
  | none =>
    refine Or.inl ⟨?_, fun key => rfl⟩
    split
    · rfl
    · simp only [Constraint.ofArgument, known]
      rfl
  | some key =>
    have filled : spelling.isEmpty = false := by
      cases spelling with
      | nil => cases known
      | cons c rest => rfl
    refine Or.inr ⟨key, value, ?_, fun other => ?_⟩
    · simp only [filled, Bool.false_eq_true, if_false, Constraint.ofArgument, known]
      exact Constraint.toOption_read key _ value
    · simp [eq_comm]

namespace Query

theorem foldl_add_eq_ofValues (tokens : List (List Char)) :
    (tokens.filterMap Constraint.ofToken?).foldl Query.add {} =
      Query.ofValues fun key => tokens.filterMap key.valueIn? := by
  induction tokens using List.reverseRecOn with
  | nil => rfl
  | append_singleton tokens token ih =>
    rcases Constraint.ofToken?_cases token with ⟨refused, apart⟩ | ⟨key, value, accepted, values⟩
    · simp [refused, apart, ih]
    · have updated : (fun other : Key => (tokens ++ [token]).filterMap other.valueIn?) =
          Function.update (fun other : Key => tokens.filterMap other.valueIn?) key
            (tokens.filterMap key.valueIn? ++ [value]) := by
        funext other
        by_cases same : other = key
        · subst same
          simp [values]
        · simp [values, same]
      rw [updated, ofValues_snoc, ← ih, List.filterMap_append, List.foldl_append]
      cases taken : Constraint.ofValue? key value <;> simp [accepted, taken]

theorem value_read_eq_ofValues (arguments : List Char) (selector : String) :
    (Query.read arguments selector).value = Query.ofValues (given arguments) := by
  rw [value_read]
  exact foldl_add_eq_ofValues (split arguments)

/-- A count that was read keeps somebody. -/
theorem size_pos_of_ofValues {values : Key → List (List Char)} {limit : CountLimit}
    (counted : (Query.ofValues values).count = some limit) : 0 < limit.size := by
  obtain ⟨n, -, signed⟩ := List.mem_filterMap.mp (List.mem_of_getLast? counted)
  exact CountLimit.size_pos_of_ofSigned? signed

/-- The values of the count go into the count alone. -/
theorem ofValues_of_same_but_count {values others : Key → List (List Char)}
    (same : ∀ key, key ≠ .count → others key = values key) :
    Query.ofValues others = { Query.ofValues values with count := (Query.ofValues others).count } := by
  simp [Query.ofValues, same]

/-- Two argument lists that give each key the same values are read as the same query, however they
interleave them and whatever else stands between. A single value is the last one of its own key that
is accepted, a count being accepted if it is not zero and a type, a name and a game mode if they are
not negated; what accumulates holds all of them. -/
theorem keys_are_independent (arguments : List Char) (selector : String) :
    (∀ other otherSelector, (∀ key, given other key = given arguments key) →
      (Query.read other otherSelector).value = (Query.read arguments selector).value) ∧
    (Query.read arguments selector).value = Query.ofValues (given arguments) ∧
    let q := (Query.read arguments selector).value
    (∀ tag, tag ∈ q.tags ↔ tag ∈ plain (texts (given arguments .tag))) ∧
    (∀ tag, tag ∈ q.excludedTags ↔ tag ∈ negated (texts (given arguments .tag))) ∧
    (∀ family, family ∈ q.families ↔ family ∈ plain (texts (given arguments .family))) ∧
    (∀ family, family ∈ q.excludedFamilies ↔ family ∈ negated (texts (given arguments .family))) ∧
    ∀ mode, mode ∈ q.excludedGameModes ↔ mode ∈ negated (modes (given arguments .gameMode)) := by
  rw [value_read_eq_ofValues]
  refine ⟨?_, rfl, ?_⟩
  · intro other otherSelector same
    rw [value_read_eq_ofValues, show given other = given arguments from funext same]
  · exact ⟨mem_collect _, mem_collect _, mem_collect _, mem_collect _, mem_collect _⟩

theorem keys_are_independent_of_swapped :
    (∀ key, given "l=5,zz,x=1".toList key = given "x=1,l=5".toList key) ∧
      (Query.read "l=5,zz,x=1".toList "").value = (Query.read "x=1,l=5".toList "").value := by
  have swapped : split "l=5,zz,x=1".toList = ["l=5".toList, "zz".toList, "x=1".toList] := by
    decide +kernel
  have straight : split "x=1,l=5".toList = ["x=1".toList, "l=5".toList] := by decide +kernel
  have same (key : Key) : given "l=5,zz,x=1".toList key = given "x=1,l=5".toList key := by
    rw [given, given, swapped, straight]
    cases key with
    | axis along | extent along => cases along <;> decide +kernel
    | _ => decide +kernel
  exact ⟨same, (keys_are_independent "x=1,l=5".toList "").1 "l=5,zz,x=1".toList "" same⟩

end Query

end Targeting
