import Targeting.Host
import Targeting.Keyed

/-!
# Bodies

The entities of a world kept in memory. A body is a record of what the world
knows about an entity; `Body.entity` is what an evaluation gets to see of it.
-/
namespace Targeting

/-- How much of a body its entity shows. -/
inductive Visibility where
  /-- Everything. -/
  | full
  /-- All but the id and the scoreboard identity, which fail. -/
  | unloaded
  /-- Neither game mode nor level, and no items. -/
  | bare
deriving DecidableEq, Repr

structure Body where
  id : String
  type : String
  visibility : Visibility := .full
  position : Point := {}
  rotation : Rotation := {}
  name : String := ""
  tags : List String := []
  families : List String := []
  player : Bool := false
  gameMode : Option GameMode := none
  level : Int := 0
  inventory : List (Option ItemStack) := []
  equipment : List (String × Option ItemStack) := []
  identity : Option Identity := none
deriving DecidableEq, Repr

namespace Body

def unloadedFault : Fault := ⟨"entity unloaded"⟩

/-- The name that a scoreboard identity of the body gets. -/
def scoreName (b : Body) : String := if b.name.isEmpty then b.type else b.name

/-- The body with everything shown; only players have a game mode and a level. -/
def fullEntity (b : Body) (handle : Nat) : Entity where
  handle := handle
  id := .ok b.id
  typeId := .ok b.type
  nameTag := .ok b.name
  location := .ok b.position
  rotation := .ok b.rotation
  identity := .ok b.identity
  tags := .ok b.tags
  inFamily family := .ok (b.families.contains family)
  isPlayer := .ok b.player
  gameMode := .ok (if b.player then b.gameMode else none)
  level := .ok (if b.player then some b.level else none)
  inventory := .ok b.inventory
  equipment := .ok b.equipment

def entity (b : Body) (handle : Nat) : Entity :=
  let shown := b.fullEntity handle
  match b.visibility with
  | .full => shown
  | .unloaded => { shown with id := .error unloadedFault, identity := .error unloadedFault }
  | .bare =>
    { shown with gameMode := .ok none, level := .ok none, inventory := .ok [], equipment := .ok [] }

/-- The part of a type id after its last colon. -/
def lastSegment (typeId : String) : List Char :=
  (typeId.toList.reverse.takeWhile (· ≠ ':')).reverse

/-- A field of the body's record as the pool reads it. A bare body keeps no record. -/
def recorded {α : Type} (b : Body) (field : String) (value : α) : Except Fault α :=
  if b.visibility = .bare then
    .error ⟨"'MinimalEntity' object has no attribute '" ++ field ++ "'"⟩
  else .ok value

/-- The pool compares types without their namespaces. -/
def mayHaveType (b : Body) (q : Query) : Except Fault Bool :=
  match q.type with
  | none => .ok true
  | some type =>
    if type.isEmpty then .ok true
    else (b.recorded "type" b.type).map fun own => lastSegment own = lastSegment type

def mayHaveName (b : Body) (q : Query) : Except Fault Bool :=
  match q.name with
  | none => .ok true
  | some name => (b.recorded "name" b.name).map (· = name)

def mayHaveTags (b : Body) (q : Query) : Except Fault Bool :=
  if q.tags.isEmpty then .ok true
  else (b.recorded "tags" b.tags).map fun own => q.tags.all own.contains

/-- What the pool itself checks: type, name and tags. -/
def mayMatch (b : Body) (q : Query) : Except Fault Bool := do
  if !(← b.mayHaveType q) then return false
  if !(← b.mayHaveName q) then return false
  b.mayHaveTags q

end Body

end Targeting
