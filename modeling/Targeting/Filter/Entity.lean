import Targeting.Host
import Targeting.Settings
import Targeting.Text.Blank

/-!
# Entity filters

The checks of a query that look at one entity alone: its type, name, tags,
families, game mode, level, rotation and distance. Checks run in this order and
stop at the first that fails.
-/
namespace Targeting

/-- A type id without blanks around it, completed with the namespace if it has none. -/
def completeTypeId (space typeId : String) : String :=
  let plain := Text.trim typeId.toList
  if plain.contains ':' then String.ofList plain else space ++ ":" ++ String.ofList plain

/-- A check of an entity, which the host may break off. -/
abbrev Check := Except Fault Bool

/-- Both checks hold; the second counts only if the first holds. -/
def Check.and (first second : Check) : Check := do
  if ← first then second else return false

def Check.all (checks : List Check) : Check := checks.foldr Check.and (.ok true)

@[simp] theorem Check.true_and (second : Check) : Check.and (.ok true) second = second := rfl

@[simp] theorem Check.false_and (second : Check) : Check.and (.ok false) second = .ok false := rfl

namespace Entity

variable (e : Entity) (q : Query)

def hasType (space : String) : Check := do
  let own := completeTypeId space (← e.typeId)
  let wanted :=
    match q.type with
    | none => true
    | some type => type.isEmpty || own = completeTypeId space type
  return wanted && !q.excludedTypes.any fun type => own = completeTypeId space type

def hasName : Check := do
  let own ← e.nameTag
  return q.name.all (own = ·) && !q.excludedNames.contains own

def hasTags : Check := do
  if q.tags.isEmpty && q.excludedTags.isEmpty then return true
  let own ← e.tags
  return q.tags.all own.contains && !q.excludedTags.any own.contains

def inFamilies (families : List String) : Check := Check.all (families.map e.inFamily)

def outsideFamilies (families : List String) : Check :=
  Check.all (families.map fun family => (e.inFamily family).map (!·))

def hasGameMode : Check := do
  let own ← e.gameMode
  return q.gameMode.all (own = some ·) && !own.any q.excludedGameModes.contains

def hasLevel : Check := do
  if q.level.isOpen then return true
  return (← e.level).any q.level.contains

/-- Game mode and level; asking for either keeps players alone. -/
def isWantedPlayer : Check :=
  -- Without a demand the host is not even asked whether this is a player.
  if q.gameMode.isNone && q.excludedGameModes.isEmpty && q.level.isOpen then .ok true
  else Check.all [e.isPlayer, e.hasGameMode q, e.hasLevel q]

def hasRotation : Check := do
  if q.rotationIsOpen then return true
  return q.acceptsRotation (← e.rotation)

/-- The distance from the origin, compared squared; without an origin every distance will do. -/
def hasDistance (origin : Option Point) : Check :=
  match origin with
  | none => .ok true
  | some center =>
    if q.distance.isOpen then .ok true
    else do
      let squared := (← e.location).distanceSquared center
      return !q.distance.low.any (fun low => squared < low * low)
        && !q.distance.high.any (fun high => high * high < squared)

def meets (origin : Option Point) (settings : Settings) : Check :=
  Check.all [e.hasType q settings.defaultNamespace, e.hasName q, e.hasTags q,
    e.inFamilies q.families, e.outsideFamilies q.excludedFamilies, e.isWantedPlayer q,
    e.hasRotation q, e.hasDistance q origin]

end Entity

end Targeting
