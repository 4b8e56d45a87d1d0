import Targeting.Query

/-!
# The host

What a host world answers: its entities, its scoreboard and its pool of
entities. Every answer may be a fault instead. An evaluation sees a host only
through these values.
-/
namespace Targeting

/-- A failure that the host raised instead of answering. -/
structure Fault where
  message : String
deriving DecidableEq, Repr

/-- A stack of items. Items without durability have no damage. -/
structure ItemStack where
  typeId : String
  amount : Int := 1
  tags : List String := []
  damage : Option Int := none
deriving DecidableEq, Repr

/-- A participant of a scoreboard. Two participants may show the same name. -/
structure Identity where
  number : Nat
  displayName : String
deriving DecidableEq, Repr

/-- An entity as the host shows it. The handle is the host's own and tells entities apart. -/
structure Entity where
  handle : Nat
  id : Except Fault String
  typeId : Except Fault String
  nameTag : Except Fault String
  location : Except Fault Point
  rotation : Except Fault Rotation
  identity : Except Fault (Option Identity)
  tags : Except Fault (List String)
  inFamily : String → Except Fault Bool
  isPlayer : Except Fault Bool
  gameMode : Except Fault (Option GameMode)
  level : Except Fault (Option Int)
  inventory : Except Fault (List (Option ItemStack))
  equipment : Except Fault (List (String × Option ItemStack))

/-- A named counter. -/
structure Objective where
  score : Identity → Except Fault (Option Int)

structure Scoreboard where
  objective : String → Except Fault (Option Objective)
  participants : Except Fault (List Identity)

/-- What the pool is asked: the query without its count, and the origin if one is needed. -/
structure PoolQuery where
  query : Query
  origin : Option Point
deriving DecidableEq, Repr

/-- The services of a host. The pool may filter as it likes: its answer is a hint. -/
structure Host where
  pool : PoolQuery → Except Fault (List Entity)
  scoreboard : Option Scoreboard

end Targeting
