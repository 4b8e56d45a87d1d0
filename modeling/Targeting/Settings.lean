import Targeting.Log.Level

/-!
# Settings

The settings of a selector and their defaults.
-/
namespace Targeting

structure Settings where
  /-- The entity type that the player symbols ask for. -/
  playerTypeId : String := "minecraft:player"
  /-- The namespace of type ids written without one. -/
  defaultNamespace : String := "minecraft"
  /-- How many leading inventory slots of a player are its hotbar. -/
  hotbarSize : Nat := 9
  /-- How many entities a random choice takes when no count is given. -/
  defaultRandomCount : Nat := 1
  /-- Whether messages lose their formatting codes. -/
  stripFormatting : Bool := true
  logLevel : Log.Level := .info
  logFile : Option String := none
deriving DecidableEq, Repr

end Targeting
