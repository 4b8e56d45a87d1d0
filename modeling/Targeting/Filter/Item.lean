import Targeting.Filter.Entity
import Targeting.Text.Lowercase

/-!
# Item filters

Where an entity keeps its items, and whether one of them meets a condition.
Inventory slots have an index; equipment slots have a location alone.
-/
namespace Targeting

open Text

structure ItemSlot where
  stack : ItemStack
  location : String
  index : Option Int
deriving DecidableEq, Repr

def inventoryLocation : String := "slot.inventory"

def hotbarLocation : String := "slot.hotbar"

inductive EquipmentSlot where
  | head
  | chest
  | legs
  | feet
  | mainhand
  | offhand
  | body
deriving DecidableEq, Repr

namespace EquipmentSlot

def name : EquipmentSlot → String
  | .head => "Head"
  | .chest => "Chest"
  | .legs => "Legs"
  | .feet => "Feet"
  | .mainhand => "Mainhand"
  | .offhand => "Offhand"
  | .body => "Body"

/-- The slots whose location is not made from their name, each with its location. -/
def locations : List (EquipmentSlot × String) :=
  [(.head, "slot.armor.head"), (.chest, "slot.armor.chest"), (.legs, "slot.armor.legs"),
   (.feet, "slot.armor.feet"), (.mainhand, "slot.weapon.mainhand"),
   (.offhand, "slot.weapon.offhand")]

def locationOf (slotName : String) : String :=
  match locations.find? fun entry => entry.1.name = slotName with
  | some entry => entry.2
  | none => "slot.equippable." ++ lower slotName

end EquipmentSlot

def inventorySlots (hotbar : Nat) : Nat → List (Option ItemStack) → List ItemSlot
  | _, [] => []
  | index, none :: rest => inventorySlots hotbar (index + 1) rest
  | index, some stack :: rest =>
    let location := if index < hotbar then hotbarLocation else inventoryLocation
    ⟨stack, location, some index⟩ :: inventorySlots hotbar (index + 1) rest

def equipmentSlots (equipment : List (String × Option ItemStack)) : List ItemSlot :=
  equipment.filterMap fun (name, stack) =>
    stack.map fun stack => ⟨stack, EquipmentSlot.locationOf name, none⟩

/-- The occupied slots of an entity, inventory first. Only players have a hotbar. -/
def Entity.itemSlots (e : Entity) (settings : Settings) : Except Fault (List ItemSlot) := do
  let hotbar := if ← e.isPlayer then settings.hotbarSize else 0
  let inventory ← e.inventory
  let equipment ← e.equipment
  return inventorySlots hotbar 0 inventory ++ equipmentSlots equipment

namespace ItemCondition

variable (c : ItemCondition)

/-- A pattern with a colon names an item, any other a tag; an empty one fits every item. -/
def fitsItem (stack : ItemStack) : Bool :=
  match c.item with
  | none => true
  | some pattern =>
    pattern.isEmpty ||
      (if pattern.toList.contains ':' then stack.typeId = pattern else stack.tags.contains pattern)

/-- An item without durability counts as undamaged. -/
def fitsDamage (stack : ItemStack) : Bool :=
  c.damage.all fun damage => damage = -1 || stack.damage.getD 0 = damage

/-- The inventory holds the hotbar. -/
def fitsLocation (location wanted : String) : Bool :=
  wanted = location || (wanted = inventoryLocation && location = hotbarLocation)

/-- The locations of armor and weapons, whose slots are taken as being in any range. -/
def isUnindexed (location : String) : Bool :=
  "slot.armor.".toList.isPrefixOf location.toList || "slot.weapon.".toList.isPrefixOf location.toList

def fitsPlace (slot : ItemSlot) : Bool :=
  let inRange (outside : Bool) :=
    match c.slot, slot.index with
    | none, _ => true
    | some range, some index => range.contains index
    | some _, none => outside
  -- A slot without an index is in a range only where its location is asked for by name.
  match c.location with
  | none => inRange false
  | some wanted =>
    if wanted.isEmpty then inRange false
    else fitsLocation slot.location wanted && inRange (isUnindexed slot.location)

def accepts (slot : ItemSlot) : Bool :=
  c.fitsItem slot.stack && c.quantity.contains slot.stack.amount && c.fitsDamage slot.stack
    && c.fitsPlace slot

end ItemCondition

def Entity.meetsItems (e : Entity) (conditions : List ItemCondition) (settings : Settings) :
    Check :=
  if conditions.isEmpty then .ok true
  else do
    let slots ← e.itemSlots settings
    return conditions.all fun condition => slots.any condition.accepts

end Targeting
