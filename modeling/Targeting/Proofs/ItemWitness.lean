import Targeting.Proofs.Acceptance

/-!
# Witnesses of item conditions

A condition on items is decided by single stacks: some occupied slot has to hold
a stack of the right item, amount and damage, and stand at a fitting place.
Every condition looks for its own witness, so two of them may find the same.

## Main result

`Entity.items_are_witnessed`: an entity meets item conditions exactly if each of
them has a witness.

## Proof strategy

Slots carry their location as a text, and a condition compares it with texts of
its own. `Place` tells inventory and equipment apart instead: the slots of an
entity are those of its places (`exists_itemSlots`), and a condition takes the
slot of a place just if the place fits (`accepts_slot_iff`).
-/
namespace Targeting

open Text

/-! ### Places -/

/-- Where an entity keeps a stack: at an index of its inventory, or in an equipment slot. -/
inductive Place where
  | inventory (index : Nat)
  | equipment (slotName : String)

namespace Entity

variable (e : Entity)

/-- The entity keeps a stack at a place. Empty slots count for the indices of the inventory, but
keep nothing. -/
inductive Keeps : Place → ItemStack → Prop where
  | inventory {slots : List (Option ItemStack)} {index : Nat} {stack : ItemStack}
      (listed : e.inventory = .ok slots) (occupied : slots[index]? = some (some stack)) :
      Keeps (.inventory index) stack
  | equipment {slots : List (String × Option ItemStack)} {slotName : String} {stack : ItemStack}
      (listed : e.equipment = .ok slots) (occupied : (slotName, some stack) ∈ slots) :
      Keeps (.equipment slotName) stack

/-- The host answers what items are looked for with. -/
structure ShowsItems : Prop where
  isPlayer : ∃ player, e.isPlayer = .ok player
  inventory : ∃ slots, e.inventory = .ok slots
  equipment : ∃ slots, e.equipment = .ok slots

end Entity

namespace EquipmentSlot

/-- The slots of armor and weapons. -/
def IsArmorOrWeapon (slotName : String) : Prop := ∃ entry ∈ locations, entry.1.name = slotName

/-- Armor and weapons have locations of their own, any other slot has one made from its name. -/
inductive HasLocation : String → String → Prop where
  | listed {slot : EquipmentSlot} {location : String} (member : (slot, location) ∈ locations) :
      HasLocation slot.name location
  | made {slotName : String} (unlisted : ¬ IsArmorOrWeapon slotName) :
      HasLocation slotName ("slot.equippable." ++ lower slotName)

end EquipmentSlot

/-- The place is at a location. The hotbar of a player is a part of the inventory. -/
inductive Place.IsAt (e : Entity) (settings : Settings) : Place → String → Prop where
  | hotbar {index : Nat} (player : e.isPlayer = .ok true) (within : index < settings.hotbarSize) :
      IsAt e settings (.inventory index) hotbarLocation
  | inventory (index : Nat) : IsAt e settings (.inventory index) inventoryLocation
  | equipment {slotName location : String} (located : EquipmentSlot.HasLocation slotName location) :
      IsAt e settings (.equipment slotName) location

/-! ### What a condition asks for -/

/-- The number is inside the bounds that are given. -/
def IntRange.Spans (range : IntRange) (n : Int) : Prop :=
  (∀ low, range.low = some low → low ≤ n) ∧ ∀ high, range.high = some high → n ≤ high

namespace ItemCondition

variable (c : ItemCondition)

/-- The stack is of the item asked for, with the amount and the damage asked for. A stack without
durability counts as undamaged. -/
structure Wants (stack : ItemStack) : Prop where
  id : ∀ pattern, c.item = some pattern → ':' ∈ pattern.toList → stack.typeId = pattern
  tag : ∀ pattern, c.item = some pattern → pattern ≠ "" → ':' ∉ pattern.toList →
    pattern ∈ stack.tags
  amount : c.quantity.Spans stack.amount
  damage : ∀ damage, c.damage = some damage → damage ≠ -1 →
    stack.damage = some damage ∨ stack.damage = none ∧ damage = 0

/-- The condition names no location. -/
def Unplaced : Prop := c.location = none ∨ c.location = some ""

/-- The place fits. Without a location any place does, and only the inventory has a range. At a
location the inventory is held to the range, armor and weapons are in every range, and other
equipment is in none. -/
inductive Fits (e : Entity) (settings : Settings) : Place → Prop where
  | anywhere (place : Place) (unplaced : c.Unplaced) (unranged : c.slot = none) :
      Fits e settings place
  | within {index : Nat} {range : IntRange} (unplaced : c.Unplaced) (ranged : c.slot = some range)
      (inside : range.Spans index) : Fits e settings (.inventory index)
  | located {place : Place} {wanted : String} (placed : c.location = some wanted)
      (filled : wanted ≠ "") (there : place.IsAt e settings wanted) (unranged : c.slot = none) :
      Fits e settings place
  | locatedWithin {index : Nat} {wanted : String} {range : IntRange}
      (placed : c.location = some wanted) (filled : wanted ≠ "")
      (there : (Place.inventory index).IsAt e settings wanted) (ranged : c.slot = some range)
      (inside : range.Spans index) : Fits e settings (.inventory index)
  | worn {slotName wanted : String} {range : IntRange} (placed : c.location = some wanted)
      (filled : wanted ≠ "") (there : (Place.equipment slotName).IsAt e settings wanted)
      (ranged : c.slot = some range) (unindexed : EquipmentSlot.IsArmorOrWeapon slotName) :
      Fits e settings (.equipment slotName)

/-- Some stack that the entity keeps is what the condition asks for, and is where it may be. -/
def HasWitness (e : Entity) (settings : Settings) : Prop :=
  ∃ place stack, e.Keeps place stack ∧ c.Wants stack ∧ c.Fits e settings place

end ItemCondition

/-! ### The slots of places -/

/-- How many leading slots of the inventory are the hotbar. -/
abbrev Settings.hotbarOf (settings : Settings) (player : Bool) : Nat :=
  if player then settings.hotbarSize else 0

/-- The slot of a place, where so many leading slots of the inventory are the hotbar. -/
def Place.slot (hotbar : Nat) (place : Place) (stack : ItemStack) : ItemSlot :=
  match place with
  | .inventory index =>
    ⟨stack, if index < hotbar then hotbarLocation else inventoryLocation, some index⟩
  | .equipment slotName => ⟨stack, EquipmentSlot.locationOf slotName, none⟩

@[simp] theorem Place.stack_slot (hotbar : Nat) (place : Place) (stack : ItemStack) :
    (place.slot hotbar stack).stack = stack := by
  cases place <;> rfl

theorem mem_inventorySlots_iff {hotbar start : Nat} {inventory : List (Option ItemStack)}
    {slot : ItemSlot} : slot ∈ inventorySlots hotbar start inventory ↔
      ∃ index stack, inventory[index]? = some (some stack) ∧
        slot = (Place.inventory (start + index)).slot hotbar stack := by
  induction inventory generalizing start with
  | nil => simp [inventorySlots]
  | cons first rest ih =>
    -- The slots behind the first one are those of the rest, one index on.
    have behind : slot ∈ inventorySlots hotbar (start + 1) rest ↔
        ∃ index stack, (first :: rest)[index + 1]? = some (some stack) ∧
          slot = (Place.inventory (start + (index + 1))).slot hotbar stack := by
      simp only [ih, List.getElem?_cons_succ, Nat.add_right_comm start 1, Nat.add_assoc]
    rw [← Nat.or_exists_add_one]
    cases first with
    | none => simp [inventorySlots, behind]
    | some stack => simp [inventorySlots, behind, Place.slot]

theorem mem_equipmentSlots_iff {equipment : List (String × Option ItemStack)} {slot : ItemSlot} :
    slot ∈ equipmentSlots equipment ↔ ∃ slotName stack, (slotName, some stack) ∈ equipment ∧
      slot = (Place.equipment slotName).slot 0 stack := by
  unfold equipmentSlots
  rw [List.mem_filterMap]
  constructor
  · rintro ⟨⟨slotName, stack⟩, member, made⟩
    obtain ⟨stack, rfl, rfl⟩ := Option.map_eq_some_iff.mp made
    exact ⟨slotName, stack, member, rfl⟩
  · rintro ⟨slotName, stack, member, rfl⟩
    exact ⟨(slotName, some stack), member, rfl⟩

/-! ### Locations of equipment -/

namespace EquipmentSlot

theorem hasLocation_iff {slotName location : String} :
    HasLocation slotName location ↔ locationOf slotName = location := by
  constructor
  · intro located
    cases located with
    | listed member =>
      have own : ∀ entry ∈ locations, locationOf entry.1.name = entry.2 := by decide +kernel
      exact own _ member
    | made unlisted =>
      have absent : locations.find? (fun entry => entry.1.name = slotName) = none := by
        rw [List.find?_eq_none]
        intro entry member same
        exact unlisted ⟨entry, member, of_decide_eq_true same⟩
      rw [locationOf, absent]
  · rintro rfl
    unfold locationOf
    split
    next entry found =>
      have same := List.find?_some found
      obtain rfl := of_decide_eq_true same
      exact .listed (List.mem_of_find?_eq_some found)
    next absent =>
      refine .made ?_
      rintro ⟨entry, member, same⟩
      exact List.find?_eq_none.mp absent entry member (decide_eq_true same)

theorem hasLocation_locationOf (slotName : String) : HasLocation slotName (locationOf slotName) :=
  hasLocation_iff.mpr rfl

/-- The locations of armor and weapons are told by how they begin. -/
theorem HasLocation.isUnindexed_iff {slotName location : String}
    (located : HasLocation slotName location) :
    ItemCondition.isUnindexed location = true ↔ IsArmorOrWeapon slotName := by
  cases located with
  | listed member =>
    have own : ∀ entry ∈ locations, ItemCondition.isUnindexed entry.2 = true := by decide +kernel
    exact iff_of_true (own _ member) ⟨_, member, rfl⟩
  | made unlisted =>
    refine iff_of_false ?_ unlisted
    rw [ItemCondition.isUnindexed, String.toList_append, Bool.not_eq_true]
    rfl

/-- No equipment is in the hotbar. -/
theorem HasLocation.ne_hotbar {slotName location : String}
    (located : HasLocation slotName location) : location ≠ hotbarLocation := by
  cases located with
  | listed member =>
    have apart : ∀ entry ∈ locations, entry.2 ≠ hotbarLocation := by decide +kernel
    exact apart _ member
  | made =>
    intro same
    -- The two texts part behind the first dot.
    have texts := congrArg (fun location => location.toList.take 6) same
    rw [String.toList_append, List.take_append_of_le_length (by decide +kernel)] at texts
    exact absurd texts (by decide +kernel)

end EquipmentSlot

/-! ### Matching -/

namespace Place

variable {e : Entity} {settings : Settings} {player : Bool}

theorem isAt_iff (answered : e.isPlayer = .ok player) (place : Place) (stack : ItemStack)
    (wanted : String) : place.IsAt e settings wanted ↔ ItemCondition.fitsLocation
      (place.slot (settings.hotbarOf player) stack).location wanted = true := by
  simp only [ItemCondition.fitsLocation, Bool.or_eq_true, Bool.and_eq_true, decide_eq_true_eq]
  cases place with
  | inventory index =>
    have within : index < settings.hotbarOf player ↔
        e.isPlayer = .ok true ∧ index < settings.hotbarSize := by
      cases player <;> simp [Settings.hotbarOf, answered]
    -- A slot of the hotbar answers to both names, any other slot of the inventory to one.
    constructor
    · intro there
      cases there with
      | hotbar asked inside => exact Or.inl (if_pos (within.mpr ⟨asked, inside⟩)).symm
      | inventory =>
        by_cases inside : index < settings.hotbarOf player
        · exact Or.inr ⟨rfl, if_pos inside⟩
        · exact Or.inl (if_neg inside).symm
    · by_cases inside : index < settings.hotbarOf player
      · obtain ⟨asked, inside'⟩ := within.mp inside
        simp only [slot, if_pos inside]
        rintro (rfl | ⟨rfl, -⟩)
        · exact .hotbar asked inside'
        · exact .inventory index
      · simp only [slot, if_neg inside]
        rintro (rfl | ⟨rfl, -⟩)
        · exact .inventory index
        · exact .inventory index
  | equipment slotName =>
    constructor
    · intro there
      cases there with
      | equipment located => exact Or.inl (EquipmentSlot.hasLocation_iff.mp located).symm
    · rintro (rfl | ⟨-, same⟩)
      · exact .equipment (EquipmentSlot.hasLocation_locationOf slotName)
      · exact absurd same (EquipmentSlot.hasLocation_locationOf slotName).ne_hotbar

end Place

theorem IntRange.contains_iff_spans (range : IntRange) (n : Int) :
    range.contains n = true ↔ range.Spans n := by
  simp only [Bounds.contains_iff, Spans, Int.not_lt]

instance (range : IntRange) (n : Int) : Decidable (range.Spans n) :=
  decidable_of_iff _ (range.contains_iff_spans n)

namespace ItemCondition

variable {c : ItemCondition} {e : Entity} {settings : Settings} {player : Bool}

theorem fitsItem_iff (stack : ItemStack) : c.fitsItem stack = true ↔
    (∀ pattern, c.item = some pattern → ':' ∈ pattern.toList → stack.typeId = pattern) ∧
      ∀ pattern, c.item = some pattern → pattern ≠ "" → ':' ∉ pattern.toList →
        pattern ∈ stack.tags := by
  unfold fitsItem
  cases c.item with
  | none => simp
  | some pattern =>
    by_cases colon : ':' ∈ pattern.toList
    · have filled : pattern ≠ "" := by
        rintro rfl
        simp at colon
      simp [colon, filled]
    · by_cases empty : pattern = ""
      · simp [empty]
      · simp [colon, empty]

theorem fitsDamage_iff (stack : ItemStack) : c.fitsDamage stack = true ↔
    ∀ damage, c.damage = some damage → damage ≠ -1 →
      stack.damage = some damage ∨ stack.damage = none ∧ damage = 0 := by
  unfold fitsDamage
  cases c.damage with
  | none => simp
  | some damage =>
    by_cases any : damage = -1
    · simp [any]
    · cases stack.damage <;> simp [any, eq_comm]

theorem wants_iff (stack : ItemStack) : c.Wants stack ↔ c.fitsItem stack = true ∧
    c.quantity.contains stack.amount = true ∧ c.fitsDamage stack = true := by
  rw [fitsItem_iff, IntRange.contains_iff_spans, fitsDamage_iff]
  constructor
  · rintro ⟨id, tag, amount, damage⟩
    exact ⟨⟨id, tag⟩, amount, damage⟩
  · rintro ⟨⟨id, tag⟩, amount, damage⟩
    exact ⟨id, tag, amount, damage⟩

instance (stack : ItemStack) : Decidable (c.Wants stack) :=
  decidable_of_iff' _ (wants_iff stack)

theorem fitsPlace_of_unplaced (unplaced : c.Unplaced) (slot : ItemSlot) :
    c.fitsPlace slot = true ↔ ∀ range, c.slot = some range →
      ∃ index, slot.index = some index ∧ range.Spans index := by
  rcases unplaced with given | given <;> cases ranged : c.slot <;> cases indexed : slot.index <;>
    simp [fitsPlace, given, ranged, indexed, IntRange.contains_iff_spans]

theorem fitsPlace_of_placed {wanted : String} (placed : c.location = some wanted)
    (filled : wanted ≠ "") (slot : ItemSlot) :
    c.fitsPlace slot = true ↔ fitsLocation slot.location wanted = true ∧
      ∀ range, c.slot = some range →
        (∃ index, slot.index = some index ∧ range.Spans index) ∨
          slot.index = none ∧ isUnindexed slot.location = true := by
  cases ranged : c.slot <;> cases indexed : slot.index <;>
    simp [fitsPlace, placed, filled, ranged, indexed, IntRange.contains_iff_spans]

theorem fits_of_fitsPlace (answered : e.isPlayer = .ok player) {place : Place} {stack : ItemStack}
    (taken : c.fitsPlace (place.slot (settings.hotbarOf player) stack) = true) :
    c.Fits e settings place := by
  -- Without a location the range holds the index, with one it may also let armor and weapons in.
  by_cases unplaced : c.Unplaced
  · rw [fitsPlace_of_unplaced unplaced] at taken
    cases ranged : c.slot with
    | none => exact .anywhere place unplaced ranged
    | some range =>
      cases place with
      | inventory index =>
        obtain ⟨_, ⟨⟩, inside⟩ := taken range ranged
        exact .within unplaced ranged inside
      | equipment slotName =>
        obtain ⟨_, ⟨⟩, -⟩ := taken range ranged
  · obtain ⟨wanted, placed, filled⟩ : ∃ wanted, c.location = some wanted ∧ wanted ≠ "" := by
      obtain ⟨absent, empty⟩ := not_or.mp unplaced
      obtain ⟨wanted, placed⟩ := Option.ne_none_iff_exists'.mp absent
      exact ⟨wanted, placed, fun same => empty (same ▸ placed)⟩
    rw [fitsPlace_of_placed placed filled, ← Place.isAt_iff answered] at taken
    obtain ⟨there, taken⟩ := taken
    cases ranged : c.slot with
    | none => exact .located placed filled there ranged
    | some range =>
      cases place with
      | inventory index =>
        obtain ⟨_, ⟨⟩, inside⟩ | ⟨⟨⟩, -⟩ := taken range ranged
        exact .locatedWithin placed filled there ranged inside
      | equipment slotName =>
        obtain ⟨_, ⟨⟩, -⟩ | ⟨-, unindexed⟩ := taken range ranged
        have located := EquipmentSlot.hasLocation_locationOf slotName
        exact .worn placed filled there ranged (located.isUnindexed_iff.mp unindexed)

theorem fitsPlace_of_fits (answered : e.isPlayer = .ok player) {place : Place}
    (fits : c.Fits e settings place) (stack : ItemStack) :
    c.fitsPlace (place.slot (settings.hotbarOf player) stack) = true := by
  cases fits with
  | anywhere _ unplaced unranged => simp [fitsPlace_of_unplaced unplaced, unranged]
  | within unplaced ranged inside =>
    rw [fitsPlace_of_unplaced unplaced, ranged]
    rintro range ⟨⟩
    exact ⟨_, rfl, inside⟩
  | located placed filled there unranged =>
    rw [fitsPlace_of_placed placed filled, ← Place.isAt_iff answered, unranged]
    exact ⟨there, nofun⟩
  | locatedWithin placed filled there ranged inside =>
    rw [fitsPlace_of_placed placed filled, ← Place.isAt_iff answered, ranged]
    refine ⟨there, ?_⟩
    rintro range ⟨⟩
    exact Or.inl ⟨_, rfl, inside⟩
  | @worn slotName _ _ placed filled there ranged unindexed =>
    rw [fitsPlace_of_placed placed filled, ← Place.isAt_iff answered, ranged]
    have located := EquipmentSlot.hasLocation_locationOf slotName
    exact ⟨there, fun _ _ => Or.inr ⟨rfl, located.isUnindexed_iff.mpr unindexed⟩⟩

theorem accepts_slot_iff (answered : e.isPlayer = .ok player) (place : Place) (stack : ItemStack) :
    c.accepts (place.slot (settings.hotbarOf player) stack) = true ↔
      c.Wants stack ∧ c.Fits e settings place := by
  have fits : c.fitsPlace (place.slot (settings.hotbarOf player) stack) = true ↔
      c.Fits e settings place :=
    ⟨fits_of_fitsPlace answered, fun fits => fitsPlace_of_fits answered fits stack⟩
  rw [accepts, wants_iff, ← fits]
  simp only [Place.stack_slot, Bool.and_eq_true, and_assoc]

end ItemCondition

/-! ### Deciding by witnesses -/

namespace Entity

variable {e : Entity}

/-- The slots of an entity are those of the places where it keeps something. -/
theorem exists_itemSlots (shows : e.ShowsItems) (settings : Settings) :
    ∃ player slots, e.isPlayer = .ok player ∧ e.itemSlots settings = .ok slots ∧
      ∀ slot, slot ∈ slots ↔ ∃ place stack, e.Keeps place stack ∧
        slot = place.slot (settings.hotbarOf player) stack := by
  obtain ⟨player, answered⟩ := shows.isPlayer
  obtain ⟨inventory, listed⟩ := shows.inventory
  obtain ⟨equipment, worn⟩ := shows.equipment
  refine ⟨player, inventorySlots (settings.hotbarOf player) 0 inventory ++
    equipmentSlots equipment, answered, ?_, ?_⟩
  · rw [itemSlots, answered, listed, worn]
    rfl
  · intro slot
    rw [List.mem_append, mem_inventorySlots_iff, mem_equipmentSlots_iff]
    constructor
    · rintro (⟨index, stack, occupied, rfl⟩ | ⟨slotName, stack, occupied, rfl⟩)
      · exact ⟨_, stack, .inventory listed (by simpa using occupied), rfl⟩
      · exact ⟨_, stack, .equipment worn occupied, rfl⟩
    · rintro ⟨place, stack, kept, rfl⟩
      cases kept with
      | @inventory _ index _ listed' occupied =>
        obtain rfl := Except.ok.inj (listed.symm.trans listed')
        exact Or.inl ⟨index, stack, occupied, by rw [Nat.zero_add]⟩
      | @equipment _ slotName _ worn' occupied =>
        obtain rfl := Except.ok.inj (worn.symm.trans worn')
        exact Or.inr ⟨slotName, stack, occupied, rfl⟩

theorem showsItems_of_itemSlots {settings : Settings} {slots : List ItemSlot}
    (listed : e.itemSlots settings = .ok slots) : e.ShowsItems := by
  obtain ⟨player, answered, listed⟩ := (bind_eq_ok_iff _ _ _).mp listed
  obtain ⟨inventory, held, listed⟩ := (bind_eq_ok_iff _ _ _).mp listed
  obtain ⟨equipment, worn, -⟩ := (bind_eq_ok_iff _ _ _).mp listed
  exact ⟨⟨player, answered⟩, ⟨inventory, held⟩, ⟨equipment, worn⟩⟩

/-- Over a host that answers, item conditions come to whether each of them has a witness. -/
theorem meetsItems_of_showsItems (shows : e.ShowsItems) (settings : Settings)
    (conditions : List ItemCondition) : ∃ passes, e.meetsItems conditions settings = .ok passes ∧
      (passes = true ↔ ∀ c ∈ conditions, c.HasWitness e settings) := by
  obtain ⟨player, slots, answered, listed, members⟩ := exists_itemSlots shows settings
  have witnessed (c : ItemCondition) : (slots.any c.accepts) = true ↔ c.HasWitness e settings := by
    rw [List.any_eq_true]
    constructor
    · rintro ⟨slot, member, accepted⟩
      obtain ⟨place, stack, kept, rfl⟩ := (members slot).mp member
      obtain ⟨wanted, fits⟩ := (ItemCondition.accepts_slot_iff answered place stack).mp accepted
      exact ⟨place, stack, kept, wanted, fits⟩
    · rintro ⟨place, stack, kept, wanted, fits⟩
      exact ⟨_, (members _).mpr ⟨place, stack, kept, rfl⟩,
        (ItemCondition.accepts_slot_iff answered place stack).mpr ⟨wanted, fits⟩⟩
  refine ⟨conditions.all fun c => slots.any c.accepts, ?_, ?_⟩
  · rw [meetsItems_eq, listed]
    split
    next none => rw [none, List.all_nil]
    next => rfl
  · rw [List.all_eq_true]
    exact forall₂_congr fun c _ => witnessed c

theorem meetsItems_eq_ok_iff (settings : Settings) (conditions : List ItemCondition)
    (passes : Bool) :
    e.meetsItems conditions settings = .ok passes ↔ (conditions ≠ [] → e.ShowsItems) ∧
      (passes = true ↔ ∀ c ∈ conditions, c.HasWitness e settings) := by
  by_cases unasked : conditions = []
  · simp [meetsItems_eq, unasked, eq_comm]
  by_cases shows : e.ShowsItems
  · obtain ⟨decided, answered, met⟩ := meetsItems_of_showsItems shows settings conditions
    rw [answered, Except.ok.injEq, ← met, ← Bool.eq_iff_iff, eq_comm]
    exact (and_iff_right fun _ => shows).symm
  · -- What the host does not show is asked for, so there is no answer at all.
    rw [meetsItems_eq, if_neg unasked, map_eq_ok_iff]
    refine iff_of_false ?_ fun decided => shows (decided.1 unasked)
    rintro ⟨slots, listed, -⟩
    exact shows (showsItems_of_itemSlots listed)

/-- Which conditions there are is all that matters, and neither their order nor how often each is
there. -/
theorem meetsItems_congr {left right : List ItemCondition} (same : ∀ c, c ∈ left ↔ c ∈ right)
    (settings : Settings) : e.meetsItems left settings = e.meetsItems right settings := by
  have unasked : left = [] ↔ right = [] := by simp only [List.eq_nil_iff_forall_not_mem, same]
  have all (slots : List ItemSlot) : (left.all fun c => slots.any c.accepts) =
      right.all fun c => slots.any c.accepts := by
    rw [Bool.eq_iff_iff, List.all_eq_true, List.all_eq_true]
    exact forall_congr' fun c => imp_congr_left (same c)
  simp only [meetsItems_eq, unasked, all]

/-- An entity passes item conditions exactly if each of them finds a witness among the stacks that
it keeps, and fails them if one of them finds none. Each looks for itself, so two may find the same,
and the order of the conditions does not matter. Without a condition the host is not asked. -/
theorem items_are_witnessed (e : Entity) (settings : Settings) (conditions : List ItemCondition) :
    (e.meetsItems conditions settings = .ok true ↔
      (conditions ≠ [] → e.ShowsItems) ∧ ∀ c ∈ conditions, c.HasWitness e settings) ∧
    (e.meetsItems conditions settings = .ok false ↔
      e.ShowsItems ∧ ∃ c ∈ conditions, ¬ c.HasWitness e settings) ∧
    ∀ others, (∀ c, c ∈ others ↔ c ∈ conditions) →
      e.meetsItems others settings = e.meetsItems conditions settings := by
  refine ⟨?_, ?_, fun others same => meetsItems_congr same settings⟩
  · simp [meetsItems_eq_ok_iff]
  · rw [meetsItems_eq_ok_iff, Bool.false_eq_true, false_iff]
    constructor
    · rintro ⟨shows, unmet⟩
      obtain ⟨c, member, missing⟩ := by simpa only [not_forall] using unmet
      exact ⟨shows (List.ne_nil_of_mem member), c, member, missing⟩
    · rintro ⟨shows, c, member, missing⟩
      exact ⟨fun _ => shows, fun met => missing (met c member)⟩

/-- Behind an empty slot, three torches are in the hotbar at index 1. They are the witness of two
conditions, and a shield, which is in every range, is that of a third. -/
theorem items_are_witnessed_of_torches :
    let torches : ItemStack := { typeId := "minecraft:torch", amount := 3 }
    let shield : ItemStack := { typeId := "minecraft:shield", tags := ["metal"] }
    let e := ({ id := "p", type := "minecraft:player", player := true,
                inventory := [none, some torches],
                equipment := [("Offhand", some shield)] } : Body).entity 0
    let second : ItemCondition :=
      { item := some "minecraft:torch", location := some "slot.hotbar",
        slot := some ⟨some 1, some 1⟩ }
    let several : ItemCondition := { quantity := ⟨some 3, none⟩, location := some "slot.inventory" }
    let worn : ItemCondition :=
      { item := some "metal", damage := some 0, location := some "slot.weapon.offhand",
        slot := some ⟨some 7, none⟩ }
    e.meetsItems [second, several, worn] {} = .ok true ∧
      e.meetsItems [worn, second, several, second] {} = .ok true := by
  intro torches shield e second several worn
  obtain ⟨passes, -, reordered⟩ := items_are_witnessed e {} [second, several, worn]
  have kept : e.Keeps (.inventory 1) torches := .inventory rfl rfl
  have carried : e.Keeps (.equipment "Offhand") shield := .equipment rfl (by decide)
  have one : second.HasWitness e {} :=
    ⟨.inventory 1, torches, kept, by decide,
      .locatedWithin rfl (by decide) (.hotbar rfl (by decide)) rfl (by decide)⟩
  have three : several.HasWitness e {} :=
    ⟨.inventory 1, torches, kept, by decide, .located rfl (by decide) (.inventory 1) rfl⟩
  have offhand : EquipmentSlot.HasLocation "Offhand" "slot.weapon.offhand" :=
    EquipmentSlot.hasLocation_iff.mpr (by decide +kernel)
  have held : worn.HasWitness e {} :=
    ⟨.equipment "Offhand", shield, carried, by decide,
      .worn rfl (by decide) (.equipment offhand) rfl
        (offhand.isUnindexed_iff.mp (by decide +kernel))⟩
  have passed : e.meetsItems [second, several, worn] {} = .ok true :=
    passes.mpr ⟨fun _ => ⟨⟨_, rfl⟩, ⟨_, rfl⟩, ⟨_, rfl⟩⟩, by simp [one, three, held]⟩
  refine ⟨passed, ?_⟩
  rw [reordered [worn, second, several, second] (by simp; tauto), passed]

end Entity

end Targeting
