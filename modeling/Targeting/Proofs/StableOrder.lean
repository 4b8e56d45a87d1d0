import Mathlib.Data.List.Chain
import Targeting.Proofs.FloatOrder
import Targeting.Proofs.Ordering
import Targeting.Query

/-!
# Sorting is stable

Where all keys are numbers, the sorted items rise by their keys, and those with
equal keys stand as they stood before. Sorting the other way round they fall,
and equal keys still keep their order.

## Main result

`Proximity.pairwise_sort`: of two sorted items the first has the preferred key,
or neither has and the first stood ahead of the second.

## Proof strategy

The leading run rises because comparing numbers is transitive. Bisecting a
rising list ends between the keys that the new one is not below and those that
it is below, so an insertion keeps the list rising, and the items behind the run
are inserted by induction.
-/
namespace Targeting.Evaluation

open Number

variable {α : Type} {before : α → α → Prop}

/-- The first key is below the second one, or it is not above it and the first item stood before the
second. -/
def Rises (before : α → α → Prop) (first second : KeyedItem α) : Prop :=
  first.1 < second.1 ∨ ¬ second.1 < first.1 ∧ before first.2 second.2

/-- All keys are numbers. -/
def AllNumbers (items : List (KeyedItem α)) : Prop := ∀ item ∈ items, item.1.isNaN = false

theorem Rises.not_lt {first second : KeyedItem α} (rises : Rises before first second) :
    ¬ second.1 < first.1 := by
  rcases rises with below | ⟨atMost, -⟩
  · exact lt_asymm below
  · exact atMost

/-! ### Bisection -/

/-- A bisection of keys that rise ends where the key goes: it is below none of those on the left, and
below all of those on the right. -/
theorem bisect_separates {key : Float} {sorted : Array (KeyedItem α)}
    (numbers : ∀ item ∈ sorted, item.1.isNaN = false)
    (rising : ∀ (i j : Nat) (x y : KeyedItem α), i ≤ j → sorted[i]? = some x → sorted[j]? = some y →
      ¬ y.1 < x.1)
    (low high : Nat) (bound : high ≤ sorted.size)
    (left : ∀ i x, i < low → sorted[i]? = some x → ¬ key < x.1)
    (right : ∀ i x, high ≤ i → sorted[i]? = some x → key < x.1) (ordered : low ≤ high) :
    (∀ i x, i < bisect key sorted low high → sorted[i]? = some x → ¬ key < x.1) ∧
      ∀ i x, bisect key sorted low high ≤ i → sorted[i]? = some x → key < x.1 := by
  fun_induction bisect key sorted low high with
  | case1 low high within middle absent =>
    have outside : sorted.size ≤ middle := Array.getElem?_eq_none_iff.mp absent
    omega
  | case2 low high within middle item found below ih =>
    apply ih (by omega) left _ (by omega)
    -- From the middle on, nothing is below the middle item, so the key is below everything.
    intro i x after here
    have number := numbers x (Array.mem_of_getElem? here)
    exact lt_of_lt_of_not_lt number below (rising middle i item x after found here)
  | case3 low high within middle item found below ih =>
    apply ih bound _ right (by omega)
    intro i x until_middle here above
    have number := numbers item (Array.mem_of_getElem? found)
    exact below (lt_of_lt_of_not_lt number above
      (rising i middle x item (by omega) here found))
  | case4 low high within =>
    have met : low = high := by omega
    exact ⟨left, fun i x after => right i x (met ▸ after)⟩

/-! ### Insertion -/

theorem insertIdx_eq {sorted : List α} {place : Nat} (within : place ≤ sorted.length) (item : α) :
    sorted.insertIdx place item = sorted.take place ++ item :: sorted.drop place := by
  induction place generalizing sorted with
  | zero => simp
  | succ place ih =>
    cases sorted with
    | nil => simp at within
    | cons first rest =>
      have inside : place ≤ rest.length := by simpa using within
      rw [List.insertIdx_succ_cons, ih inside]
      rfl

/-- An item goes behind all items that it is not below, and in front of all that it is below. -/
theorem insertSorted_cases {sorted : List (KeyedItem α)} (item : KeyedItem α)
    (numbers : AllNumbers sorted) (rising : sorted.Pairwise (Rises before)) : ∃ left right,
      sorted = left ++ right ∧ insertSorted sorted item = left ++ item :: right ∧
        (∀ x ∈ left, ¬ item.1 < x.1) ∧ ∀ x ∈ right, item.1 < x.1 := by
  have flat : ∀ (i j : Nat) (x y : KeyedItem α), i ≤ j → sorted.toArray[i]? = some x →
      sorted.toArray[j]? = some y → ¬ y.1 < x.1 := by
    intro i j x y ahead first second
    rw [List.getElem?_toArray, List.getElem?_eq_some_iff] at first second
    obtain ⟨_, rfl⟩ := first
    obtain ⟨_, rfl⟩ := second
    rcases Nat.eq_or_lt_of_le ahead with rfl | ahead
    · exact fun below => lt_asymm below below
    · exact (List.pairwise_iff_getElem.mp rising i j _ _ ahead).not_lt
  have beyond : ∀ i (x : KeyedItem α), sorted.length ≤ i → sorted.toArray[i]? = some x →
      item.1 < x.1 := by
    intro i x outside found
    rw [List.getElem?_toArray, List.getElem?_eq_none outside] at found
    cases found
  obtain ⟨left, right⟩ := bisect_separates (by simpa [AllNumbers] using numbers) flat 0
    sorted.length (by simp) (by omega) beyond (Nat.zero_le _)
  have within := bisect_le item.1 sorted.toArray 0 sorted.length (Nat.zero_le _)
  refine ⟨sorted.take (bisect item.1 sorted.toArray 0 sorted.length),
    sorted.drop (bisect item.1 sorted.toArray 0 sorted.length),
    (List.take_append_drop _ _).symm, insertIdx_eq within item, ?_, ?_⟩
  · intro x member
    obtain ⟨i, inside, rfl⟩ := List.mem_take_iff_getElem.mp member
    exact left i sorted[i] (by omega) (by simp)
  · intro x member
    obtain ⟨i, inside, rfl⟩ := List.mem_drop_iff_getElem.mp member
    exact right _ _ (Nat.le_add_right _ i) (by simp)

theorem pairwise_insertSorted {sorted : List (KeyedItem α)} {item : KeyedItem α}
    (numbers : AllNumbers sorted) (rising : sorted.Pairwise (Rises before))
    (earlier : ∀ x ∈ sorted, before x.2 item.2) :
    (insertSorted sorted item).Pairwise (Rises before) := by
  obtain ⟨left, right, rfl, inserted, atMost, below⟩ := insertSorted_cases item numbers rising
  obtain ⟨lefts, rights, across⟩ := List.pairwise_append.mp rising
  rw [inserted, List.pairwise_append, List.pairwise_cons]
  refine ⟨lefts, ⟨fun y member => Or.inl (below y member), rights⟩, ?_⟩
  intro x member y behind
  rcases List.mem_cons.mp behind with rfl | behind
  · exact Or.inr ⟨atMost x member, earlier x (by simp [member])⟩
  · exact across x member y behind

theorem pairwise_foldl_insertSorted {sorted rest : List (KeyedItem α)}
    (numbers : AllNumbers (sorted ++ rest)) (rising : sorted.Pairwise (Rises before))
    (earlier : ∀ x ∈ sorted, ∀ y ∈ rest, before x.2 y.2)
    (standing : rest.Pairwise fun x y => before x.2 y.2) :
    (rest.foldl insertSorted sorted).Pairwise (Rises before) := by
  -- The sorted part grows by each item, so it is generalized.
  induction rest generalizing sorted with
  | nil => exact rising
  | cons item rest ih =>
    have grown (x : KeyedItem α) : x ∈ insertSorted sorted item ↔ x = item ∨ x ∈ sorted :=
      (insertSorted_perm sorted item).mem_iff.trans List.mem_cons
    obtain ⟨first, later⟩ := List.pairwise_cons.mp standing
    apply ih
    · intro x member
      apply numbers x
      simp only [List.mem_append, grown, List.mem_cons] at member ⊢
      tauto
    · exact pairwise_insertSorted (fun x member => numbers x (by simp [member])) rising
        fun x member => earlier x member item (by simp)
    · intro x member y behind
      rcases (grown x).mp member with rfl | member
      · exact first y behind
      · exact earlier x member y (by simp [behind])
    · exact later

/-! ### The leading run -/

theorem isChain_fallingRun (first : KeyedItem α) (items : List (KeyedItem α)) :
    (first :: items.take (fallingRun first.1 items)).IsChain fun x y => y.1 < x.1 := by
  induction items generalizing first with
  | nil => simp
  | cons item rest ih =>
    rw [fallingRun]
    split
    next below => exact List.isChain_cons_cons.mpr ⟨below, ih item⟩
    next => simp

theorem isChain_risingRun (first : KeyedItem α) (items : List (KeyedItem α)) :
    (first :: items.take (risingRun first.1 items)).IsChain fun x y => ¬ y.1 < x.1 := by
  induction items generalizing first with
  | nil => simp
  | cons item rest ih =>
    rw [risingRun]
    split
    next => simp
    next atLeast => exact List.isChain_cons_cons.mpr ⟨atLeast, ih item⟩

/-- The leading run is the items up to some place, which either never fall, or always do and are
turned around. -/
theorem leadingRun_cases (items : List (KeyedItem α)) : ∃ length,
    (leadingRun items).2 = items.drop length ∧
      ((leadingRun items).1 = items.take length ∧
          (items.take length).IsChain (fun x y => ¬ y.1 < x.1) ∨
        (leadingRun items).1 = (items.take length).reverse ∧
          (items.take length).IsChain fun x y => y.1 < x.1) := by
  rcases items with _ | ⟨first, _ | ⟨second, rest⟩⟩
  · exact ⟨0, rfl, Or.inl ⟨rfl, by simp⟩⟩
  · exact ⟨1, rfl, Or.inl ⟨rfl, by simp⟩⟩
  · simp only [leadingRun]
    split
    next below =>
      exact ⟨_, rfl, Or.inr ⟨rfl, List.isChain_cons_cons.mpr ⟨below, isChain_fallingRun second rest⟩⟩⟩
    next atLeast =>
      exact ⟨_, rfl, Or.inl ⟨rfl, List.isChain_cons_cons.mpr ⟨atLeast, isChain_risingRun second rest⟩⟩⟩

/-- Among numbers, what never falls from one item to the next never falls at all. -/
theorem pairwise_of_isChain {items : List (KeyedItem α)} (numbers : AllNumbers items)
    (chain : items.IsChain fun x y => ¬ y.1 < x.1) : items.Pairwise fun x y => ¬ y.1 < x.1 := by
  induction items with
  | nil => exact List.Pairwise.nil
  | cons first rest ih =>
    have tail := ih (fun x member => numbers x (by simp [member])) chain.tail
    refine List.pairwise_cons.mpr ⟨?_, tail⟩
    cases rest with
    | nil => simp
    | cons second rest =>
      intro y member below
      have step := (List.isChain_cons_cons.mp chain).1
      rcases List.mem_cons.mp member with rfl | behind
      · exact step below
      -- The second item is a number, so it is above the later one or below the first.
      · rcases lt_or_lt_of_lt (numbers second (by simp)) below with above | under
        · exact (List.pairwise_cons.mp tail).1 y behind above
        · exact step under

/-! ### Sorting -/

theorem pairwise_leadingRun {items : List (KeyedItem α)} (numbers : AllNumbers items)
    (standing : items.Pairwise fun x y => before x.2 y.2) :
    (leadingRun items).1.Pairwise (Rises before) := by
  obtain ⟨length, -, ⟨kept, chain⟩ | ⟨turned, chain⟩⟩ := leadingRun_cases items
  · have known : AllNumbers (items.take length) :=
      fun x member => numbers x (List.mem_of_mem_take member)
    rw [kept]
    exact (pairwise_of_isChain known chain).imp₂ (fun _ _ => fun a b => Or.inr ⟨a, b⟩)
      (standing.sublist (List.take_sublist length items))
  · rw [turned, List.pairwise_reverse]
    have falling : (items.take length).Pairwise fun x y => y.1 < x.1 := by
      let below (x y : KeyedItem α) : Prop := y.1 < x.1
      have : Trans below below below := ⟨fun first second => lt_trans second first⟩
      exact List.IsChain.pairwise (R := below) chain
    exact falling.imp fun below => Or.inl below

theorem pairwise_sortUp {items : List (KeyedItem α)} (numbers : AllNumbers items)
    (standing : items.Pairwise fun x y => before x.2 y.2) :
    (sortUp items).Pairwise (Rises before) := by
  have run := pairwise_leadingRun numbers standing
  have all : AllNumbers ((leadingRun items).1 ++ (leadingRun items).2) :=
    fun x member => numbers x ((leadingRun_perm items).mem_iff.mp member)
  obtain ⟨length, rest, shape⟩ := leadingRun_cases items
  have ahead : ∀ x ∈ (leadingRun items).1, x ∈ items.take length := by
    rcases shape with ⟨kept, -⟩ | ⟨turned, -⟩
    · simp [kept]
    · simp [turned]
  apply pairwise_foldl_insertSorted all run
  · intro x member y behind
    rw [rest] at behind
    exact standing.rel_of_mem_take_of_mem_drop (ahead x member) behind
  · rw [rest]
    exact standing.sublist (List.drop_sublist length items)

end Targeting.Evaluation

namespace Targeting.Proximity

open Evaluation

variable {α : Type}

/-- The first distance is the one that is asked for before the second: the shorter one for the closest,
the longer one for the farthest. -/
def Prefers : Proximity → Float → Float → Prop
  | .closest, first, second => first < second
  | .farthest, first, second => second < first

instance (proximity : Proximity) (first second : Float) :
    Decidable (proximity.Prefers first second) :=
  match proximity with
  | .closest => inferInstanceAs (Decidable (first < second))
  | .farthest => inferInstanceAs (Decidable (second < first))

/-- The items in the order of their keys that is asked for. -/
def sort (proximity : Proximity) (items : List (KeyedItem α)) : List (KeyedItem α) :=
  match proximity with
  | .closest => sortUp items
  | .farthest => sortDown items

theorem Prefers.asymm {proximity : Proximity} {first second : Float}
    (preferred : proximity.Prefers first second) : ¬ proximity.Prefers second first := by
  cases proximity <;> exact Number.lt_asymm preferred

theorem sort_perm (proximity : Proximity) (items : List (KeyedItem α)) :
    (proximity.sort items).Perm items := by
  cases proximity
  · exact sortUp_perm items
  · exact sortDown_perm items

theorem sort_map {β : Type} (proximity : Proximity) (f : α → β) (items : List (KeyedItem α)) :
    proximity.sort (items.map (rekeyed f)) = (proximity.sort items).map (rekeyed f) := by
  cases proximity
  · exact sortUp_map f items
  · exact sortDown_map f items

/-- Of two sorted items the first has the preferred key, or neither has and the first stood before the
second. -/
theorem pairwise_sort (proximity : Proximity) {before : α → α → Prop} {items : List (KeyedItem α)}
    (numbers : AllNumbers items) (standing : items.Pairwise fun x y => before x.2 y.2) :
    (proximity.sort items).Pairwise fun x y =>
      proximity.Prefers x.1 y.1 ∨ ¬ proximity.Prefers y.1 x.1 ∧ before x.2 y.2 := by
  cases proximity with
  | closest => exact pairwise_sortUp numbers standing
  | farthest =>
    -- Sorting up what stands the other way round, and turning it around again.
    have turned : items.reverse.Pairwise fun x y => before y.2 x.2 :=
      List.pairwise_reverse.mpr standing
    have known : AllNumbers items.reverse := fun x member => numbers x (List.mem_reverse.mp member)
    have sorted := @pairwise_sortUp α (fun x y => before y x) _ known turned
    exact List.pairwise_reverse.mpr sorted

end Targeting.Proximity
