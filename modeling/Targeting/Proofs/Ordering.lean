import Mathlib.Data.List.Perm.Basic
import Targeting.Evaluation.Order
import Targeting.Evaluation.Sample

/-!
# Ordering and sampling keep the items

Sorting by a key permutes the items, whatever the keys compare like, and a
sample takes its items from the list, no place twice. Neither looks at the
items, so both commute with a map of them.
-/
namespace Targeting.Evaluation

variable {α β : Type}

theorem bisect_le (key : Float) (sorted : Array (KeyedItem α)) (low high : Nat)
    (ordered : low ≤ high) : bisect key sorted low high ≤ high := by
  fun_induction bisect key sorted low high with
  | case1 => exact ordered
  | case2 low high within middle item found below ih =>
    have bound := ih (by omega)
    omega
  | case3 low high within middle item found below ih => exact ih (by omega)
  | case4 => exact ordered

theorem insertSorted_perm (sorted : List (KeyedItem α)) (item : KeyedItem α) :
    (insertSorted sorted item).Perm (item :: sorted) :=
  List.perm_insertIdx item sorted (bisect_le item.1 sorted.toArray 0 sorted.length (Nat.zero_le _))

theorem foldl_insertSorted_perm (sorted rest : List (KeyedItem α)) :
    (rest.foldl insertSorted sorted).Perm (sorted ++ rest) := by
  -- The sorted part grows by each item, so it is generalized.
  induction rest generalizing sorted with
  | nil => simp
  | cons item rest ih =>
    have moved : (insertSorted sorted item ++ rest).Perm (sorted ++ item :: rest) :=
      ((insertSorted_perm sorted item).append_right rest).trans List.perm_middle.symm
    exact (ih (insertSorted sorted item)).trans moved

/-- The leading run and the items after it are the whole list, the run perhaps turned around. -/
theorem leadingRun_perm (items : List (KeyedItem α)) :
    ((leadingRun items).1 ++ (leadingRun items).2).Perm items := by
  rcases items with _ | ⟨first, _ | ⟨second, rest⟩⟩
  · simp [leadingRun]
  · simp [leadingRun]
  · simp only [leadingRun]
    split
    · have turned := (List.reverse_perm
        ((first :: second :: rest).take (fallingRun second.1 rest + 2))).append_right
        ((first :: second :: rest).drop (fallingRun second.1 rest + 2))
      rwa [List.take_append_drop] at turned
    · rw [List.take_append_drop]

theorem sortUp_perm (items : List (KeyedItem α)) : (sortUp items).Perm items :=
  (foldl_insertSorted_perm _ _).trans (leadingRun_perm items)

theorem sortDown_perm (items : List (KeyedItem α)) : (sortDown items).Perm items :=
  (List.reverse_perm _).trans ((sortUp_perm _).trans (List.reverse_perm _))

theorem drawFrom_subperm (picks : List Int) (i count : Nat) (items : List α) :
    (drawFrom picks i count items).Subperm items := by
  induction count generalizing i items with
  | zero => exact List.nil_subperm
  | succ count ih =>
    simp only [drawFrom]
    split
    · exact List.nil_subperm
    next item found =>
      obtain ⟨within, rfl⟩ := List.getElem?_eq_some_iff.mp found
      -- What is drawn is taken out, and the rest is drawn from what remains.
      refine List.Subperm.trans ?_ (List.getElem_cons_eraseIdx_perm within).subperm
      exact (List.subperm_cons _).mpr (ih (i + 1) _)

theorem sample_subperm (picks : List Int) (count : Nat) (items : List α) :
    (sample picks count items).Subperm items :=
  drawFrom_subperm picks 0 _ items

/-! ### Items under a map -/

/-- The same keys with other items. -/
abbrev rekeyed (f : α → β) (item : KeyedItem α) : KeyedItem β := (item.1, f item.2)

theorem bisect_map (f : α → β) (key : Float) (sorted : Array (KeyedItem α)) (low high : Nat) :
    bisect key (sorted.map (rekeyed f)) low high = bisect key sorted low high := by
  fun_induction bisect key sorted low high with
  | case1 low high within middle absent =>
    rw [bisect]
    simp [within, middle, absent]
  | case2 low high within middle item found below ih =>
    rw [bisect]
    simp [within, middle, found, below, ih]
  | case3 low high within middle item found below ih =>
    rw [bisect]
    simp [within, middle, found, below, ih]
  | case4 low high within =>
    rw [bisect]
    simp [within]

theorem insertSorted_map (f : α → β) (sorted : List (KeyedItem α)) (item : KeyedItem α) :
    insertSorted (sorted.map (rekeyed f)) (rekeyed f item) =
      (insertSorted sorted item).map (rekeyed f) := by
  unfold insertSorted
  rw [← List.map_toArray, bisect_map, List.length_map, List.map_insertIdx]

theorem foldl_insertSorted_map (f : α → β) (sorted rest : List (KeyedItem α)) :
    (rest.map (rekeyed f)).foldl insertSorted (sorted.map (rekeyed f)) =
      (rest.foldl insertSorted sorted).map (rekeyed f) := by
  induction rest generalizing sorted with
  | nil => rfl
  | cons item rest ih => rw [List.map_cons, List.foldl_cons, insertSorted_map, ih, List.foldl_cons]

theorem fallingRun_map (f : α → β) (last : Float) (items : List (KeyedItem α)) :
    fallingRun last (items.map (rekeyed f)) = fallingRun last items := by
  induction items generalizing last with
  | nil => rfl
  | cons item rest ih => simp only [List.map_cons, fallingRun, ih]

theorem risingRun_map (f : α → β) (last : Float) (items : List (KeyedItem α)) :
    risingRun last (items.map (rekeyed f)) = risingRun last items := by
  induction items generalizing last with
  | nil => rfl
  | cons item rest ih => simp only [List.map_cons, risingRun, ih]

theorem leadingRun_map (f : α → β) (items : List (KeyedItem α)) :
    leadingRun (items.map (rekeyed f)) =
      ((leadingRun items).1.map (rekeyed f), (leadingRun items).2.map (rekeyed f)) := by
  rcases items with _ | ⟨first, _ | ⟨second, rest⟩⟩
  · rfl
  · rfl
  -- The run is found by the keys, and then cut out and turned around as a list.
  · simp only [List.map_cons, leadingRun, fallingRun_map, risingRun_map]
    split
    · simp only [← List.map_cons, ← List.map_take, ← List.map_drop, ← List.map_reverse]
    · simp only [← List.map_cons, ← List.map_take, ← List.map_drop]

/-- Sorting looks at the keys alone. -/
theorem sortUp_map (f : α → β) (items : List (KeyedItem α)) :
    sortUp (items.map (rekeyed f)) = (sortUp items).map (rekeyed f) := by
  unfold sortUp
  rw [leadingRun_map]
  exact foldl_insertSorted_map f _ _

theorem sortDown_map (f : α → β) (items : List (KeyedItem α)) :
    sortDown (items.map (rekeyed f)) = (sortDown items).map (rekeyed f) := by
  unfold sortDown
  rw [← List.map_reverse, sortUp_map, List.map_reverse]

theorem drawFrom_map (f : α → β) (picks : List Int) (i count : Nat) (items : List α) :
    drawFrom picks i count (items.map f) = (drawFrom picks i count items).map f := by
  induction count generalizing i items with
  | zero => rfl
  | succ count ih =>
    simp only [drawFrom, List.length_map, List.getElem?_map]
    cases items[(pickAt picks i % items.length).toNat]? with
    | none => rfl
    | some item => simp only [Option.map_some, List.map_cons, List.eraseIdx_map, ih]

/-- A sample is drawn by places alone. -/
theorem sample_map (f : α → β) (picks : List Int) (count : Nat) (items : List α) :
    sample picks count (items.map f) = (sample picks count items).map f := by
  rw [sample, List.length_map, drawFrom_map, sample]

end Targeting.Evaluation
