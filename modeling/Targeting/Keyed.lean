/-!
# Keyed lists

A finite map kept as a list of pairs in the order in which its keys were first
put. Writing a key again keeps its place; removing it and writing it again
moves it to the end.
-/
namespace Targeting.Keyed

variable {κ ν : Type} [DecidableEq κ]

def get? (key : κ) : List (κ × ν) → Option ν
  | [] => none
  | (k, v) :: rest => if k = key then some v else get? key rest

def put (key : κ) (value : ν) : List (κ × ν) → List (κ × ν)
  | [] => [(key, value)]
  | (k, v) :: rest => if k = key then (k, value) :: rest else (k, v) :: put key value rest

def remove (key : κ) (entries : List (κ × ν)) : List (κ × ν) :=
  entries.filter fun entry => entry.1 ≠ key

def keys (entries : List (κ × ν)) : List κ := entries.map (·.1)

/-- A later pair for the same key replaces the value of an earlier one. -/
def ofPairs (pairs : List (κ × ν)) : List (κ × ν) :=
  pairs.foldl (fun entries pair => put pair.1 pair.2 entries) []

theorem get?_put_self (key : κ) (value : ν) (entries : List (κ × ν)) :
    get? key (put key value entries) = some value := by
  induction entries with
  | nil => simp [put, get?]
  | cons entry rest ih =>
    by_cases same : entry.1 = key
    · simp [put, get?, same]
    · simp [put, get?, same, ih]

theorem get?_put_of_ne {key other : κ} (different : key ≠ other) (value : ν)
    (entries : List (κ × ν)) : get? other (put key value entries) = get? other entries := by
  induction entries with
  | nil => simp [put, get?, different]
  | cons entry rest ih =>
    by_cases same : entry.1 = key
    · simp [put, get?, same, different]
    · simp [put, get?, same, ih]

theorem get?_remove_self (key : κ) (entries : List (κ × ν)) :
    get? key (remove key entries) = none := by
  induction entries with
  | nil => rfl
  | cons entry rest ih =>
    by_cases same : entry.1 = key
    · simpa [remove, same] using ih
    · simpa [remove, get?, same] using ih

theorem get?_remove_of_ne {key other : κ} (different : key ≠ other) (entries : List (κ × ν)) :
    get? other (remove key entries) = get? other entries := by
  induction entries with
  | nil => rfl
  | cons entry rest ih =>
    by_cases same : entry.1 = key
    · have apart : entry.1 ≠ other := fun equal => different (same ▸ equal)
      simpa [remove, get?, same, different] using ih
    · by_cases hit : entry.1 = other
      · simp [remove, get?, hit, Ne.symm different]
      · simpa [remove, get?, same, hit] using ih

theorem mem_of_get? {key : κ} {value : ν} {entries : List (κ × ν)}
    (found : get? key entries = some value) : (key, value) ∈ entries := by
  induction entries with
  | nil => cases found
  | cons entry rest ih =>
    rw [get?] at found
    split at found
    next same =>
      cases found
      simp [← same]
    next => exact List.mem_cons_of_mem entry (ih found)

theorem get?_eq_none_iff {key : κ} {entries : List (κ × ν)} :
    get? key entries = none ↔ key ∉ keys entries := by
  induction entries with
  | nil => simp [get?, keys]
  | cons entry rest ih =>
    by_cases same : entry.1 = key
    · simp [get?, keys, same]
    · simpa [get?, keys, same, Ne.symm same] using ih

theorem keys_remove (key : κ) (entries : List (κ × ν)) :
    keys (remove key entries) = (keys entries).filter (· ≠ key) := by
  rw [keys, keys, List.filter_map]
  rfl

theorem mem_keys_iff {key : κ} {entries : List (κ × ν)} :
    key ∈ keys entries ↔ ∃ value, get? key entries = some value := by
  rw [← Option.isSome_iff_exists, ← Option.ne_none_iff_isSome, ne_eq, get?_eq_none_iff,
    Decidable.not_not]

/-- Where no key is listed twice, an entry is what its key looks up. -/
theorem get?_of_mem {key : κ} {value : ν} {entries : List (κ × ν)} (unique : (keys entries).Nodup)
    (member : (key, value) ∈ entries) : get? key entries = some value := by
  induction entries with
  | nil => cases member
  | cons entry rest ih =>
    obtain ⟨fresh, unique⟩ := List.nodup_cons.mp unique
    rw [get?]
    rcases List.mem_cons.mp member with rfl | member
    · rw [if_pos rfl]
    · have different : entry.1 ≠ key := by
        rintro rfl
        exact fresh (List.mem_map.mpr ⟨_, member, rfl⟩)
      rw [if_neg different, ih unique member]

theorem put_of_not_mem {key : κ} {entries : List (κ × ν)} (fresh : key ∉ keys entries) (value : ν) :
    put key value entries = entries ++ [(key, value)] := by
  induction entries with
  | nil => rfl
  | cons entry rest ih =>
    obtain ⟨different, fresh⟩ := not_or.mp (mt List.mem_cons.mpr fresh)
    rw [put, if_neg (Ne.symm different), ih fresh]
    rfl

theorem keys_put_of_mem {key : κ} {entries : List (κ × ν)} (member : key ∈ keys entries)
    (value : ν) : keys (put key value entries) = keys entries := by
  induction entries with
  | nil => cases member
  | cons entry rest ih =>
    rw [put]
    split
    next => rfl
    next different =>
      have behind : key ∈ keys rest := (List.mem_cons.mp member).resolve_left (Ne.symm different)
      exact congrArg (entry.1 :: ·) (ih behind)

theorem mem_of_mem_put {key : κ} {value : ν} {entries : List (κ × ν)} {entry : κ × ν}
    (member : entry ∈ put key value entries) : entry = (key, value) ∨ entry ∈ entries := by
  induction entries with
  | nil => simpa [put] using member
  | cons first rest ih =>
    rw [put] at member
    split at member
    next same =>
      rw [List.mem_cons] at member
      exact member.imp (fun equal => same ▸ equal) (List.mem_cons_of_mem first)
    next =>
      rcases List.mem_cons.mp member with rfl | member
      · exact Or.inr List.mem_cons_self
      · exact (ih member).imp_right (List.mem_cons_of_mem first)

theorem mem_of_mem_foldl_put {pairs start : List (κ × ν)} {entry : κ × ν}
    (member : entry ∈ pairs.foldl (fun entries pair => put pair.1 pair.2 entries) start) :
    entry ∈ start ∨ entry ∈ pairs := by
  induction pairs generalizing start with
  | nil => exact Or.inl member
  | cons pair rest ih =>
    rcases ih member with first | behind
    · rcases mem_of_mem_put first with equal | before
      · exact Or.inr (equal ▸ List.mem_cons_self)
      · exact Or.inl before
    · exact Or.inr (List.mem_cons_of_mem pair behind)

/-- Every entry comes from one of the pairs. -/
theorem mem_of_mem_ofPairs {pairs : List (κ × ν)} {entry : κ × ν} (member : entry ∈ ofPairs pairs) :
    entry ∈ pairs :=
  (mem_of_mem_foldl_put member).resolve_left List.not_mem_nil

theorem get?_foldl_put (key : κ) (pairs start : List (κ × ν)) :
    get? key (pairs.foldl (fun entries pair => put pair.1 pair.2 entries) start) =
      ((pairs.reverse.find? (·.1 = key)).map (·.2)).or (get? key start) := by
  induction pairs generalizing start with
  | nil => simp
  | cons pair rest ih =>
    rw [List.foldl_cons, ih, List.reverse_cons, List.find?_append, List.find?_singleton]
    by_cases same : pair.1 = key
    · subst same
      rw [get?_put_self]
      cases rest.reverse.find? (·.1 = pair.1) <;> simp
    · rw [get?_put_of_ne same]
      simp [same]

/-- The last pair of a key gives it its value. -/
theorem get?_ofPairs (key : κ) (pairs : List (κ × ν)) :
    get? key (ofPairs pairs) = (pairs.reverse.find? (·.1 = key)).map (·.2) := by
  rw [ofPairs, get?_foldl_put, get?, Option.or_none]

end Targeting.Keyed
