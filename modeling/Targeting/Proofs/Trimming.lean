import Mathlib.Data.List.TakeWhile
import Targeting.Text.Blank

/-!
# Trimming

Blanks around a text are not part of what it says: they may be added or taken
away at either end, and a filter that drops blanks does not see them at all.
-/
namespace Targeting.Text

variable {cs blanks : List Char}

theorem trim_append_blanks (blank : ∀ c ∈ blanks, isBlank c = true) :
    trim (cs ++ blanks) = trim cs := by
  unfold trim trimWith
  rw [List.dropWhile_append]
  split
  next empty =>
    -- Nothing but blanks anywhere.
    rw [List.isEmpty_iff] at empty
    rw [empty, List.dropWhile_eq_nil_iff.mpr blank]
  · have behind : ∀ c ∈ blanks.reverse, isBlank c = true := by simpa using blank
    rw [List.reverse_append, List.dropWhile_append_of_pos behind]

theorem trim_blanks_append (blank : ∀ c ∈ blanks, isBlank c = true) :
    trim (blanks ++ cs) = trim cs := by
  unfold trim trimWith
  rw [List.dropWhile_append_of_pos blank]

theorem exists_blanks_around (cs : List Char) : ∃ before after,
    (∀ c ∈ before, isBlank c = true) ∧ (∀ c ∈ after, isBlank c = true) ∧
      cs = before ++ trim cs ++ after := by
  let rest := cs.dropWhile isBlank
  refine ⟨cs.takeWhile isBlank, (rest.reverse.takeWhile isBlank).reverse, ?_, ?_, ?_⟩
  · exact fun c member => List.mem_takeWhile_imp member
  · exact fun c member => List.mem_takeWhile_imp (List.mem_reverse.mp member)
  · have back : trim cs ++ (rest.reverse.takeWhile isBlank).reverse = rest := by
      unfold trim trimWith
      rw [← List.reverse_append, List.takeWhile_append_dropWhile, List.reverse_reverse]
    rw [List.append_assoc, back, List.takeWhile_append_dropWhile]

@[simp] theorem trim_trim (cs : List Char) : trim (trim cs) = trim cs := by
  obtain ⟨before, after, leading, trailing, parts⟩ := exists_blanks_around cs
  have same := congrArg trim parts
  rw [trim_append_blanks trailing, trim_blanks_append leading] at same
  exact same.symm

theorem length_trim_le (cs : List Char) : (trim cs).length ≤ cs.length := by
  obtain ⟨before, after, -, -, parts⟩ := exists_blanks_around cs
  have whole := congrArg List.length parts
  rw [List.length_append, List.length_append] at whole
  omega

theorem not_isBlank_of_trim {cs rest : List Char} {c : Char} (trimmed : trim cs = c :: rest) :
    isBlank c = false := by
  rw [Bool.eq_false_iff]
  intro blank
  -- A blank in front would be trimmed away by trimming once more.
  have again : trim (c :: rest) = c :: rest := trimmed ▸ trim_trim cs
  have shorter : trim ([c] ++ rest) = trim rest := trim_blanks_append (by simpa using blank)
  have bound := length_trim_le rest
  rw [← shorter, List.singleton_append, again, List.length_cons] at bound
  omega

theorem not_isBlank_of_trim_concat {cs front : List Char} {c : Char} (trimmed : trim cs = front ++ [c]) :
    isBlank c = false := by
  rw [Bool.eq_false_iff]
  intro blank
  have again : trim (front ++ [c]) = front ++ [c] := trimmed ▸ trim_trim cs
  have shorter : trim (front ++ [c]) = trim front := trim_append_blanks (by simpa using blank)
  have bound := length_trim_le front
  rw [← shorter, again, List.length_append, List.length_singleton] at bound
  omega

/-- Trimming takes away blanks only. -/
theorem mem_trim_iff {c : Char} (solid : isBlank c = false) (cs : List Char) :
    c ∈ trim cs ↔ c ∈ cs := by
  obtain ⟨before, after, leading, trailing, parts⟩ := exists_blanks_around cs
  have absent {blanks : List Char} (blank : ∀ c ∈ blanks, isBlank c = true) : c ∉ blanks :=
    fun member => by simp [blank c member] at solid
  constructor
  · intro member
    rw [parts]
    exact List.mem_append_left after (List.mem_append_right before member)
  · intro member
    rw [parts, List.mem_append, List.mem_append] at member
    exact (member.resolve_right (absent trailing)).resolve_left (absent leading)

/-- What a filter keeps of a text stands between the blanks around it. -/
theorem filter_trim {keeps : Char → Bool} (blind : ∀ c, isBlank c = true → keeps c = false)
    (cs : List Char) : (trim cs).filter keeps = cs.filter keeps := by
  obtain ⟨before, after, leading, trailing, parts⟩ := exists_blanks_around cs
  have none_kept {blanks : List Char} (blank : ∀ c ∈ blanks, isBlank c = true) :
      blanks.filter keeps = [] :=
    List.filter_eq_nil_iff.mpr fun c member => by simp [blind c (blank c member)]
  have same := congrArg (List.filter keeps) parts
  rw [List.filter_append, List.filter_append, none_kept leading, none_kept trailing,
    List.nil_append, List.append_nil] at same
  exact same.symm

/-- A text around a mark is trimmed on either side of it. -/
theorem trim_append_cons {mark : Char} (marks : isBlank mark = false) (left right : List Char) :
    trim (left ++ mark :: right) =
      left.dropWhile isBlank ++ mark :: (right.reverse.dropWhile isBlank).reverse := by
  have front : (left ++ mark :: right).dropWhile isBlank = left.dropWhile isBlank ++ mark :: right := by
    rw [List.dropWhile_append]
    split
    next empty =>
      rw [List.isEmpty_iff] at empty
      rw [empty, List.dropWhile_cons_of_neg (by simp [marks]), List.nil_append]
    · rfl
  have back : (left.dropWhile isBlank ++ mark :: right).reverse.dropWhile isBlank =
      right.reverse.dropWhile isBlank ++ mark :: (left.dropWhile isBlank).reverse := by
    rw [List.reverse_append, List.reverse_cons, List.append_assoc, List.dropWhile_append]
    split
    next empty =>
      rw [List.isEmpty_iff] at empty
      rw [empty, List.singleton_append, List.dropWhile_cons_of_neg (by simp [marks]),
        List.nil_append]
    · rfl
  unfold trim trimWith
  rw [front, back, List.reverse_append, List.reverse_cons, List.reverse_reverse,
    List.append_assoc, List.singleton_append]

/-- There is nothing to trim from a text that neither begins nor ends with what is trimmed. -/
theorem trimWith_eq_self {class? : Char → Bool} {first last : Char} {cs rest front : List Char}
    (begins : cs = first :: rest) (ends : cs = front ++ [last]) (solid : class? first = false)
    (closed : class? last = false) : trimWith class? cs = cs := by
  have kept : cs.dropWhile class? = cs := by
    rw [begins, List.dropWhile_cons_of_neg (by simp [solid])]
  have back : cs.reverse.dropWhile class? = cs.reverse := by
    rw [ends, List.reverse_append, List.reverse_singleton, List.singleton_append,
      List.dropWhile_cons_of_neg (by simp [closed])]
  rw [trimWith, kept, back, List.reverse_reverse]

theorem trim_of_solid {cs : List Char} (solid : ∀ c ∈ cs, isBlank c = false) : trim cs = cs := by
  have kept {text : List Char} (solid : ∀ c ∈ text, isBlank c = false) :
      text.dropWhile isBlank = text := by
    cases text with
    | nil => rfl
    | cons c rest => exact List.dropWhile_cons_of_neg (by simp [solid c])
  unfold trim trimWith
  rw [kept solid, kept fun c member => solid c (List.mem_reverse.mp member), List.reverse_reverse]

/-- Between two marks there is nothing to trim. -/
theorem trim_between {first last : Char} (opens : isBlank first = false)
    (closes : isBlank last = false) (middle : List Char) :
    trim (first :: (middle ++ [last])) = first :: (middle ++ [last]) :=
  trimWith_eq_self rfl (List.cons_append).symm opens closes

theorem trim_dropWhile (cs : List Char) : trim (cs.dropWhile isBlank) = trim cs := by
  have blank : ∀ c ∈ cs.takeWhile isBlank, isBlank c = true := fun c => List.mem_takeWhile_imp
  rw [← trim_blanks_append blank, List.takeWhile_append_dropWhile]

theorem trim_reverse_dropWhile (cs : List Char) :
    trim (cs.reverse.dropWhile isBlank).reverse = trim cs := by
  have blank : ∀ c ∈ (cs.reverse.takeWhile isBlank).reverse, isBlank c = true :=
    fun c member => List.mem_takeWhile_imp (List.mem_reverse.mp member)
  rw [← trim_append_blanks blank, ← List.reverse_append, List.takeWhile_append_dropWhile,
    List.reverse_reverse]

/-- A text that trimming leaves alone does not begin with a blank. -/
theorem dropWhile_of_trimmed (trimmed : trim cs = cs) : cs.dropWhile isBlank = cs := by
  have suffix : cs.dropWhile isBlank <:+ cs := List.dropWhile_suffix isBlank
  have long := length_trim_le (cs.dropWhile isBlank)
  rw [trim_dropWhile, trimmed] at long
  exact suffix.eq_of_length (Nat.le_antisymm suffix.length_le long)

/-- Nor does it end with one. -/
theorem reverse_dropWhile_of_trimmed (trimmed : trim cs = cs) :
    cs.reverse.dropWhile isBlank = cs.reverse := by
  have suffix : cs.reverse.dropWhile isBlank <:+ cs.reverse := List.dropWhile_suffix isBlank
  have long := length_trim_le (cs.reverse.dropWhile isBlank).reverse
  rw [trim_reverse_dropWhile, trimmed, List.length_reverse] at long
  exact suffix.eq_of_length (Nat.le_antisymm suffix.length_le (by rwa [List.length_reverse]))

/-- Around a mark, texts without blanks around them are not trimmed. -/
theorem trim_append_cons_of_trimmed {mark : Char} (marks : isBlank mark = false)
    {left right : List Char} (before : trim left = left) (after : trim right = right) :
    trim (left ++ mark :: right) = left ++ mark :: right := by
  rw [trim_append_cons marks, dropWhile_of_trimmed before, reverse_dropWhile_of_trimmed after,
    List.reverse_reverse]

/-- A mark in front keeps a text without blanks around it from being trimmed. -/
theorem trim_cons_of_trimmed {mark : Char} (marks : isBlank mark = false) {cs : List Char}
    (trimmed : trim cs = cs) : trim (mark :: cs) = mark :: cs :=
  trim_append_cons_of_trimmed marks trim_nil trimmed

end Targeting.Text
