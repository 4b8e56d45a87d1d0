import Mathlib.Data.List.Basic
import Targeting.Message.Renderer

/-!
# Formatting codes

Stripping takes out the formatting codes of a text in one pass. What is taken
out may have kept a section sign apart from a letter behind it, and these two are
then a code in what is left.

## Main result

`Renderer.stripping_is_complete_unless_joined`: exactly where that happens, and
that nowhere else does a second pass find anything.

## Proof strategy

A section sign is never the second half of a code, so the pass starts anew at
every one of them (`dropFormatCodes_append_sign`).
-/
namespace Targeting

/-- The codes of some letters in a row. -/
def formatCodes (letters : List Char) : List Char := letters.flatMap fun letter => ['§', letter]

/-- Somewhere in the text stands a formatting code. -/
def HasFormatCode (cs : List Char) : Prop :=
  ∃ before letter after, cs = before ++ '§' :: letter :: after ∧ isFormatCode letter = true

/-- Somewhere in the text a section sign and the letter of a code stand apart, with nothing but codes
between them. -/
def JoinsFormatCode (cs : List Char) : Prop :=
  ∃ before letters letter after, cs = before ++ '§' :: (formatCodes letters ++ letter :: after) ∧
    letters ≠ [] ∧ (∀ l ∈ letters, isFormatCode l = true) ∧ isFormatCode letter = true

theorem isFormatCode_sign : isFormatCode '§' = false := by decide

theorem hasFormatCode_cons {cs : List Char} (c : Char) (coded : HasFormatCode cs) :
    HasFormatCode (c :: cs) := by
  obtain ⟨before, letter, after, rfl, known⟩ := coded
  exact ⟨c :: before, letter, after, rfl, known⟩

theorem joinsFormatCode_cons {cs : List Char} (c : Char) (joins : JoinsFormatCode cs) :
    JoinsFormatCode (c :: cs) := by
  obtain ⟨before, letters, letter, after, rfl, rest⟩ := joins
  exact ⟨c :: before, letters, letter, after, rfl, rest⟩

/-! ### One pass -/

theorem dropFormatCodes_code {letter : Char} (known : isFormatCode letter = true) (rest : List Char) :
    dropFormatCodes ('§' :: letter :: rest) = dropFormatCodes rest := by
  rw [dropFormatCodes, if_pos (by simp [known])]

theorem dropFormatCodes_of_other {c : Char} (other : c ≠ '§') (rest : List Char) :
    dropFormatCodes (c :: rest) = c :: dropFormatCodes rest := by
  cases rest with
  | nil => rfl
  | cons d rest => rw [dropFormatCodes, if_neg (by simp [other])]

theorem dropFormatCodes_sign_sign (rest : List Char) :
    dropFormatCodes ('§' :: '§' :: rest) = '§' :: dropFormatCodes ('§' :: rest) := by
  rw [dropFormatCodes, if_neg (by simp [isFormatCode_sign])]

/-- No code reaches over a section sign. -/
theorem dropFormatCodes_append_sign (before rest : List Char) :
    dropFormatCodes (before ++ '§' :: rest) =
      dropFormatCodes before ++ dropFormatCodes ('§' :: rest) := by
  fun_induction dropFormatCodes before with
  | case1 => rfl
  | case2 c =>
    rw [List.singleton_append, dropFormatCodes, if_neg (by simp [isFormatCode_sign])]
    rfl
  | case3 c d others code ih =>
    rw [List.cons_append, List.cons_append, dropFormatCodes, if_pos code, ih]
  | case4 c d others plain ih =>
    rw [List.cons_append, List.cons_append, dropFormatCodes, if_neg plain, ← List.cons_append, ih,
      List.cons_append]

theorem dropFormatCodes_codes {letters : List Char} (known : ∀ l ∈ letters, isFormatCode l = true)
    (rest : List Char) :
    dropFormatCodes (formatCodes letters ++ rest) = dropFormatCodes rest := by
  induction letters with
  | nil => rfl
  | cons letter letters ih =>
    rw [List.forall_mem_cons] at known
    exact (dropFormatCodes_code known.1 _).trans (ih known.2)

/-- A letter in front of what is left stands behind nothing but codes. -/
theorem exists_codes_of_dropFormatCodes {cs tail : List Char} {letter : Char}
    (known : isFormatCode letter = true) (left : dropFormatCodes cs = letter :: tail) :
    ∃ letters after, cs = formatCodes letters ++ letter :: after ∧
      ∀ l ∈ letters, isFormatCode l = true := by
  fun_induction dropFormatCodes cs with
  | case1 => cases left
  | case2 c =>
    cases left
    exact ⟨[], [], rfl, nofun⟩
  | case3 c d rest code ih =>
    simp only [Bool.and_eq_true, decide_eq_true_eq] at code
    obtain ⟨rfl, here⟩ := code
    obtain ⟨letters, after, rfl, all⟩ := ih left
    exact ⟨d :: letters, after, rfl, List.forall_mem_cons.mpr ⟨here, all⟩⟩
  | case4 c d rest _ _ =>
    obtain ⟨rfl, -⟩ := List.cons.inj left
    exact ⟨[], d :: rest, rfl, nofun⟩

/-- What is left has a code exactly where one was put together. -/
theorem hasFormatCode_dropFormatCodes_iff (cs : List Char) :
    HasFormatCode (dropFormatCodes cs) ↔ JoinsFormatCode cs := by
  constructor
  · intro coded
    fun_induction dropFormatCodes cs with
    | case1 =>
      obtain ⟨before, letter, after, same, -⟩ := coded
      simp at same
    | case2 c =>
      obtain ⟨before, letter, after, same, -⟩ := coded
      have lengths := congrArg List.length same
      simp at lengths
      omega
    | case3 c d rest _ ih => exact joinsFormatCode_cons c (joinsFormatCode_cons d (ih coded))
    | case4 c d rest plain ih =>
      obtain ⟨before, letter, after, same, known⟩ := coded
      cases before with
      | cons first before =>
        obtain ⟨-, same⟩ := List.cons.inj same
        exact joinsFormatCode_cons c (ih ⟨before, letter, after, same, known⟩)
      | nil =>
        -- The code begins with this character, so its letter has come up from behind other codes.
        obtain ⟨rfl, left⟩ := List.cons.inj same
        obtain ⟨letters, behind, split, all⟩ := exists_codes_of_dropFormatCodes known left
        refine ⟨[], letters, letter, behind, by rw [split]; rfl, ?_, all, known⟩
        rintro rfl
        obtain ⟨rfl, -⟩ := List.cons.inj split
        simp [known] at plain
  · rintro ⟨before, letters, letter, after, rfl, apart, all, known⟩
    obtain ⟨first, letters, rfl⟩ := List.exists_cons_of_ne_nil apart
    have other : letter ≠ '§' := by
      rintro rfl
      rw [isFormatCode_sign] at known
      cases known
    have sign : dropFormatCodes ('§' :: (formatCodes (first :: letters) ++ letter :: after)) =
        '§' :: letter :: dropFormatCodes after :=
      calc dropFormatCodes ('§' :: (formatCodes (first :: letters) ++ letter :: after))
        _ = '§' :: dropFormatCodes (formatCodes (first :: letters) ++ letter :: after) :=
          dropFormatCodes_sign_sign _
        _ = '§' :: letter :: dropFormatCodes after := by
          rw [dropFormatCodes_codes all, dropFormatCodes_of_other other]
    exact ⟨dropFormatCodes before, letter, dropFormatCodes after,
      by rw [dropFormatCodes_append_sign, sign], known⟩

/-! ### A second pass -/

theorem length_dropFormatCodes_le (cs : List Char) : (dropFormatCodes cs).length ≤ cs.length := by
  fun_induction dropFormatCodes cs with
  | case1 | case2 => exact Nat.le_refl _
  | case3 _ _ rest _ ih => exact Nat.le_add_right_of_le (Nat.le_add_right_of_le ih)
  | case4 _ _ _ _ ih => exact Nat.succ_le_succ ih

/-- Just the texts without a code are left as they are. -/
theorem dropFormatCodes_eq_self_iff (cs : List Char) :
    dropFormatCodes cs = cs ↔ ¬ HasFormatCode cs := by
  constructor
  · rintro same ⟨before, letter, after, rfl, known⟩
    -- No part gets longer in a pass, and the code here is gone.
    have lengths := congrArg List.length same
    rw [dropFormatCodes_append_sign, dropFormatCodes_code known] at lengths
    have front := length_dropFormatCodes_le before
    have back := length_dropFormatCodes_le after
    simp only [List.length_append, List.length_cons] at lengths
    omega
  · intro uncoded
    fun_induction dropFormatCodes cs with
    | case1 | case2 => rfl
    | case3 c d rest code =>
      simp only [Bool.and_eq_true, decide_eq_true_eq] at code
      exact absurd ⟨[], d, rest, by rw [code.1]; rfl, code.2⟩ uncoded
    | case4 c d rest _ ih => rw [ih fun coded => uncoded (hasFormatCode_cons c coded)]

namespace Renderer

theorem toList_strip {r : Renderer} (strips : r.settings.stripFormatting = true) (text : String) :
    (r.strip text).toList = dropFormatCodes text.toList := by
  rw [strip, if_pos strips, String.toList_ofList]

/-- What stripping leaves of a text has a code exactly if the text has a section sign, then codes, and
then the letter of a code. Only then does a second stripping change anything. -/
theorem stripping_is_complete_unless_joined {r : Renderer}
    (strips : r.settings.stripFormatting = true) (text : String) :
    (HasFormatCode (r.strip text).toList ↔ JoinsFormatCode text.toList) ∧
      (r.strip (r.strip text) = r.strip text ↔ ¬ JoinsFormatCode text.toList) := by
  have coded : HasFormatCode (r.strip text).toList ↔ JoinsFormatCode text.toList := by
    rw [toList_strip strips, hasFormatCode_dropFormatCodes_iff]
  refine ⟨coded, ?_⟩
  rw [← String.toList_inj, toList_strip strips (r.strip text), dropFormatCodes_eq_self_iff, coded]

/-- Between two section signs and two letters stands one code, and stripping it leaves another. -/
theorem stripping_is_complete_unless_joined_of_two :
    let r : Renderer := {}
    r.settings.stripFormatting = true ∧ JoinsFormatCode "§§aa".toList ∧
      r.strip "§§aa" = "§a" ∧ HasFormatCode (r.strip "§§aa").toList ∧
      r.strip (r.strip "§§aa") ≠ r.strip "§§aa" := by
  intro r
  have strips : r.settings.stripFormatting = true := rfl
  have known : isFormatCode 'a' = true := by decide
  have joins : JoinsFormatCode "§§aa".toList :=
    ⟨[], ['a'], 'a', [], by decide +kernel, by simp, by simpa using known, known⟩
  obtain ⟨coded, again⟩ := stripping_is_complete_unless_joined strips "§§aa"
  exact ⟨strips, joins, by decide +kernel, coded.mpr joins, fun same => again.mp same joins⟩

end Renderer

end Targeting
