import Targeting.Argument.Token
import Targeting.Proofs.Trimming

/-!
# Where an argument list is split

Where a text leaves both counts at zero, the comma after it separates: the
tokens of the whole are those before the comma and those after it. A text that
holds together from some depth is not split anywhere.
-/
namespace Targeting.Argument

open Text

/-! ### Depth -/

namespace Depth

@[simp] theorem after_nil (d : Depth) : d.after [] = d := rfl

@[simp] theorem after_cons (d : Depth) (c : Char) (cs : List Char) :
    d.after (c :: cs) = (d.step c).after cs := rfl

@[simp] theorem after_append (d : Depth) (left right : List Char) :
    d.after (left ++ right) = (d.after left).after right :=
  List.foldl_append

theorem step_braces (d : Depth) (c : Char) :
    (d.step c).braces = d.braces + (({} : Depth).step c).braces := by
  unfold step
  split <;> simp
  omega

theorem step_brackets (d : Depth) (c : Char) :
    (d.step c).brackets = d.brackets + (({} : Depth).step c).brackets := by
  unfold step
  split <;> simp
  omega

/-- How far a text moves the counts does not depend on where they stand. -/
theorem after_braces (d : Depth) (cs : List Char) :
    (d.after cs).braces = d.braces + (({} : Depth).after cs).braces := by
  induction cs generalizing d with
  | nil => simp
  | cons c cs ih =>
    have here := step_braces d c
    have there := ih (d.step c)
    have start := ih (({} : Depth).step c)
    simp only [after_cons]
    omega

theorem after_brackets (d : Depth) (cs : List Char) :
    (d.after cs).brackets = d.brackets + (({} : Depth).after cs).brackets := by
  induction cs generalizing d with
  | nil => simp
  | cons c cs ih =>
    have here := step_brackets d c
    have there := ih (d.step c)
    have start := ih (({} : Depth).step c)
    simp only [after_cons]
    omega

theorem after_of_balanced {cs : List Char} (balanced : ({} : Depth).after cs = {}) (d : Depth) :
    d.after cs = d := by
  have braces := after_braces d cs
  have brackets := after_brackets d cs
  rw [balanced] at braces brackets
  rcases h : d.after cs with ⟨a, b⟩
  rcases d with ⟨x, y⟩
  simp_all

theorem isLevel_iff (d : Depth) : d.isLevel = true ↔ d = {} := by
  rcases d with ⟨braces, brackets⟩
  simp [isLevel]

end Depth

/-! ### Pieces -/

/-- Two texts in a row share one piece: the last of the first and the first of the second. -/
theorem pieces_append (d : Depth) (left right : List Char) : ∃ init last first rest,
    pieces d left = init ++ [last] ∧ pieces (d.after left) right = first :: rest ∧
      pieces d (left ++ right) = init ++ (last ++ first) :: rest := by
  induction left generalizing d with
  | nil =>
    obtain ⟨first, rest, split⟩ := List.exists_cons_of_ne_nil (pieces_ne_nil d right)
    exact ⟨[], [], first, rest, rfl, split, split⟩
  | cons c left ih =>
    -- A comma at a level place starts a piece; any other character goes into the first one.
    obtain ⟨init, last, first, rest, before, after, whole⟩ := ih (d.step c)
    by_cases separates : c = ',' ∧ d.isLevel = true
    · obtain ⟨rfl, level⟩ := separates
      have same : d.step ',' = d := rfl
      rw [same] at before after whole
      refine ⟨[] :: init, last, first, rest, ?_, after, ?_⟩
      · simp [pieces, level, before]
      · simp [pieces, level, whole]
    · have kept : ¬ (c = ',' && d.isLevel) = true := by simpa using separates
      -- The first piece of the left text may be its last one, which runs on into the right text.
      cases init with
      | nil =>
        refine ⟨[], c :: last, first, rest, ?_, after, ?_⟩
        · rw [pieces, if_neg kept, before]
          rfl
        · rw [List.cons_append, pieces, if_neg kept, whole]
          rfl
      | cons head init =>
        refine ⟨(c :: head) :: init, last, first, rest, ?_, after, ?_⟩
        · rw [pieces, if_neg kept, before]
          rfl
        · rw [List.cons_append, pieces, if_neg kept, whole]
          rfl

theorem pieces_append_comma {d : Depth} {left : List Char} (level : (d.after left).isLevel = true)
    (right : List Char) : pieces d (left ++ ',' :: right) = pieces d left ++ pieces {} right := by
  obtain ⟨init, last, first, rest, before, after, whole⟩ := pieces_append d left (',' :: right)
  have zero := (Depth.isLevel_iff _).mp level
  have separated : pieces (d.after left) (',' :: right) = [] :: pieces {} right := by
    rw [zero]
    rfl
  obtain ⟨rfl, rfl⟩ := List.cons.inj (after.symm.trans separated)
  rw [whole, before, List.append_nil, List.append_assoc, List.singleton_append]

/-- A comma at a level place separates the tokens before it from the tokens after it. -/
theorem split_append_comma {left : List Char} (level : (({} : Depth).after left).isLevel = true)
    (right : List Char) : split (left ++ ',' :: right) = split left ++ split right := by
  unfold split
  rw [pieces_append_comma level, List.map_append, List.filter_append]

/-! ### Texts that hold together -/

/-- No comma of the text stands at a level place. -/
def Holds (d : Depth) (text : List Char) : Prop := pieces d text = [text]

instance (d : Depth) (text : List Char) : Decidable (Holds d text) :=
  inferInstanceAs (Decidable (pieces d text = [text]))

@[simp] theorem holds_nil (d : Depth) : Holds d [] := rfl

theorem holds_cons (d : Depth) (c : Char) (cs : List Char) :
    Holds d (c :: cs) ↔ ¬ (c = ',' ∧ d.isLevel = true) ∧ Holds (d.step c) cs := by
  unfold Holds
  rw [pieces]
  by_cases separates : (c = ',' && d.isLevel) = true
  · have level : c = ',' ∧ d.isLevel = true := by simpa using separates
    simp [level]
  · have kept : ¬ (c = ',' ∧ d.isLevel = true) := by simpa using separates
    obtain ⟨first, rest, split⟩ := List.exists_cons_of_ne_nil (pieces_ne_nil (d.step c) cs)
    simp [separates, kept, split]

theorem holds_append (d : Depth) (left right : List Char) :
    Holds d (left ++ right) ↔ Holds d left ∧ Holds (d.after left) right := by
  induction left generalizing d with
  | nil => simp
  | cons c left ih => rw [List.cons_append, holds_cons, ih, holds_cons, and_assoc, Depth.after_cons]

/-- A text that is never at a level place has no separating comma. -/
theorem holds_of_never_level {d : Depth} {text : List Char}
    (deep : ∀ before after, text = before ++ after → (d.after before).isLevel = false) :
    Holds d text := by
  induction text generalizing d with
  | nil => rfl
  | cons c text ih =>
    rw [holds_cons]
    refine ⟨?_, ih ?_⟩
    · rintro ⟨-, level⟩
      have here := deep [] (c :: text) rfl
      rw [Depth.after_nil, level] at here
      cases here
    · rintro before after rfl
      exact deep (c :: before) after rfl

/-! ### Delimiters

Depth and level commas depend only on the braces, brackets and commas of a text. -/

def isDelimiter (c : Char) : Bool := ['{', '}', '[', ']', ','].contains c

def delimiters (text : List Char) : List Char := text.filter isDelimiter

@[simp] theorem delimiters_append (left right : List Char) :
    delimiters (left ++ right) = delimiters left ++ delimiters right :=
  List.filter_append left right

theorem delimiters_cons_of_plain {c : Char} (plain : isDelimiter c = false) (text : List Char) :
    delimiters (c :: text) = delimiters text :=
  List.filter_cons_of_neg (by simp [plain])

theorem step_of_plain {c : Char} (plain : isDelimiter c = false) (d : Depth) : d.step c = d := by
  unfold Depth.step
  split <;> first | rfl | simp [isDelimiter] at plain

@[simp] theorem after_delimiters (d : Depth) (text : List Char) :
    d.after (delimiters text) = d.after text := by
  induction text generalizing d with
  | nil => rfl
  | cons c text ih =>
    cases counts : isDelimiter c with
    | true =>
      rw [delimiters, List.filter_cons_of_pos counts, Depth.after_cons, Depth.after_cons, ← ih]
      rfl
    | false =>
      rw [delimiters_cons_of_plain counts, Depth.after_cons, step_of_plain counts, ih]

theorem holds_delimiters (d : Depth) (text : List Char) :
    Holds d (delimiters text) ↔ Holds d text := by
  induction text generalizing d with
  | nil => rfl
  | cons c text ih =>
    cases counts : isDelimiter c with
    | true =>
      rw [delimiters, List.filter_cons_of_pos counts, holds_cons, holds_cons, ← ih]
      rfl
    | false =>
      have mark : c ≠ ',' := by
        rintro rfl
        simp [isDelimiter] at counts
      rw [delimiters_cons_of_plain counts, holds_cons, step_of_plain counts, ih]
      simp [mark]

/-- A class of characters without a delimiter among them. -/
theorem isDelimiter_of_class {class? : Char → Bool}
    (apart : ['{', '}', '[', ']', ','].any class? = false) {c : Char}
    (inside : class? c = true) : isDelimiter c = false := by
  by_contra counts
  have listed : c ∈ ['{', '}', '[', ']', ','] :=
    List.contains_iff_mem.mp (Bool.not_eq_false _ ▸ counts)
  exact List.any_eq_false.mp apart c listed inside

theorem isDelimiter_of_isBlank {c : Char} (blank : isBlank c = true) : isDelimiter c = false :=
  isDelimiter_of_class rfl blank

@[simp] theorem delimiters_trim (text : List Char) : delimiters (trim text) = delimiters text :=
  filter_trim (fun _ => isDelimiter_of_isBlank) text

/-! ### Tokens that stay whole -/

/-- The text opens and closes its own braces and brackets, and no comma of it stands outside. -/
def IsWhole (text : List Char) : Prop := Holds {} text ∧ ({} : Depth).after text = {}

instance (text : List Char) : Decidable (IsWhole text) :=
  inferInstanceAs (Decidable (Holds {} text ∧ ({} : Depth).after text = {}))

theorem isWhole_congr {text other : List Char} (same : delimiters text = delimiters other) :
    IsWhole text ↔ IsWhole other := by
  unfold IsWhole
  rw [← holds_delimiters, ← after_delimiters, same, holds_delimiters, after_delimiters]

theorem isWhole_of_undelimited {text : List Char} (undelimited : delimiters text = []) :
    IsWhole text :=
  (isWhole_congr (show delimiters text = delimiters [] from undelimited)).mpr (by decide)

theorem holds_iff_length (d : Depth) (text : List Char) :
    Holds d text ↔ (pieces d text).length = 1 := by
  induction text generalizing d with
  | nil => simp [pieces]
  | cons c text ih =>
    obtain ⟨first, rest, split⟩ := List.exists_cons_of_ne_nil (pieces_ne_nil (d.step c) text)
    rw [holds_cons, ih, pieces]
    by_cases separates : (c = ',' && d.isLevel) = true
    · have level : c = ',' ∧ d.isLevel = true := by simpa using separates
      have next : pieces d text ≠ [] := pieces_ne_nil d text
      simp [level, next]
    · have kept : ¬ (c = ',' ∧ d.isLevel = true) := by simpa using separates
      simp [separates, kept, split]

/-- How many characters are not blank. -/
def visible (text : List Char) : Nat := text.countP fun c => !isBlank c

theorem visible_trim (text : List Char) : visible (trim text) = visible text := by
  have kept : (trim text).filter (fun c => !isBlank c) = text.filter fun c => !isBlank c :=
    filter_trim (by simp) text
  rw [visible, visible, List.countP_eq_length_filter, List.countP_eq_length_filter, kept]

theorem visible_append (left right : List Char) :
    visible (left ++ right) = visible left + visible right :=
  List.countP_append

/-- Every separating comma is in no piece, and every other character in one. -/
theorem visible_pieces (d : Depth) (text : List Char) :
    visible (pieces d text).flatten + (pieces d text).length = visible text + 1 := by
  induction text generalizing d with
  | nil => rfl
  | cons c text ih =>
    have joined : visible (c :: text) = visible [c] + visible text := visible_append [c] text
    rw [pieces]
    split
    next separates =>
      -- A separating comma is visible and in no piece, but it makes one piece more.
      have mark : c = ',' := by simp_all
      have seen : visible [c] = 1 := by
        rw [mark]
        rfl
      have rest := ih d
      simp only [List.flatten_cons, List.nil_append, List.length_cons]
      omega
    next kept =>
      have rest := ih (d.step c)
      obtain ⟨first, others, split⟩ := List.exists_cons_of_ne_nil (pieces_ne_nil (d.step c) text)
      have here : visible ((c :: first) ++ others.flatten) =
          visible [c] + visible (first ++ others.flatten) := visible_append [c] _
      simp only [split, List.flatten_cons, List.length_cons] at rest ⊢
      omega

theorem visible_tokens (stretches : List (List Char)) :
    visible ((stretches.map trim).filter fun token => !token.isEmpty).flatten =
      visible stretches.flatten := by
  induction stretches with
  | nil => rfl
  | cons stretch rest ih =>
    have same := visible_trim stretch
    rw [List.map_cons, List.flatten_cons, visible_append, ← ih, ← same]
    cases empty : (trim stretch).isEmpty with
    | true =>
      have none : trim stretch = [] := List.isEmpty_iff.mp empty
      rw [List.filter_cons_of_neg (by simp [empty]), none]
      exact (Nat.zero_add _).symm
    | false => rw [List.filter_cons_of_pos (by simp [empty]), List.flatten_cons, visible_append]

/-- A text that makes a single token has no separating comma. -/
theorem holds_of_split {text token : List Char} (single : split text = [token])
    (same : visible token = visible text) : Holds {} text := by
  -- The token shows all that the text does, so no comma was lost by separating.
  have pieced := visible_pieces {} text
  have tokens := visible_tokens (pieces {} text)
  change visible (split text).flatten = _ at tokens
  rw [single, List.flatten_singleton, same] at tokens
  rw [holds_iff_length]
  omega

theorem split_of_holds {text : List Char} (holds : Holds {} text) (seen : trim text ≠ []) :
    split text = [trim text] := by
  have single : pieces {} text = [text] := holds
  simp [split, single, seen]

theorem split_of_isWhole {text : List Char} (whole : IsWhole text) (seen : trim text ≠ []) :
    split text = [trim text] :=
  split_of_holds whole.1 seen

/-- Between level texts, a text stays one token exactly if it is whole. -/
theorem isWhole_iff_split {text : List Char} (seen : trim text ≠ []) :
    IsWhole text ↔ ∀ before after, (({} : Depth).after before).isLevel = true →
      split (before ++ ',' :: (text ++ ',' :: after)) = split before ++ trim text :: split after := by
  constructor
  · intro whole before after level
    have closed : (({} : Depth).after text).isLevel = true := by
      rw [whole.2]
      rfl
    rw [split_append_comma level, split_append_comma closed, split_of_isWhole whole seen,
      List.singleton_append]
  · intro stays
    have alone : split (text ++ ',' :: ['x']) = [trim text] ++ [['x']] := stays [] ['x'] rfl
    cases level : (({} : Depth).after text).isLevel with
    | true =>
      -- A single token holds all that is visible, so no comma has been taken out.
      rw [split_append_comma level] at alone
      exact ⟨holds_of_split (List.append_cancel_right alone) (visible_trim text),
        (Depth.isLevel_iff _).mp level⟩
    | false =>
      -- The comma does not separate, so it is still there in the last token.
      exfalso
      obtain ⟨init, last, first, rest, -, behind, joined⟩ := pieces_append {} text [',', 'x']
      have kept : pieces (({} : Depth).after text) [',', 'x'] = [[',', 'x']] := by
        simp [pieces, level]
      obtain ⟨rfl, rfl⟩ := List.cons.inj (behind.symm.trans kept)
      have comma : trim (last ++ ',' :: ['x']) = last.dropWhile isBlank ++ ',' :: ['x'] :=
        trim_append_cons (by decide) last ['x']
      have tokens : split (text ++ [',', 'x']) =
          ((init.map trim).filter fun token => !token.isEmpty) ++ [trim (last ++ [',', 'x'])] := by
        simp [split, joined, comma]
      have same := List.singleton_inj.mp (List.append_inj_right' (alone.symm.trans tokens) rfl)
      rw [comma] at same
      have lengths := congrArg List.length same
      simp only [List.length_append, List.length_cons, List.length_nil] at lengths
      omega

/-! ### Assignments -/

theorem trim_assignment_ne_nil (key value : List Char) : trim (key ++ '=' :: value) ≠ [] := by
  rw [trim_append_cons (by decide)]
  simp

/-- A key without delimiters leaves those of the value. -/
theorem delimiters_assignment {key : List Char} (plain : delimiters key = []) (value : List Char) :
    delimiters (key ++ '=' :: value) = delimiters value := by
  rw [delimiters_append, plain, List.nil_append, delimiters_cons_of_plain rfl]

theorem splitAssignment_append {key : List Char} (unequal : '=' ∉ key) (value : List Char) :
    splitAssignment (key ++ '=' :: value) = (trim key, trim value) := by
  -- The first equals sign is the one behind the key.
  have ahead : ∀ c ∈ key, decide (c ≠ '=') = true := by
    intro c member
    simp only [decide_eq_true_eq]
    rintro rfl
    exact unequal member
  rw [splitAssignment, List.dropWhile_append_of_pos ahead, List.takeWhile_append_of_pos ahead,
    List.dropWhile_cons_of_neg (by decide), List.takeWhile_cons_of_neg (by decide), List.append_nil]

theorem splitAssignment_of_unequal {token : List Char} (unequal : '=' ∉ token) :
    splitAssignment token = ([], []) := by
  have none : token.dropWhile (· ≠ '=') = [] := by
    rw [List.dropWhile_eq_nil_iff]
    intro c member
    simp only [decide_eq_true_eq]
    rintro rfl
    exact unequal member
  rw [splitAssignment, none]

/-- The key and the value of a token are those of the text that it was trimmed from. -/
theorem splitAssignment_trim {key : List Char} (unequal : '=' ∉ key) (value : List Char) :
    splitAssignment (trim (key ++ '=' :: value)) = (trim key, trim value) := by
  have ahead : '=' ∉ key.dropWhile isBlank :=
    fun member => unequal ((List.dropWhile_suffix isBlank).subset member)
  rw [trim_append_cons (by decide), splitAssignment_append ahead, trim_dropWhile,
    trim_reverse_dropWhile]

end Targeting.Argument
