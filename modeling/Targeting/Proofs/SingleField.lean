import Targeting.Proofs.ItemAcceptance
import Targeting.Proofs.JsonLexicon

/-!
# Objects with one field

Item conditions that bind one field to a word, with quotes around it or without.

## Main results

`conditions_unquoted` and `conditions_quoted`: such a text is one object, whose
field is bound to what the word stands for, or to the word itself where it is
quoted and neither quotes nor escapes anything.
-/
namespace Targeting.Item

open Text

/-! ### Words -/

/-- Whether the text is a word without blanks. -/
def isSinglePart (cs : List Char) : Bool := cs.head?.any isWordStart && cs.tail.all isWordChar

theorem isWord_of_isSinglePart {word : List Char} (single : isSinglePart word = true) :
    IsWord word := by
  cases word with
  | nil => cases single
  | cons first rest =>
    obtain ⟨starts, inside⟩ := Bool.and_eq_true_iff.mp single
    exact .part ⟨first, rest, rfl, starts, List.all_eq_true.mp inside⟩

theorem trimWith_of_isWord {word : List Char} (isWord : IsWord word) {class? : Char → Bool}
    (blank : ∀ c, class? c = true → isBlank c = true) : trimWith class? word = word := by
  have solid {c : Char} (inside : isWordChar c = true) : class? c = false := by
    have solid := isBlank_of_isWordChar inside
    rw [Bool.eq_false_iff]
    exact fun member => by simp [blank c member] at solid
  obtain ⟨first, rest, begins, starts, -⟩ := wordRest_append_of_isWord isWord
  obtain ⟨front, last, ends, inside⟩ := exists_last_of_isWord isWord
  exact trimWith_eq_self begins ends (solid (isWordChar_of_isWordStart starts)) (solid inside)

theorem trim_of_isWord {word : List Char} (isWord : IsWord word) : trim word = word :=
  trimWith_of_isWord isWord fun _ blank => blank

theorem trimSpaces_of_isWord {word : List Char} (isWord : IsWord word) : trimSpaces word = word :=
  trimWith_of_isWord isWord fun _ => isBlank_of_isSpace

/-! ### Strings -/

/-- Nothing is quoted and nothing is escaped. -/
structure IsPlain (word : List Char) : Prop where
  unquoted : '"' ∉ word
  unescaped : '\\' ∉ word

theorem not_isSurrogate (c : Char) :
    Json.isHighSurrogate c.toNat = false ∧ Json.isLowSurrogate c.toNat = false := by
  have valid : c.toNat < 0xD800 ∨ 0xDFFF < c.toNat ∧ c.toNat < 0x110000 := c.valid
  simp only [Json.isHighSurrogate, Json.isLowSurrogate, Bool.and_eq_false_iff,
    decide_eq_false_iff_not]
  omega

/-- A character is no surrogate, so it is not joined with what follows it. -/
theorem joinUnits_cons (c : Char) (units : List Nat) :
    Json.joinUnits (c.toNat :: units) = c :: Json.joinUnits units := by
  have single := not_isSurrogate c
  cases units <;> simp [Json.joinUnits, single]

theorem joinUnits_map_toNat (cs : List Char) : Json.joinUnits (cs.map Char.toNat) = cs := by
  induction cs with
  | nil => rfl
  | cons c cs ih => rw [List.map_cons, joinUnits_cons, ih]

theorem eq_map_of_units {units : List Nat} {cs : List Char} (spelled : Json.Units units cs)
    (unescaped : '\\' ∉ cs) : units = cs.map Char.toNat := by
  induction spelled with
  | nil => rfl
  | plain _ _ _ _ ih => rw [ih fun member => unescaped (List.mem_cons_of_mem _ member), List.map_cons]
  | escape => simp at unescaped
  | hex => simp at unescaped

/-- A string without quotes and escapes in it stands for what is written. -/
theorem unescape_of_isPlain {raw : List Char} (plain : IsPlain raw) :
    unescape raw = String.ofList raw := by
  unfold unescape
  split
  next text read =>
    obtain ⟨units, literal, parts, spelled, rfl⟩ := Json.readString_eq_some_iff.mp read
    obtain ⟨rfl, -⟩ := List.append_inj' parts rfl
    rw [Json.textOf, eq_map_of_units spelled plain.unescaped, joinUnits_map_toNat]
  next => rfl

theorem isRaw_of_isPlain {word : List Char} (isWord : IsWord word) (plain : IsPlain word) :
    IsRaw word := by
  have none : backslashes word = 0 := by
    rw [backslashes, List.length_eq_zero_iff, List.eq_nil_iff_forall_not_mem]
    intro c member
    have escape : c = '\\' := by simpa using List.mem_takeWhile_imp member
    have inside := List.mem_reverse.mp ((List.takeWhile_sublist _).subset member)
    exact plain.unescaped (escape ▸ inside)
  refine ⟨fun member => ?_, fun before after parts => ?_, by rw [none]⟩
  · rcases isWordChar_or_isJoint isWord _ member with inside | joint
    · cases inside
    · cases joint
  · exact absurd (by simp [parts]) plain.unquoted

/-! ### Objects -/

/-- The text of an object with one field. -/
def assigned (name : String) (value : List Char) : List Char :=
  '{' :: (name.toList ++ '=' :: value ++ ['}'])

/-- A word in quotes. -/
def quotation (word : List Char) : List Char := '"' :: (word ++ ['"'])

theorem lexes_quotation {raw rest : List Char} {tokens : List Token} (isRaw : IsRaw raw)
    (lexed : Lexes rest tokens) : Lexes (quotation raw ++ rest) (.quoted raw :: tokens) := by
  rw [quotation, List.cons_append, List.append_assoc, List.singleton_append]
  exact .quoted isRaw lexed

theorem isWord_of_mem_fieldNames {name : String} (known : name ∈ fieldNames) : IsWord name.toList := by
  have single : ∀ name ∈ fieldNames, isSinglePart name.toList = true := by decide +kernel
  exact isWord_of_isSinglePart (single name known)

section Assigned

variable {name : String} {value word : List Char} {found : ItemCondition} (known : name ∈ fieldNames)

include known

theorem spells_assigned {token : Token} {bound : Value}
    (lexed : Lexes (value ++ ['}']) [token, .closeBrace]) (derived : Derives (.value bound) [token]) :
    Spells (assigned name value) [[(name, bound)]] := by
  refine ⟨.openBrace :: ([.word name.toList, .equals, token] ++ [.closeBrace]), ?_, ?_⟩
  · have equals : mark? '=' = some .equals := rfl
    rw [assigned, List.append_assoc, List.cons_append]
    exact .mark rfl (.word (longestWord_of_mark (isWord_of_mem_fieldNames known) equals _)
      (.mark equals lexed))
  · have named : key? (.word name.toList) = some name := congrArg some String.ofList_toList
    exact .alone (.object (.pair named derived))

theorem conditions_assigned {token : Token} {bound : Value}
    (lexed : Lexes (value ++ ['}']) [token, .closeBrace]) (derived : Derives (.value bound) [token])
    (describes : Describes [(name, bound)] found) :
    outcome (conditions (assigned name value)) = .ok [found] := by
  have trimmed : trim (assigned name value) = assigned name value :=
    trim_between (by decide) (by decide) _
  have spelled := spells_assigned known lexed derived
  rw [← trimmed] at spelled
  exact (conditions_eq_ok_iff spelled [found]).mpr (.cons describes .nil)

/-- Without quotes, a field is bound to what the word stands for. -/
theorem conditions_unquoted (isWord : IsWord word)
    (describes : Describes [(name, .scalar (.ofWord word))] found) :
    outcome (conditions (assigned name word)) = .ok [found] := by
  have closes : mark? '}' = some .closeBrace := rfl
  have longest := longestWord_of_mark isWord closes []
  exact conditions_assigned known (.word longest (.mark closes .nil)) (.word word) describes

/-- A field is bound to the text that its string stands for. -/
theorem conditions_string {raw : List Char} {text : String} (isRaw : IsRaw raw)
    (stands : unescape raw = text) (describes : Describes [(name, .scalar (.text text))] found) :
    outcome (conditions (assigned name (quotation raw))) = .ok [found] := by
  have closes : mark? '}' = some .closeBrace := rfl
  have lexed := lexes_quotation isRaw (.mark closes .nil)
  rw [← stands] at describes
  exact conditions_assigned known lexed (.quoted raw) describes

/-- In quotes, a field is bound to the word itself. -/
theorem conditions_quoted (isWord : IsWord word) (plain : IsPlain word)
    (describes : Describes [(name, .scalar (.text (String.ofList word)))] found) :
    outcome (conditions (assigned name (quotation word))) = .ok [found] :=
  conditions_string known (isRaw_of_isPlain isWord plain) (unescape_of_isPlain plain) describes

end Assigned

/-! ### Fields -/

section Describes

variable {value : Scalar} {range : IntRange}

theorem describes_item :
    Describes [("item", .scalar value)] { item := some value.toText } :=
  ⟨.bound rfl, .absent, .absent, .absent, .absent⟩

theorem describes_location :
    Describes [("location", .scalar value)] { location := some value.toText } :=
  ⟨.absent, .absent, .absent, .bound rfl, .absent⟩

theorem describes_quantity (read : value.toRange = .ok range) :
    Describes [("quantity", .scalar value)] { quantity := range } :=
  ⟨.absent, .bound read, .absent, .absent, .absent⟩

theorem describes_slot (read : value.toRange = .ok range) :
    Describes [("slot", .scalar value)] { slot := some range } := by
  have slots : value.toRange.map some = .ok (some range) := by
    rw [read]
    rfl
  exact ⟨.absent, .absent, .absent, .absent, .bound slots⟩

end Describes

end Targeting.Item
