import Targeting.Proofs.SingleField

/-!
# String literals of items

A string literal denotes a text, character by character: a character stands for
itself or is escaped, by a mark of its own or by its code units. Whatever it
denotes, a literal ends where it is written to end, so the characters that have a
meaning of their own have none in it.

## Main result

`quoted_strings_decode_exactly`.

## Proof strategy

The escape that a backslash begins has no quote and no backslash behind it but the
one it escapes. So no quote in a literal is taken for its end, by induction on what
the literal denotes.
-/
namespace Targeting.Json

/-! ### What literals denote -/

/-- The marks of escapes, and the characters that they stand for. -/
def escapes : List (Char × Char) :=
  [('"', '"'), ('\\', '\\'), ('/', '/'), ('b', '\x08'), ('f', '\x0c'), ('n', '\n'), ('r', '\r'),
   ('t', '\t')]

/-- Hexadecimal digits in either case, with their values. -/
def hexMarks : List (Char × Nat) :=
  "0123456789abcdef".toList.zipIdx ++ "ABCDEF".toList.zipIdx 10

/-- A number of 16 bits in four hexadecimal digits. -/
inductive Hex (n : Nat) : List Char → Prop where
  | four {p q r s : Char} {a b c d : Nat} (first : (p, a) ∈ hexMarks) (second : (q, b) ∈ hexMarks)
      (third : (r, c) ∈ hexMarks) (fourth : (s, d) ∈ hexMarks)
      (value : n = 0x1000 * a + 0x100 * b + 0x10 * c + d) : Hex n [p, q, r, s]

/-- The text that a literal denotes, and what is written between its quotes. A character beyond the
first 65536 is escaped as the pair of its surrogates. -/
inductive Denotes : List Char → List Char → Prop where
  | nil : Denotes [] []
  | plain {c : Char} {text raw : List Char} (unquoted : c ≠ '"') (unescaped : c ≠ '\\')
      (printable : 0x20 ≤ c.toNat) (rest : Denotes text raw) : Denotes (c :: text) (c :: raw)
  | mark {c mark : Char} {text raw : List Char} (known : (mark, c) ∈ escapes)
      (rest : Denotes text raw) : Denotes (c :: text) ('\\' :: mark :: raw)
  | hex {c : Char} {digits text raw : List Char} (spelled : Hex c.toNat digits)
      (rest : Denotes text raw) : Denotes (c :: text) ('\\' :: 'u' :: (digits ++ raw))
  | pair {c : Char} {high low text raw : List Char} (far : 0x10000 ≤ c.toNat)
      (first : Hex (0xD800 + (c.toNat - 0x10000) / 0x400) high)
      (second : Hex (0xDC00 + (c.toNat - 0x10000) % 0x400) low) (rest : Denotes text raw) :
      Denotes (c :: text) ('\\' :: 'u' :: (high ++ '\\' :: 'u' :: (low ++ raw)))

theorem exists_hexMark {n : Nat} (small : n < 16) : ∃ mark, (mark, n) ∈ hexMarks := by
  have listed : ∀ n < 16, ∃ entry ∈ hexMarks, entry.2 = n := by decide +kernel
  obtain ⟨⟨mark, _⟩, member, rfl⟩ := listed n small
  exact ⟨mark, member⟩

theorem exists_hex {n : Nat} (small : n < 0x10000) : ∃ digits, Hex n digits := by
  obtain ⟨p, first⟩ := exists_hexMark (n := n / 0x1000) (by omega)
  obtain ⟨q, second⟩ := exists_hexMark (n := n / 0x100 % 0x10) (by omega)
  obtain ⟨r, third⟩ := exists_hexMark (n := n / 0x10 % 0x10) (by omega)
  obtain ⟨s, fourth⟩ := exists_hexMark (n := n % 0x10) (by omega)
  exact ⟨[p, q, r, s], .four first second third fourth (by omega)⟩

/-- Every text is denoted by a literal. -/
theorem exists_denotes (text : List Char) : ∃ raw, Denotes text raw := by
  induction text with
  | nil => exact ⟨[], .nil⟩
  | cons c text ih =>
    obtain ⟨raw, rest⟩ := ih
    by_cases plain : c ≠ '"' ∧ c ≠ '\\' ∧ 0x20 ≤ c.toNat
    · obtain ⟨unquoted, unescaped, printable⟩ := plain
      exact ⟨c :: raw, .plain unquoted unescaped printable rest⟩
    · -- What has to be escaped is far below the surrogates.
      have small : c.toNat < 0x10000 := by
        by_contra far
        refine plain ⟨?_, ?_, by omega⟩ <;> (rintro rfl; exact far (by decide))
      obtain ⟨digits, spelled⟩ := exists_hex small
      exact ⟨_, .hex spelled rest⟩

/-! ### Units -/

theorem hexValue?_of_mem {mark : Char} {value : Nat} (member : (mark, value) ∈ hexMarks) :
    hexValue? mark = some value := by
  have listed : ∀ entry ∈ hexMarks, hexValue? entry.1 = some entry.2 := by decide +kernel
  exact listed _ member

theorem escapeUnit?_of_mem {mark c : Char} (member : (mark, c) ∈ escapes) :
    escapeUnit? mark = some c.toNat := by
  have listed : ∀ entry ∈ escapes, escapeUnit? entry.1 = some entry.2.toNat := by decide
  exact listed _ member

theorem units_of_hex {n : Nat} {digits raw : List Char} {units : List Nat} (spelled : Hex n digits)
    (rest : Units units raw) : Units (n :: units) ('\\' :: 'u' :: (digits ++ raw)) := by
  cases spelled with
  | four first second third fourth value =>
    refine .hex ?_ rest
    rw [hexUnit?, hexValue?_of_mem first, hexValue?_of_mem second, hexValue?_of_mem third,
      hexValue?_of_mem fourth]
    simp only [Option.bind_eq_bind, Option.bind_some, Option.pure_def, Option.some.injEq, value]
    omega

/-- A pair of surrogates is joined to the character that it was made of. -/
theorem joinUnits_pair {c : Char} (far : 0x10000 ≤ c.toNat) (units : List Nat) :
    joinUnits ((0xD800 + (c.toNat - 0x10000) / 0x400) ::
      (0xDC00 + (c.toNat - 0x10000) % 0x400) :: units) = c :: joinUnits units := by
  have valid : c.toNat < 0xD800 ∨ 0xDFFF < c.toNat ∧ c.toNat < 0x110000 := c.valid
  have high : isHighSurrogate (0xD800 + (c.toNat - 0x10000) / 0x400) = true := by
    simp only [isHighSurrogate, Bool.and_eq_true, decide_eq_true_eq]
    omega
  have low : isLowSurrogate (0xDC00 + (c.toNat - 0x10000) % 0x400) = true := by
    simp only [isLowSurrogate, Bool.and_eq_true, decide_eq_true_eq]
    omega
  have joined : 0x10000 + (0xD800 + (c.toNat - 0x10000) / 0x400 - 0xD800) * 0x400 +
      (0xDC00 + (c.toNat - 0x10000) % 0x400 - 0xDC00) = c.toNat := by omega
  rw [joinUnits, high, low, Bool.and_self, if_pos rfl, joined, Char.ofNat_toNat]

/-- The code units of a literal are those of the text that it denotes. -/
theorem exists_units_of_denotes {text raw : List Char} (denotes : Denotes text raw) :
    ∃ units, Units units raw ∧ joinUnits units = text := by
  induction denotes with
  | nil => exact ⟨[], .nil, rfl⟩
  | plain unquoted unescaped printable _ ih =>
    obtain ⟨units, spelled, joined⟩ := ih
    exact ⟨_, .plain unquoted unescaped printable spelled, by rw [Item.joinUnits_cons, joined]⟩
  | mark known _ ih =>
    obtain ⟨units, spelled, joined⟩ := ih
    exact ⟨_, .escape (escapeUnit?_of_mem known) spelled, by rw [Item.joinUnits_cons, joined]⟩
  | hex digits _ ih =>
    obtain ⟨units, spelled, joined⟩ := ih
    exact ⟨_, units_of_hex digits spelled, by rw [Item.joinUnits_cons, joined]⟩
  | pair far first second _ ih =>
    obtain ⟨units, spelled, joined⟩ := ih
    exact ⟨_, units_of_hex first (units_of_hex second spelled), by rw [joinUnits_pair far, joined]⟩

end Targeting.Json

namespace Targeting.Item

open Text

/-! ### Where literals end -/

theorem rawFrom_cons_of_hexValue? {c : Char} {value : Nat} (digit : Json.hexValue? c = some value)
    {raw : List Char} (rest : RawFrom false raw) : RawFrom false (c :: raw) := by
  rw [rawFrom_cons]
  have other {mark : Char} (strange : Json.hexValue? mark = none) : c ≠ mark := by
    rintro rfl
    rw [strange] at digit
    cases digit
  refine ⟨other (by decide), fun quote => absurd quote (other (by decide)), ?_⟩
  rwa [decide_eq_false (other (by decide)), Bool.false_and]

/-- No quote inside a literal ends it, and the one behind it is not escaped. -/
theorem isRaw_of_units {units : List Nat} {raw : List Char} (spelled : Json.Units units raw) :
    IsRaw raw := by
  rw [isRaw_iff]
  induction spelled with
  | nil => exact (rawFrom_nil false).mpr rfl
  | plain unquoted unescaped printable _ ih =>
    rw [rawFrom_cons, decide_eq_false unescaped]
    refine ⟨?_, fun quote => absurd quote unquoted, ih⟩
    rintro rfl
    exact absurd printable (by decide)
  | @escape mark unit units raw known _ ih =>
    -- Only the mark is escaped by the backslash, be it a quote or a backslash itself.
    rw [rawFrom_cons, rawFrom_cons]
    refine ⟨by decide, by decide, ?_, fun _ => rfl, ?_⟩
    · rintro rfl
      cases known
    · simpa using ih
  | @hex a b c d unit units raw digits _ ih =>
    rw [Json.hexUnit?] at digits
    simp only [Option.bind_eq_bind, Option.bind_eq_some_iff] at digits
    obtain ⟨_, first, _, second, _, third, _, fourth, -⟩ := digits
    -- None of the five characters behind the backslash is a quote or a backslash.
    rw [rawFrom_cons, rawFrom_cons]
    refine ⟨by decide, by decide, by decide, by decide, ?_⟩
    exact rawFrom_cons_of_hexValue? first (rawFrom_cons_of_hexValue? second
      (rawFrom_cons_of_hexValue? third (rawFrom_cons_of_hexValue? fourth ih)))

theorem isRaw_of_denotes {text raw : List Char} (denotes : Json.Denotes text raw) : IsRaw raw := by
  obtain ⟨units, spelled, -⟩ := Json.exists_units_of_denotes denotes
  exact isRaw_of_units spelled

theorem unescape_of_denotes {text : String} {raw : List Char}
    (denotes : Json.Denotes text.toList raw) : unescape raw = text := by
  obtain ⟨units, spelled, joined⟩ := Json.exists_units_of_denotes denotes
  have same : Json.textOf units = text := by rw [Json.textOf, joined, String.ofList_toList]
  have read : Json.readString (raw ++ ['"']) = some (text, []) :=
    Json.readString_eq_some_iff.mpr ⟨units, raw, rfl, spelled, same⟩
  rw [unescape, read]

/-! ### Keys -/

/-- The text of an object with one field, whose key is a literal. -/
def keyed (raw value : List Char) : List Char := '{' :: (quotation raw ++ '=' :: value ++ ['}'])

section Key

variable {first second : Token} {name : String} (named : key? first = some name)
  (same : key? second = some name)

include named same

theorem readFields?_congr (fuel : Nat) (tokens : List Token) :
    readFields? fuel (first :: .equals :: tokens) = readFields? fuel (second :: .equals :: tokens) := by
  cases fuel with
  | zero => rfl
  | succ fuel => rw [readFields?, readFields?, named, same]

theorem readRecord?_congr (fuel : Nat) (tokens : List Token) :
    readRecord? fuel (first :: .equals :: tokens) = readRecord? fuel (second :: .equals :: tokens) := by
  cases fuel with
  | zero => rfl
  | succ fuel =>
    -- A key does not close the record, so its fields are read.
    have unclosed {token : Token} (named : key? token = some name) : token ≠ .closeBrace := by
      rintro rfl
      cases named
    rw [readRecord?, readRecord?, readFields?_congr named same]
    · rintro rest ⟨⟩
      exact unclosed same rfl
    · rintro rest ⟨⟩
      exact unclosed named rfl

/-- A key is read for the text that it stands for, in quotes or not. -/
theorem recordsOfTokens?_congr (tokens : List Token) :
    recordsOfTokens? (.openBrace :: first :: .equals :: tokens) =
      recordsOfTokens? (.openBrace :: second :: .equals :: tokens) := by
  unfold recordsOfTokens?
  simp only [List.length_cons, readRecord?_congr named same]

end Key

/-- What a text of item conditions is read as, with what is reported; how a text is refused is left
aside. -/
def accepted (value : List Char) : Logged (Option (List ItemCondition)) :=
  Except.toOption <$> (conditions value).run

theorem accepted_braces (inside : List Char) :
    accepted ('{' :: (inside ++ ['}'])) = (records? ('{' :: (inside ++ ['}']))).elim (pure none)
      fun records => Except.toOption <$> (records.mapM condition).run := by
  have trimmed : trim ('{' :: (inside ++ ['}'])) = '{' :: (inside ++ ['}']) :=
    trim_between (by decide) (by decide) inside
  have opened : IsOpened (trim ('{' :: (inside ++ ['}']))) := by
    rw [trimmed]
    exact ⟨_, .inl rfl⟩
  rw [accepted, conditions_of_isOpened opened, trimmed]
  cases records? ('{' :: (inside ++ ['}'])) <;> rfl

theorem tokens?_assigned {name : String} (isWord : IsWord name.toList) (value : List Char) :
    tokens? (assigned name value) = (tokens? (value ++ ['}'])).map fun tokens =>
      .openBrace :: .word name.toList :: .equals :: tokens := by
  have opens : mark? '{' = some .openBrace := rfl
  have equals : mark? '=' = some .equals := rfl
  rw [assigned, List.append_assoc, List.cons_append, tokens?_mark opens,
    tokens?_word (longestWord_of_mark isWord equals _), tokens?_mark equals, Option.map_map,
    Option.map_map]
  rfl

section Keyed

variable {text : String} {raw : List Char} (denotes : Json.Denotes text.toList raw)

include denotes

theorem key?_of_denotes : key? (.quoted raw) = some text :=
  congrArg some (unescape_of_denotes denotes)

theorem spells_keyed {value : List Char} {tokens : List Token} {bound : Value}
    (lexed : Lexes (value ++ ['}']) (tokens ++ [.closeBrace])) (derived : Derives (.value bound) tokens) :
    Spells (keyed raw value) [[(text, bound)]] := by
  refine ⟨.openBrace :: (.quoted raw :: .equals :: tokens ++ [.closeBrace]), ?_, ?_⟩
  · rw [keyed, List.append_assoc, List.cons_append]
    exact .mark rfl (lexes_quotation (isRaw_of_denotes denotes) (.mark rfl lexed))
  · exact .alone (.object (.pair (key?_of_denotes denotes) derived))

theorem tokens?_keyed (value : List Char) : tokens? (keyed raw value) =
    (tokens? (value ++ ['}'])).map fun tokens => .openBrace :: .quoted raw :: .equals :: tokens := by
  have opens : mark? '{' = some .openBrace := rfl
  have equals : mark? '=' = some .equals := rfl
  rw [keyed, quotation, List.append_assoc, List.cons_append, List.cons_append, List.append_assoc,
    List.singleton_append, tokens?_mark opens, tokens?_quoted (isRaw_of_denotes denotes),
    tokens?_mark equals, Option.map_map, Option.map_map]
  rfl

theorem records?_keyed (isWord : IsWord text.toList) (value : List Char) :
    records? (keyed raw value) = records? (assigned text value) := by
  have named : key? (.word text.toList) = some text := congrArg some String.ofList_toList
  rw [records?, records?, tokens?_keyed denotes, tokens?_assigned isWord]
  cases tokens? (value ++ ['}']) with
  | none => rfl
  | some tokens => exact recordsOfTokens?_congr (key?_of_denotes denotes) named tokens

/-- Whatever stands behind it, a key may be written as a literal. -/
theorem accepted_keyed (isWord : IsWord text.toList) (value : List Char) :
    accepted (keyed raw value) = accepted (assigned text value) := by
  have quoted := accepted_braces (quotation raw ++ '=' :: value)
  have bare := accepted_braces (text.toList ++ '=' :: value)
  rw [← keyed, records?_keyed denotes isWord] at quoted
  exact quoted.trans bare.symm

end Keyed

/-- A literal stands for the text that it denotes, whatever characters this has in it: as an item, as a
location, and as a key. A key that could be written without quotes may as well be written as a
literal. -/
theorem quoted_strings_decode_exactly (text : String) :
    (∃ raw, Json.Denotes text.toList raw) ∧ ∀ raw, Json.Denotes text.toList raw →
      outcome (conditions (assigned "item" (quotation raw))) = .ok [{ item := some text }] ∧
      outcome (conditions (assigned "location" (quotation raw))) =
        .ok [{ location := some text }] ∧
      (∀ value tokens bound, Lexes (value ++ ['}']) (tokens ++ [.closeBrace]) →
        Derives (.value bound) tokens → Spells (keyed raw value) [[(text, bound)]]) ∧
      (IsWord text.toList → ∀ value, accepted (keyed raw value) = accepted (assigned text value)) := by
  refine ⟨Json.exists_denotes text.toList, fun raw denotes => ?_⟩
  have isRaw := isRaw_of_denotes denotes
  have stands := unescape_of_denotes denotes
  exact ⟨conditions_string (by decide) isRaw stands describes_item,
    conditions_string (by decide) isRaw stands describes_location,
    fun _ _ _ lexed derived => spells_keyed denotes lexed derived,
    fun isWord value => accepted_keyed denotes isWord value⟩

/-- A surrogate pair, an escaped quote and marks of lists and objects; and a key with an escape in
it. -/
theorem quoted_strings_decode_exactly_of_escapes :
    let raw := "\\uD83d\\ude00\\\"=,\x7b[".toList
    let key := "it\\u0065m".toList
    outcome (conditions (assigned "item" (quotation raw))) =
        .ok [{ item := some "😀\"=,\x7b[" }] ∧
      accepted (keyed key "apple".toList) = accepted (assigned "item" "apple".toList) := by
  intro raw key
  have high : Json.Hex (0xD800 + ('😀'.toNat - 0x10000) / 0x400) "D83d".toList := by
    refine .four (a := 0xD) (b := 0x8) (c := 0x3) (d := 0xD) ?_ ?_ ?_ ?_ ?_ <;> decide +kernel
  have low : Json.Hex (0xDC00 + ('😀'.toNat - 0x10000) % 0x400) "de00".toList := by
    refine .four (a := 0xD) (b := 0xE) (c := 0x0) (d := 0x0) ?_ ?_ ?_ ?_ ?_ <;> decide +kernel
  have letter : Json.Hex 'e'.toNat "0065".toList := by
    refine .four (a := 0x0) (b := 0x0) (c := 0x6) (d := 0x5) ?_ ?_ ?_ ?_ ?_ <;> decide +kernel
  have denotes : Json.Denotes "😀\"=,\x7b[".toList raw := by
    refine .pair (by decide) high low (.mark (by decide) ?_)
    iterate 4 refine .plain (by decide) (by decide) (by decide) ?_
    exact .nil
  have named : Json.Denotes "item".toList key := by
    iterate 2 refine .plain (by decide) (by decide) (by decide) ?_
    exact .hex letter (.plain (by decide) (by decide) (by decide) .nil)
  obtain ⟨-, decodes⟩ := quoted_strings_decode_exactly "😀\"=,\x7b["
  obtain ⟨-, names⟩ := quoted_strings_decode_exactly "item"
  obtain ⟨-, -, -, same⟩ := names key named
  exact ⟨(decodes raw denotes).1, same (isWord_of_mem_fieldNames (by decide)) _⟩

end Targeting.Item
