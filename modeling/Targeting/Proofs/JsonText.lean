import Targeting.Proofs.Confinement
import Targeting.Proofs.LongNumber

/-!
# Messages as json text

A message may be given decoded or as json text. The json standard has three words,
and numbers of any length; the reader has three more words, and no whole numbers
with too many digits. Here both grammars are one relation over the words.

## Main results

`Json.spells_or_reachesLong`: a text over words that the reader has is read as the
value that it is composed of, unless it comes to a number with too many digits.
`Renderer.json_texts_render_as_values`: what a text renders to, by what it is json
of.

## Proof strategy

What is composed is derived in the grammar of the reader, or reading it comes to a
long number; this is an induction over the composition (`derives_or_long`).
-/
namespace Targeting.Json

/-! ### Two grammars -/

/-- The words of the standard. -/
def standardWords : List (String × Json) :=
  [("null", .null), ("true", .flag true), ("false", .flag false)]

/-- The numbers, of any length. -/
inductive Literal : Json → List Char → Prop where
  | whole (negative : Bool) {digits : List Char} (whole : Whole digits) :
      Literal (.whole (integerOf negative digits)) (minus negative ++ digits)
  | decimal (negative : Bool) {digits places power : List Char} {fraction : Option (List Char)}
      {exponent : Option Int} (whole : Whole digits) (broken : Fraction fraction places)
      (raised : Exponent exponent power) (long : fraction ≠ none ∨ exponent ≠ none) :
      Literal (.decimal (decimalOf negative digits fraction exponent))
        (minus negative ++ (digits ++ (places ++ power)))

/-- The productions of json over some words. -/
inductive Composes (names : List (String × Json)) : Form → List Char → Prop where
  | word {word : String} {value : Json} (known : (word, value) ∈ names) :
      Composes names (.value value) word.toList
  | text {units : List Nat} {literal : List Char} (spelled : Units units literal) :
      Composes names (.value (.text (textOf units))) ('"' :: (literal ++ ['"']))
  | number {value : Json} {cs : List Char} (number : Literal value cs) :
      Composes names (.value value) cs
  | emptyList {gap : List Char} (blank : Gap gap) :
      Composes names (.value (.list [])) ('[' :: (gap ++ [']']))
  | list {items : List Json} {gap cs : List Char} (blank : Gap gap)
      (inner : Composes names (.items items) cs) :
      Composes names (.value (.list items)) ('[' :: (gap ++ (cs ++ [']'])))
  | emptyObject {gap : List Char} (blank : Gap gap) :
      Composes names (.value (.object [])) ('{' :: (gap ++ ['}']))
  | object {fields : List (String × Json)} {gap cs : List Char} (blank : Gap gap)
      (inner : Composes names (.fields fields) cs) :
      Composes names (.value (.object (Keyed.ofPairs fields))) ('{' :: (gap ++ (cs ++ ['}'])))
  | item {value : Json} {cs gap : List Char} (first : Composes names (.value value) cs)
      (blank : Gap gap) : Composes names (.items [value]) (cs ++ gap)
  | items {value : Json} {items : List Json} {cs before after others : List Char}
      (first : Composes names (.value value) cs) (before_gap : Gap before) (after_gap : Gap after)
      (rest : Composes names (.items items) others) :
      Composes names (.items (value :: items)) (cs ++ (before ++ ',' :: (after ++ others)))
  | field {key : String} {value : Json} {front cs gap : List Char} (named : Key key front)
      (first : Composes names (.value value) cs) (blank : Gap gap) :
      Composes names (.fields [(key, value)]) (front ++ (cs ++ gap))
  | fields {key : String} {value : Json} {fields : List (String × Json)}
      {front cs before after others : List Char} (named : Key key front)
      (first : Composes names (.value value) cs) (before_gap : Gap before) (after_gap : Gap after)
      (rest : Composes names (.fields fields) others) :
      Composes names (.fields ((key, value) :: fields))
        (front ++ (cs ++ (before ++ ',' :: (after ++ others))))

/-- The text is the value with blanks around it, over some words. -/
def IsTextOf (names : List (String × Json)) (text : List Char) (value : Json) : Prop :=
  ∃ before cs after, text = before ++ (cs ++ after) ∧ Gap before ∧ Gap after ∧
    Composes names (.value value) cs

/-! ### What is composed is read or refused -/

def Form.stretch : Form → Stretch
  | .value _ => .value
  | .items _ => .items
  | .fields _ => .fields

/-- Reading the stretch comes to a whole number with too many digits, whatever ends it. -/
def Form.IsLong (form : Form) (cs : List Char) : Prop :=
  ∃ count, ∀ rest, Ends rest → Reaches count form.stretch (cs ++ rest)

theorem numeral_or_long {value : Json} {cs : List Char} (number : Literal value cs) :
    Numeral value cs ∨ (Form.value value).IsLong cs := by
  cases number with
  | decimal negative whole broken raised long => exact .inl (.decimal negative whole broken raised long)
  | @whole negative digits whole =>
    by_cases short : digits.length ≤ Number.maxDigits
    · exact .inl (.whole negative whole short)
    · refine .inr ⟨digits.length, fun rest ends => .number ?_⟩
      exact ⟨negative, digits, rest, List.append_assoc _ _ _, whole, ends, rfl, Nat.lt_of_not_le short⟩

theorem literal_of_numeral {value : Json} {cs : List Char} (numeral : Numeral value cs) :
    Literal value cs := by
  cases numeral with
  | whole negative whole _ => exact .whole negative whole
  | decimal negative whole broken raised long => exact .decimal negative whole broken raised long

theorem composes_of_derives {form : Form} {cs : List Char} (derived : Derives form cs) :
    Composes words form cs := by
  induction derived with
  | word known => exact .word known
  | text spelled => exact .text spelled
  | number numeral => exact .number (literal_of_numeral numeral)
  | emptyList blank => exact .emptyList blank
  | list blank _ inner => exact .list blank inner
  | emptyObject blank => exact .emptyObject blank
  | object blank _ inner => exact .object blank inner
  | item _ blank first => exact .item first blank
  | items _ before_gap after_gap _ first rest => exact .items first before_gap after_gap rest
  | field named _ blank first => exact .field named first blank
  | fields named _ before_gap after_gap _ first rest =>
    exact .fields named first before_gap after_gap rest

section Long

variable {value : Json} {items : List Json} {fields : List (String × Json)} {key : String}
  {front gap cs before after others : List Char}

theorem isLong_list (blank : Gap gap) (long : (Form.items items).IsLong cs) :
    (Form.value (.list items)).IsLong ('[' :: (gap ++ (cs ++ [']']))) := by
  obtain ⟨count, reaches⟩ := long
  refine ⟨count, fun rest _ => ?_⟩
  rw [List.cons_append, List.append_assoc, List.append_assoc]
  exact .list blank (reaches (']' :: rest) (ends_cons (by decide) rest))

theorem isLong_object (blank : Gap gap) (long : (Form.fields fields).IsLong cs) :
    (Form.value (.object (Keyed.ofPairs fields))).IsLong ('{' :: (gap ++ (cs ++ ['}']))) := by
  obtain ⟨count, reaches⟩ := long
  refine ⟨count, fun rest _ => ?_⟩
  rw [List.cons_append, List.append_assoc, List.append_assoc]
  exact .object blank (reaches ('}' :: rest) (ends_cons (by decide) rest))

theorem isLong_item (long : (Form.value value).IsLong cs) (blank : Gap gap) :
    (Form.items [value]).IsLong (cs ++ gap) := by
  obtain ⟨count, reaches⟩ := long
  refine ⟨count, fun rest ends => ?_⟩
  rw [List.append_assoc]
  exact .item (reaches (gap ++ rest) (ends_gap_append blank ends))

/-- The number is in the first item, and the comma ends it. -/
theorem isLong_first_item (long : (Form.value value).IsLong cs) (before_gap : Gap before) :
    (Form.items (value :: items)).IsLong (cs ++ (before ++ ',' :: (after ++ others))) := by
  obtain ⟨count, reaches⟩ := long
  refine ⟨count, fun rest _ => ?_⟩
  rw [List.append_assoc, List.append_assoc]
  exact .item (reaches _ (ends_gap_append before_gap (ends_cons (by decide) _)))

theorem isLong_items (first : Derives (.value value) cs) (before_gap : Gap before)
    (after_gap : Gap after) (long : (Form.items items).IsLong others) :
    (Form.items (value :: items)).IsLong (cs ++ (before ++ ',' :: (after ++ others))) := by
  obtain ⟨count, reaches⟩ := long
  refine ⟨count, fun rest ends => ?_⟩
  rw [List.append_assoc, List.append_assoc, List.cons_append, List.append_assoc]
  exact .items first before_gap after_gap (reaches rest ends)

theorem isLong_field (named : Key key front) (long : (Form.value value).IsLong cs) (blank : Gap gap) :
    (Form.fields [(key, value)]).IsLong (front ++ (cs ++ gap)) := by
  obtain ⟨count, reaches⟩ := long
  refine ⟨count, fun rest ends => ?_⟩
  rw [List.append_assoc, List.append_assoc]
  exact .field named (reaches (gap ++ rest) (ends_gap_append blank ends))

theorem isLong_first_field (named : Key key front) (long : (Form.value value).IsLong cs)
    (before_gap : Gap before) : (Form.fields ((key, value) :: fields)).IsLong
      (front ++ (cs ++ (before ++ ',' :: (after ++ others)))) := by
  obtain ⟨count, reaches⟩ := long
  refine ⟨count, fun rest _ => ?_⟩
  rw [List.append_assoc, List.append_assoc, List.append_assoc]
  exact .field named (reaches _ (ends_gap_append before_gap (ends_cons (by decide) _)))

theorem isLong_fields (named : Key key front) (first : Derives (.value value) cs)
    (before_gap : Gap before) (after_gap : Gap after) (long : (Form.fields fields).IsLong others) :
    (Form.fields ((key, value) :: fields)).IsLong
      (front ++ (cs ++ (before ++ ',' :: (after ++ others)))) := by
  obtain ⟨count, reaches⟩ := long
  refine ⟨count, fun rest ends => ?_⟩
  rw [List.append_assoc, List.append_assoc, List.append_assoc, List.cons_append, List.append_assoc]
  exact .fields named first before_gap after_gap (reaches rest ends)

end Long

/-- What is composed with words that the reader has is derived, or it is long. -/
theorem derives_or_long {names : List (String × Json)} (known : names ⊆ words) {form : Form}
    {cs : List Char} (composed : Composes names form cs) : Derives form cs ∨ form.IsLong cs := by
  induction composed with
  | word named => exact .inl (.word (known named))
  | text spelled => exact .inl (.text spelled)
  | number number => exact (numeral_or_long number).imp_left .number
  | emptyList blank => exact .inl (.emptyList blank)
  | list blank _ inner => exact inner.imp (.list blank) (isLong_list blank)
  | emptyObject blank => exact .inl (.emptyObject blank)
  | object blank _ inner => exact inner.imp (.object blank) (isLong_object blank)
  | item _ blank first =>
    exact first.imp (fun derived => .item derived blank) fun long => isLong_item long blank
  | items _ before_gap after_gap _ first rest =>
    rcases first with derived | long
    · exact rest.imp (.items derived before_gap after_gap) (isLong_items derived before_gap after_gap)
    · exact .inr (isLong_first_item long before_gap)
  | field named _ blank first =>
    exact first.imp (fun derived => .field named derived blank) fun long => isLong_field named long blank
  | fields named _ before_gap after_gap _ first rest =>
    rcases first with derived | long
    · exact rest.imp (.fields named derived before_gap after_gap)
        (isLong_fields named derived before_gap after_gap)
    · exact .inr (isLong_first_field named long before_gap)

/-! ### Texts -/

/-- A text over words that the reader has is read as its value, or reading it comes to a number with
too many digits. -/
theorem spells_or_reachesLong {names : List (String × Json)} (known : names ⊆ words)
    {text : List Char} {value : Json} (composed : IsTextOf names text value) :
    Spells text value ∨ ∃ count, ReachesLong count text := by
  obtain ⟨before, cs, after, same, before_gap, after_gap, composed⟩ := composed
  rcases derives_or_long known composed with derived | ⟨count, reaches⟩
  · exact .inl ⟨before, cs, after, same, before_gap, after_gap, derived⟩
  · have ends : Ends after := by simpa using ends_gap_append after_gap ends_nil
    exact .inr ⟨count, before, cs ++ after, same, before_gap, reaches after ends⟩

theorem isTextOf_of_spells {text : List Char} {value : Json} (spelled : Spells text value) :
    IsTextOf words text value := by
  obtain ⟨before, cs, after, same, before_gap, after_gap, derived⟩ := spelled
  exact ⟨before, cs, after, same, before_gap, after_gap, composes_of_derives derived⟩

theorem standardWords_subset : standardWords ⊆ words := by
  intro entry member
  simp only [standardWords, List.mem_cons, List.not_mem_nil, or_false] at member
  rcases member with rfl | rfl | rfl <;> simp [words]

/-- By itself a null or a text is standard json. -/
theorem isTextOf_standardWords {text : List Char} {value : Json}
    (composed : IsTextOf words text value)
    (single : value = .null ∨ ∃ content, value = .text content) :
    IsTextOf standardWords text value := by
  obtain ⟨before, cs, after, same, before_gap, after_gap, composed⟩ := composed
  refine ⟨before, cs, after, same, before_gap, after_gap, ?_⟩
  rcases single with rfl | ⟨content, rfl⟩
  -- None of the three words beyond the standard is a null or a text.
  · cases composed with
    | word known => exact .word (by simpa [words, standardWords] using known)
    | number number => cases number
  · cases composed with
    | word known => simp [words] at known
    | text spelled => exact .text spelled
    | number number => cases number

end Targeting.Json

namespace Targeting.Renderer

open Json

variable {r : Renderer}

theorem render_of_decoded_value {value : Json} (present : value ≠ .null)
    (other : ∀ content, value ≠ .text content) :
    r.render value = ExceptT.lift (r.renderDecoded value) := by
  cases value with
  | null => exact absurd rfl present
  | text content => exact absurd rfl (other content)
  | _ => rfl

/-- Text that is no json is stripped. -/
theorem render_text_of_malformed {text : String} (refused : Json.parse text = .error .malformed) :
    r.render (.text text) = pure (r.strip text) := by
  by_cases empty : text.isEmpty
  · -- An empty text is returned unread, and there is nothing in it to strip.
    rw [String.isEmpty_iff.mp empty, strip_of_plain rfl]
    rfl
  · rw [render, if_neg empty, refused]

theorem render_text_of_long {text : String} {count : Nat} (long : IsTooLong count (.text text)) :
    r.render (.text text) = throw ⟨count⟩ := by
  obtain ⟨_, same, reaches⟩ := long
  cases same
  have refused := parse_eq_error_iff.mpr reaches
  have filled : ¬ text.isEmpty := by
    intro empty
    rw [String.isEmpty_iff.mp empty] at refused
    cases refused
  rw [render, if_neg filled, refused]

/-- A null has no text of its own, but one that is read from json text is spelled out. -/
theorem renderDecoded_null : r.renderDecoded .null = pure "None" := by
  have spelled : r.strip (Json.display .null) = "None" := strip_of_plain (by decide +kernel)
  rw [renderDecoded, spelled]
  all_goals exact nofun

/-- Json text of anything but a null or a text renders as its value does, and text that is no json is
stripped. A null that is given as text is spelled out, text that is json only with the three words
which the standard does not have is rendered as what they stand for, and text that comes to a number
with too many digits is refused. -/
theorem json_texts_render_as_values (r : Renderer) (text : String) :
    (∀ count, IsTooLong count (.text text) → r.render (.text text) = throw ⟨count⟩) ∧
    ((∀ count, ¬ IsTooLong count (.text text)) →
      (∀ value, IsTextOf standardWords text.toList value → value ≠ .null →
        (∀ content, value ≠ .text content) → r.render (.text text) = r.render value) ∧
      (IsTextOf standardWords text.toList .null →
        r.render (.text text) = pure "None" ∧ r.render .null = pure "") ∧
      ((∀ value, ¬ IsTextOf standardWords text.toList value) →
        (∀ value, IsTextOf words text.toList value → r.render (.text text) = r.render value) ∧
        ((∀ value, ¬ IsTextOf words text.toList value) →
          r.render (.text text) = pure (r.strip text)))) := by
  refine ⟨fun count => render_text_of_long, fun readable => ?_⟩
  -- Without a long number each text over words of the reader is read as its value.
  have parsed {names : List (String × Json)} (known : names ⊆ words) {value : Json}
      (composed : IsTextOf names text.toList value) : Json.parse text = .ok value := by
    rcases spells_or_reachesLong known composed with spelled | ⟨count, reaches⟩
    · exact parse_eq_ok_iff.mpr spelled
    · exact absurd ⟨text, rfl, reaches⟩ (readable count)
  refine ⟨?_, ?_, ?_⟩
  · intro value standard present other
    rw [render_text_of_parse (parsed standardWords_subset standard),
      render_of_decoded_value present other]
  · intro standard
    rw [render_text_of_parse (parsed standardWords_subset standard), renderDecoded_null]
    exact ⟨rfl, rfl⟩
  · intro nonstandard
    refine ⟨fun value composed => ?_, fun uncomposed => ?_⟩
    · have single (one : value = .null ∨ ∃ content, value = .text content) : False :=
        nonstandard value (isTextOf_standardWords composed one)
      rw [render_text_of_parse (parsed (List.Subset.refl _) composed),
        render_of_decoded_value (fun null => single (.inl null)) fun content same =>
          single (.inr ⟨content, same⟩)]
    · rcases outcome : Json.parse text with (_ | digits) | value
      · exact render_text_of_malformed outcome
      · exact absurd ⟨text, rfl, parse_eq_error_iff.mp outcome⟩ (readable digits)
      · exact absurd (isTextOf_of_spells (parse_eq_ok_iff.mp outcome)) (uncomposed value)

/-- A null is shown as a word if it comes as json text, and not at all if it does not. -/
theorem json_texts_render_as_values_of_null :
    let r : Renderer := {}
    IsTextOf standardWords "null".toList .null ∧ (∀ count, ¬ IsTooLong count (.text "null")) ∧
      r.render (.text "null") = pure "None" ∧ r.rendered (.text "null") {} ≠ r.rendered .null {} := by
  intro r
  have blank : Gap [] := List.forall_mem_nil _
  have spelled : Spells "null".toList .null :=
    ⟨[], "null".toList, [], by simp, blank, blank, .word (by simp [words])⟩
  have standard : IsTextOf standardWords "null".toList .null :=
    isTextOf_standardWords (isTextOf_of_spells spelled) (.inl rfl)
  have readable (count : Nat) : ¬ IsTooLong count (.text "null") := by
    rintro ⟨_, same, reaches⟩
    cases same
    have refused := parse_eq_error_iff.mpr reaches
    rw [parse_eq_ok_iff.mpr spelled] at refused
    cases refused
  obtain ⟨named, hidden⟩ := ((json_texts_render_as_values r "null").2 readable).2.1 standard
  refine ⟨standard, readable, named, ?_⟩
  rw [rendered, rendered, named, hidden]
  intro same
  exact absurd (Except.ok.inj same : "None" = "") (by decide)

end Targeting.Renderer
