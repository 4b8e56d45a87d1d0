import Targeting.Proofs.JsonLexicon
import Targeting.Proofs.Outcome

/-!
# The grammar of json

The grammar as a relation between characters and what they are read as, and the
reader as its decision procedure. The grammar has no whole numbers with too many
digits; a second relation says where reading a text comes to one.

## Main results

`parse_eq_ok_iff`: a text is read as the value that it spells.
`parse_eq_error_iff`: reading is refused for the digits of a number if it comes to
one that has too many.

## Proof strategy

Every reader is given fuel. What it reads or refuses with any fuel is derived, by
induction on the fuel; whatever is derived is read or refused with two steps for
each character, by induction on the derivation.
-/
namespace Targeting.Json

/-- What a stretch of text is read as. -/
inductive Form where
  | value (value : Json)
  | items (items : List Json)
  | fields (fields : List (String × Json))

/-- The productions of the grammar. -/
inductive Derives : Form → List Char → Prop where
  | word {word : String} {value : Json} (known : (word, value) ∈ words) :
      Derives (.value value) word.toList
  | text {units : List Nat} {literal : List Char} (spelled : Units units literal) :
      Derives (.value (.text (textOf units))) ('"' :: (literal ++ ['"']))
  | number {value : Json} {cs : List Char} (numeral : Numeral value cs) : Derives (.value value) cs
  | emptyList {gap : List Char} (blank : Gap gap) : Derives (.value (.list [])) ('[' :: (gap ++ [']']))
  | list {items : List Json} {gap cs : List Char} (blank : Gap gap) (inner : Derives (.items items) cs) :
      Derives (.value (.list items)) ('[' :: (gap ++ (cs ++ [']'])))
  | emptyObject {gap : List Char} (blank : Gap gap) :
      Derives (.value (.object [])) ('{' :: (gap ++ ['}']))
  | object {fields : List (String × Json)} {gap cs : List Char} (blank : Gap gap)
      (inner : Derives (.fields fields) cs) :
      Derives (.value (.object (Keyed.ofPairs fields))) ('{' :: (gap ++ (cs ++ ['}'])))
  | item {value : Json} {cs gap : List Char} (first : Derives (.value value) cs) (blank : Gap gap) :
      Derives (.items [value]) (cs ++ gap)
  | items {value : Json} {items : List Json} {cs before after others : List Char}
      (first : Derives (.value value) cs) (before_gap : Gap before) (after_gap : Gap after)
      (rest : Derives (.items items) others) :
      Derives (.items (value :: items)) (cs ++ (before ++ ',' :: (after ++ others)))
  | field {key : String} {value : Json} {front cs gap : List Char} (named : Key key front)
      (first : Derives (.value value) cs) (blank : Gap gap) :
      Derives (.fields [(key, value)]) (front ++ (cs ++ gap))
  | fields {key : String} {value : Json} {fields : List (String × Json)}
      {front cs before after others : List Char} (named : Key key front)
      (first : Derives (.value value) cs) (before_gap : Gap before) (after_gap : Gap after)
      (rest : Derives (.fields fields) others) :
      Derives (.fields ((key, value) :: fields)) (front ++ (cs ++ (before ++ ',' :: (after ++ others))))

/-- The text is the value with blanks around it. -/
def Spells (text : List Char) (value : Json) : Prop :=
  ∃ before cs after, text = before ++ (cs ++ after) ∧ Gap before ∧ Gap after ∧
    Derives (.value value) cs

inductive Stretch where
  | value
  | items
  | fields

/-- Reading the text comes to a whole number with that many digits, which are too many. What is
read before the number is json, and what stands behind it does not matter. -/
inductive Reaches (count : Nat) : Stretch → List Char → Prop where
  | number {cs : List Char} (long : BeginsLong count cs) : Reaches count .value cs
  | list {gap cs : List Char} (blank : Gap gap) (inner : Reaches count .items cs) :
      Reaches count .value ('[' :: (gap ++ cs))
  | object {gap cs : List Char} (blank : Gap gap) (inner : Reaches count .fields cs) :
      Reaches count .value ('{' :: (gap ++ cs))
  | item {cs : List Char} (here : Reaches count .value cs) : Reaches count .items cs
  | items {value : Json} {used before after cs : List Char} (first : Derives (.value value) used)
      (before_gap : Gap before) (after_gap : Gap after) (rest : Reaches count .items cs) :
      Reaches count .items (used ++ (before ++ ',' :: (after ++ cs)))
  | field {key : String} {front cs : List Char} (named : Key key front)
      (here : Reaches count .value cs) : Reaches count .fields (front ++ cs)
  | fields {key : String} {value : Json} {front used before after cs : List Char}
      (named : Key key front) (first : Derives (.value value) used) (before_gap : Gap before)
      (after_gap : Gap after) (rest : Reaches count .fields cs) :
      Reaches count .fields (front ++ (used ++ (before ++ ',' :: (after ++ cs))))

def ReachesLong (count : Nat) (text : List Char) : Prop :=
  ∃ gap cs, text = gap ++ cs ∧ Gap gap ∧ Reaches count .value cs

/-! ### What is read is derived -/

/-- What the readers read and refuse with some fuel. -/
structure Sound (fuel : Nat) : Prop where
  value : ∀ {cs rest : List Char} {value : Json}, readValue fuel cs = .ok (value, rest) →
    ∃ used, cs = used ++ rest ∧ Derives (.value value) used
  items : ∀ {cs rest : List Char} {items : List Json}, readItems fuel cs = .ok (items, rest) →
    ∃ used, cs = used ++ ']' :: rest ∧ Derives (.items items) used
  fields : ∀ {cs rest : List Char} {fields : List (String × Json)},
    readFields fuel cs = .ok (fields, rest) →
      ∃ used, cs = used ++ '}' :: rest ∧ Derives (.fields fields) used
  longValue : ∀ {cs : List Char} {count : Nat},
    readValue fuel cs = .error (.tooManyDigits count) → Reaches count .value cs
  longItems : ∀ {cs : List Char} {count : Nat},
    readItems fuel cs = .error (.tooManyDigits count) → Reaches count .items cs
  longFields : ∀ {cs : List Char} {count : Nat},
    readFields fuel cs = .error (.tooManyDigits count) → Reaches count .fields cs

section Soundness

variable {fuel count : Nat} {cs rest : List Char}

theorem derives_of_readValue (sound : Sound fuel) {value : Json}
    (read : readValue (fuel + 1) cs = .ok (value, rest)) :
    ∃ used, cs = used ++ rest ∧ Derives (.value value) used := by
  unfold readValue at read
  split at read
  next behind =>
    split at read
    next content tail literal =>
      cases read
      obtain ⟨units, inside, rfl, spelled, rfl⟩ := readString_eq_some_iff.mp literal
      exact ⟨'"' :: (inside ++ ['"']), by simp, .text spelled⟩
    next => cases read
  next behind =>
    obtain ⟨gap, blank, same⟩ := exists_gap behind
    split at read
    next tail closed =>
      cases read
      refine ⟨'[' :: (gap ++ [']']), ?_, .emptyList blank⟩
      rw [same, closed]
      simp
    next =>
      replace read := (bind_eq_ok_iff _ _ _).mp read
      obtain ⟨⟨items, tail⟩, hit, read⟩ := read
      cases read
      obtain ⟨used, split, inner⟩ := sound.items hit
      refine ⟨'[' :: (gap ++ (used ++ [']'])), ?_, .list blank inner⟩
      rw [same, split]
      simp
  next behind =>
    obtain ⟨gap, blank, same⟩ := exists_gap behind
    split at read
    next tail closed =>
      cases read
      refine ⟨'{' :: (gap ++ ['}']), ?_, .emptyObject blank⟩
      rw [same, closed]
      simp
    next =>
      replace read := (bind_eq_ok_iff _ _ _).mp read
      obtain ⟨⟨fields, tail⟩, hit, read⟩ := read
      cases read
      obtain ⟨used, split, inner⟩ := sound.fields hit
      refine ⟨'{' :: (gap ++ (used ++ ['}'])), ?_, .object blank inner⟩
      rw [same, split]
      simp
  next =>
    -- Neither a text nor a list nor an object: a word if one is found, else a number.
    split at read
    next found word =>
      cases read
      obtain ⟨word, known, same⟩ := exists_word_of_readWord word
      exact ⟨word.toList, same, .word known⟩
    next =>
      obtain ⟨used, same, numeral⟩ := numeral_of_readNumber read
      exact ⟨used, same, .number numeral⟩

theorem derives_of_readItems (sound : Sound fuel) {items : List Json}
    (read : readItems (fuel + 1) cs = .ok (items, rest)) :
    ∃ used, cs = used ++ ']' :: rest ∧ Derives (.items items) used := by
  unfold readItems at read
  replace read := (bind_eq_ok_iff _ _ _).mp read
  obtain ⟨⟨item, afterItem⟩, hit, read⟩ := read
  obtain ⟨used, rfl, value⟩ := sound.value hit
  obtain ⟨before, before_gap, same⟩ := exists_gap afterItem
  -- Behind the item the list ends or goes on, or the text is no json.
  simp only at read
  split at read
  next tail closed =>
    cases read
    refine ⟨used ++ before, ?_, .item value before_gap⟩
    rw [same, closed, List.append_assoc]
  next next comma =>
    replace read := (bind_eq_ok_iff _ _ _).mp read
    obtain ⟨⟨others, tail⟩, more, read⟩ := read
    cases read
    obtain ⟨after, after_gap, same'⟩ := exists_gap next
    obtain ⟨behind, split, later⟩ := sound.items more
    refine ⟨used ++ (before ++ ',' :: (after ++ behind)), ?_, .items value before_gap after_gap later⟩
    rw [same, comma, same', split]
    simp
  next => cases read

theorem derives_of_readFields (sound : Sound fuel) {fields : List (String × Json)}
    (read : readFields (fuel + 1) cs = .ok (fields, rest)) :
    ∃ used, cs = used ++ '}' :: rest ∧ Derives (.fields fields) used := by
  unfold readFields at read
  split at read
  next => cases read
  next key start found =>
    obtain ⟨front, rfl, named⟩ := exists_key_of_readKey found
    replace read := (bind_eq_ok_iff _ _ _).mp read
    obtain ⟨⟨value, afterValue⟩, hit, read⟩ := read
    obtain ⟨used, rfl, value⟩ := sound.value hit
    obtain ⟨before, before_gap, same⟩ := exists_gap afterValue
    simp only at read
    split at read
    next tail closed =>
      cases read
      refine ⟨front ++ (used ++ before), ?_, .field named value before_gap⟩
      rw [same, closed]
      simp
    next next comma =>
      replace read := (bind_eq_ok_iff _ _ _).mp read
      obtain ⟨⟨others, tail⟩, more, read⟩ := read
      cases read
      obtain ⟨after, after_gap, same'⟩ := exists_gap next
      obtain ⟨behind, split, later⟩ := sound.fields more
      refine ⟨front ++ (used ++ (before ++ ',' :: (after ++ behind))), ?_,
        .fields named value before_gap after_gap later⟩
      rw [same, comma, same', split]
      simp
    next => cases read

theorem reaches_of_readValue (sound : Sound fuel)
    (read : readValue (fuel + 1) cs = .error (.tooManyDigits count)) : Reaches count .value cs := by
  unfold readValue at read
  split at read
  next => split at read <;> cases read
  next behind =>
    obtain ⟨gap, blank, same⟩ := exists_gap behind
    split at read
    next => cases read
    next =>
      replace read := (bind_eq_error_iff _ _ _).mp read
      rcases read with refused | ⟨_, -, read⟩
      · rw [same]
        exact .list blank (sound.longItems refused)
      · cases read
  next behind =>
    obtain ⟨gap, blank, same⟩ := exists_gap behind
    split at read
    next => cases read
    next =>
      replace read := (bind_eq_error_iff _ _ _).mp read
      rcases read with refused | ⟨_, -, read⟩
      · rw [same]
        exact .object blank (sound.longFields refused)
      · cases read
  next =>
    split at read
    next => cases read
    next => exact .number (beginsLong_of_readNumber read)

theorem reaches_of_readItems (sound : Sound fuel)
    (read : readItems (fuel + 1) cs = .error (.tooManyDigits count)) : Reaches count .items cs := by
  unfold readItems at read
  -- The number is in this item, or this item is read and the number is in a later one.
  replace read := (bind_eq_error_iff _ _ _).mp read
  rcases read with refused | ⟨⟨item, afterItem⟩, hit, read⟩
  · exact .item (sound.longValue refused)
  · obtain ⟨used, rfl, value⟩ := sound.value hit
    obtain ⟨before, before_gap, same⟩ := exists_gap afterItem
    simp only at read
    split at read
    next => cases read
    next next comma =>
      obtain ⟨after, after_gap, same'⟩ := exists_gap next
      replace read := (bind_eq_error_iff _ _ _).mp read
      rcases read with refused | ⟨_, -, read⟩
      · rw [same, comma, same']
        exact .items value before_gap after_gap (sound.longItems refused)
      · cases read
    next => cases read

theorem reaches_of_readFields (sound : Sound fuel)
    (read : readFields (fuel + 1) cs = .error (.tooManyDigits count)) : Reaches count .fields cs := by
  unfold readFields at read
  split at read
  next => cases read
  next key start found =>
    obtain ⟨front, rfl, named⟩ := exists_key_of_readKey found
    replace read := (bind_eq_error_iff _ _ _).mp read
    rcases read with refused | ⟨⟨value, afterValue⟩, hit, read⟩
    · exact .field named (sound.longValue refused)
    · obtain ⟨used, rfl, value⟩ := sound.value hit
      obtain ⟨before, before_gap, same⟩ := exists_gap afterValue
      simp only at read
      split at read
      next => cases read
      next next comma =>
        obtain ⟨after, after_gap, same'⟩ := exists_gap next
        replace read := (bind_eq_error_iff _ _ _).mp read
        rcases read with refused | ⟨_, -, read⟩
        · rw [same, comma, same']
          exact .fields named value before_gap after_gap (sound.longFields refused)
        · cases read
      next => cases read

theorem sound (fuel : Nat) : Sound fuel := by
  induction fuel with
  -- Without fuel nothing is read, and what is refused is not refused for a number.
  | zero => constructor <;> exact nofun
  | succ fuel ih =>
    exact ⟨derives_of_readValue ih, derives_of_readItems ih, derives_of_readFields ih,
      reaches_of_readValue ih, reaches_of_readItems ih, reaches_of_readFields ih⟩

end Soundness

/-! ### What is derived is read -/

/-- A value begins with a character that is neither blank nor the end of a list. -/
def Begins (cs : List Char) : Prop := ∃ c rest, cs = c :: rest ∧ isGap c = false ∧ c ≠ ']'

theorem begins_append {cs : List Char} (begins : Begins cs) (rest : List Char) : Begins (cs ++ rest) := by
  obtain ⟨c, others, rfl, solid⟩ := begins
  exact ⟨c, others ++ rest, rfl, solid⟩

theorem length_pos_of_begins {cs : List Char} (begins : Begins cs) : 0 < cs.length := by
  obtain ⟨c, rest, rfl, -⟩ := begins
  exact Nat.succ_pos _

theorem skipGaps_of_begins {cs : List Char} (begins : Begins cs) : skipGaps cs = cs := by
  obtain ⟨c, rest, rfl, solid, -⟩ := begins
  exact skipGaps_cons solid rest

theorem begins_of_beginsNumber {cs : List Char} (begins : BeginsNumber cs) : Begins cs := by
  obtain ⟨negative, unsigned, rfl, d, rest, rfl, digit⟩ := begins
  cases negative with
  | true => exact ⟨'-', d :: rest, rfl, rfl, by decide⟩
  | false =>
    refine ⟨d, rest, rfl, isGap_of_isAsciiDigit digit, ?_⟩
    rintro rfl
    cases digit

theorem begins_of_word {word : String} {value : Json} (known : (word, value) ∈ words) :
    Begins word.toList := by
  simp only [words, List.mem_cons, List.not_mem_nil, or_false, Prod.mk.injEq] at known
  rcases known with ⟨rfl, -⟩ | ⟨rfl, -⟩ | ⟨rfl, -⟩ | ⟨rfl, -⟩ | ⟨rfl, -⟩ | ⟨rfl, -⟩ <;>
    exact ⟨_, _, rfl, rfl, by decide⟩

theorem begins_of_value {value : Json} {cs : List Char} (derived : Derives (.value value) cs) :
    Begins cs := by
  cases derived with
  | word known => exact begins_of_word known
  | text _ => exact ⟨_, _, rfl, rfl, by decide⟩
  | number numeral =>
    have begins := beginsNumber_of_numeral numeral []
    rw [List.append_nil] at begins
    exact begins_of_beginsNumber begins
  | emptyList _ => exact ⟨_, _, rfl, rfl, by decide⟩
  | list _ _ => exact ⟨_, _, rfl, rfl, by decide⟩
  | emptyObject _ => exact ⟨_, _, rfl, rfl, by decide⟩
  | object _ _ => exact ⟨_, _, rfl, rfl, by decide⟩

theorem begins_of_items {items : List Json} {cs : List Char} (derived : Derives (.items items) cs) :
    Begins cs := by
  cases derived with
  | item first _ => exact begins_append (begins_of_value first) _
  | items first _ _ _ => exact begins_append (begins_of_value first) _

/-- Fields begin with the quote of a key. -/
def Quoted (cs : List Char) : Prop := ∃ rest, cs = '"' :: rest

theorem quoted_append {cs : List Char} (quoted : Quoted cs) (rest : List Char) : Quoted (cs ++ rest) := by
  obtain ⟨others, rfl⟩ := quoted
  exact ⟨others ++ rest, rfl⟩

theorem skipGaps_of_quoted {cs : List Char} (quoted : Quoted cs) : skipGaps cs = cs := by
  obtain ⟨rest, rfl⟩ := quoted
  exact skipGaps_cons rfl rest

theorem quoted_of_key {key : String} {front : List Char} (named : Key key front) : Quoted front := by
  cases named
  exact ⟨_, rfl⟩

theorem quoted_of_fields {fields : List (String × Json)} {cs : List Char}
    (derived : Derives (.fields fields) cs) : Quoted cs := by
  cases derived with
  | field named _ _ => exact quoted_append (quoted_of_key named) _
  | fields named _ _ _ _ => exact quoted_append (quoted_of_key named) _

theorem begins_of_reaches_value {count : Nat} {cs : List Char} (reaches : Reaches count .value cs) :
    Begins cs := by
  cases reaches with
  | number long => exact begins_of_beginsNumber (beginsNumber_of_beginsLong long)
  | list _ _ => exact ⟨_, _, rfl, rfl, by decide⟩
  | object _ _ => exact ⟨_, _, rfl, rfl, by decide⟩

theorem begins_of_reaches_items {count : Nat} {cs : List Char} (reaches : Reaches count .items cs) :
    Begins cs := by
  cases reaches with
  | item here => exact begins_of_reaches_value here
  | items first _ _ _ => exact begins_append (begins_of_value first) _

theorem quoted_of_reaches_fields {count : Nat} {cs : List Char}
    (reaches : Reaches count .fields cs) : Quoted cs := by
  cases reaches with
  | field named _ => exact quoted_append (quoted_of_key named) _
  | fields named _ _ _ _ => exact quoted_append (quoted_of_key named) _

/-- A text that begins like a number is read as one. -/
theorem readValue_of_beginsNumber {cs : List Char} (begins : BeginsNumber cs) (fuel : Nat) :
    readValue (fuel + 1) cs = readNumber cs := by
  have word := readWord_of_beginsNumber begins
  obtain ⟨negative, unsigned, rfl, d, rest, rfl, digit⟩ := begins
  cases negative with
  | true =>
    rw [readValue, word]
    all_goals
      intro _ same
      cases same
  | false =>
    rw [readValue, word]
    all_goals
      intro _ same
      cases same
      cases digit

section Steps

variable {fuel : Nat} {value : Json} {key : String} {cs start gap before after next rest : List Char}

theorem readItems_last (first : readValue fuel cs = .ok (value, gap ++ ']' :: rest)) (blank : Gap gap) :
    readItems (fuel + 1) cs = .ok ([value], rest) := by
  rw [readItems, first]
  simp only [bind, Except.bind, skipGaps_append blank, skipGaps_cons (show isGap ']' = false from rfl)]
  rfl

theorem readItems_more
    (first : readValue fuel cs = .ok (value, before ++ ',' :: (after ++ next)))
    (before_gap : Gap before) (after_gap : Gap after) (solid : skipGaps next = next) :
    readItems (fuel + 1) cs = (readItems fuel next).map fun found => (value :: found.1, found.2) := by
  rw [readItems, first]
  simp only [bind, Except.bind, skipGaps_append before_gap,
    skipGaps_cons (show isGap ',' = false from rfl), skipGaps_append after_gap, solid]
  rfl

theorem readFields_last (named : readKey cs = some (key, start))
    (first : readValue fuel start = .ok (value, gap ++ '}' :: rest)) (blank : Gap gap) :
    readFields (fuel + 1) cs = .ok ([(key, value)], rest) := by
  rw [readFields, named]
  simp only [first, bind, Except.bind, skipGaps_append blank,
    skipGaps_cons (show isGap '}' = false from rfl)]
  rfl

theorem readFields_more (named : readKey cs = some (key, start))
    (first : readValue fuel start = .ok (value, before ++ ',' :: (after ++ next)))
    (before_gap : Gap before) (after_gap : Gap after) (solid : skipGaps next = next) :
    readFields (fuel + 1) cs =
      (readFields fuel next).map fun found => ((key, value) :: found.1, found.2) := by
  rw [readFields, named]
  simp only [first, bind, Except.bind, skipGaps_append before_gap,
    skipGaps_cons (show isGap ',' = false from rfl), skipGaps_append after_gap, solid]
  rfl

theorem readValue_list (blank : Gap gap) (begins : Begins start) :
    readValue (fuel + 1) ('[' :: (gap ++ start)) =
      (readItems fuel start).map fun found => (.list found.1, found.2) := by
  obtain ⟨c, others, rfl, solid, other⟩ := begins
  rw [readValue, skipGaps_append blank, skipGaps_cons solid]
  split
  next tail closed =>
    cases closed
    exact absurd rfl other
  next => rfl

theorem readValue_object (blank : Gap gap) (quoted : Quoted start) :
    readValue (fuel + 1) ('{' :: (gap ++ start)) =
      (readFields fuel start).map fun found => (.object (Keyed.ofPairs found.1), found.2) := by
  obtain ⟨others, rfl⟩ := quoted
  rw [readValue, skipGaps_append blank, skipGaps_cons (by decide)]
  split
  next tail closed => cases closed
  next => rfl

end Steps

/-- The reader reads the stretch if its fuel is two steps for each character. A value has to be
followed by something that ends a number, or a number at its end would be read further. -/
def Form.IsRead : Form → List Char → Prop
  | .value json, cs => ∀ fuel rest, 2 * cs.length ≤ fuel → Ends rest →
    readValue fuel (cs ++ rest) = .ok (json, rest)
  | .items members, cs => ∀ fuel rest, 2 * cs.length + 1 ≤ fuel →
    readItems fuel (cs ++ ']' :: rest) = .ok (members, rest)
  | .fields members, cs => ∀ fuel rest, 2 * cs.length + 1 ≤ fuel →
    readFields fuel (cs ++ '}' :: rest) = .ok (members, rest)

section Completeness

variable {value : Json} {items : List Json} {fields : List (String × Json)} {key : String}
  {gap cs before after others front : List Char}

theorem isRead_word {word : String} (known : (word, value) ∈ words) :
    Form.IsRead (.value value) word.toList := by
  intro fuel rest enough _
  have found := readWord_of_word known rest
  simp only [words, List.mem_cons, List.not_mem_nil, or_false, Prod.mk.injEq] at known
  rcases known with ⟨rfl, -⟩ | ⟨rfl, -⟩ | ⟨rfl, -⟩ | ⟨rfl, -⟩ | ⟨rfl, -⟩ | ⟨rfl, -⟩
  all_goals
    obtain ⟨fuel, rfl⟩ := Nat.exists_eq_add_one.mpr (Nat.lt_of_lt_of_le (by decide) enough)
    rw [readValue, found]
    all_goals
      intro _ same
      cases same

theorem isRead_text {units : List Nat} {literal : List Char} (spelled : Units units literal) :
    Form.IsRead (.value (.text (textOf units))) ('"' :: (literal ++ ['"'])) := by
  intro fuel rest enough _
  obtain ⟨fuel, rfl⟩ := Nat.exists_eq_add_one.mpr (show 0 < fuel by simp at enough; omega)
  rw [List.cons_append, List.append_assoc, List.singleton_append, readValue,
    readString_eq_some_iff.mpr ⟨units, literal, rfl, spelled, rfl⟩]

theorem isRead_number (numeral : Numeral value cs) : Form.IsRead (.value value) cs := by
  intro fuel rest enough ends
  have filled := length_pos_of_begins (begins_of_value (.number numeral))
  obtain ⟨fuel, rfl⟩ := Nat.exists_eq_add_one.mpr (show 0 < fuel by omega)
  rw [readValue_of_beginsNumber (beginsNumber_of_numeral numeral rest),
    readNumber_of_numeral numeral ends]

theorem isRead_emptyList (blank : Gap gap) :
    Form.IsRead (.value (.list [])) ('[' :: (gap ++ [']'])) := by
  intro fuel rest enough _
  obtain ⟨fuel, rfl⟩ := Nat.exists_eq_add_one.mpr (show 0 < fuel by simp at enough; omega)
  rw [List.cons_append, List.append_assoc, List.singleton_append, readValue, skipGaps_append blank,
    skipGaps_cons (by decide)]
  rfl

theorem isRead_list (blank : Gap gap) (derived : Derives (.items items) cs)
    (inner : Form.IsRead (.items items) cs) :
    Form.IsRead (.value (.list items)) ('[' :: (gap ++ (cs ++ [']']))) := by
  intro fuel rest enough _
  simp only [List.length_cons, List.length_append] at enough
  obtain ⟨fuel, rfl⟩ := Nat.exists_eq_add_one.mpr (show 0 < fuel by omega)
  have begins := begins_append (begins_of_items derived) (']' :: rest)
  rw [List.cons_append, List.append_assoc, List.append_assoc, List.singleton_append,
    readValue_list blank begins, inner fuel rest (by omega)]
  rfl

theorem isRead_emptyObject (blank : Gap gap) :
    Form.IsRead (.value (.object [])) ('{' :: (gap ++ ['}'])) := by
  intro fuel rest enough _
  obtain ⟨fuel, rfl⟩ := Nat.exists_eq_add_one.mpr (show 0 < fuel by simp at enough; omega)
  rw [List.cons_append, List.append_assoc, List.singleton_append, readValue, skipGaps_append blank,
    skipGaps_cons (by decide)]
  rfl

theorem isRead_object (blank : Gap gap) (derived : Derives (.fields fields) cs)
    (inner : Form.IsRead (.fields fields) cs) :
    Form.IsRead (.value (.object (Keyed.ofPairs fields))) ('{' :: (gap ++ (cs ++ ['}']))) := by
  intro fuel rest enough _
  simp only [List.length_cons, List.length_append] at enough
  obtain ⟨fuel, rfl⟩ := Nat.exists_eq_add_one.mpr (show 0 < fuel by omega)
  have quoted := quoted_append (quoted_of_fields derived) ('}' :: rest)
  rw [List.cons_append, List.append_assoc, List.append_assoc, List.singleton_append,
    readValue_object blank quoted, inner fuel rest (by omega)]
  rfl

theorem isRead_item (first : Form.IsRead (.value value) cs) (blank : Gap gap) :
    Form.IsRead (.items [value]) (cs ++ gap) := by
  intro fuel rest enough
  rw [List.length_append] at enough
  obtain ⟨fuel, rfl⟩ := Nat.exists_eq_add_one.mpr (show 0 < fuel by omega)
  rw [List.append_assoc]
  exact readItems_last
    (first fuel _ (by omega) (ends_gap_append blank (ends_cons (by decide) rest))) blank

theorem isRead_items (derived : Derives (.items items) others)
    (first : Form.IsRead (.value value) cs) (before_gap : Gap before) (after_gap : Gap after)
    (later : Form.IsRead (.items items) others) :
    Form.IsRead (.items (value :: items)) (cs ++ (before ++ ',' :: (after ++ others))) := by
  intro fuel rest enough
  simp only [List.length_append, List.length_cons] at enough
  obtain ⟨fuel, rfl⟩ := Nat.exists_eq_add_one.mpr (show 0 < fuel by omega)
  have solid := skipGaps_of_begins (begins_append (begins_of_items derived) (']' :: rest))
  -- The comma ends the item, a number included.
  have reads := first fuel (before ++ ',' :: (after ++ (others ++ ']' :: rest))) (by omega)
    (ends_gap_append before_gap (ends_cons (by decide) _))
  simp only [List.append_assoc, List.cons_append]
  rw [readItems_more reads before_gap after_gap solid, later fuel rest (by omega)]
  rfl

theorem isRead_field (named : Key key front) (derived : Derives (.value value) cs)
    (first : Form.IsRead (.value value) cs) (blank : Gap gap) :
    Form.IsRead (.fields [(key, value)]) (front ++ (cs ++ gap)) := by
  intro fuel rest enough
  simp only [List.length_append] at enough
  obtain ⟨fuel, rfl⟩ := Nat.exists_eq_add_one.mpr (show 0 < fuel by omega)
  have found := readKey_append named
    (skipGaps_of_begins (begins_append (begins_of_value derived) (gap ++ '}' :: rest)))
  simp only [List.append_assoc]
  exact readFields_last found
    (first fuel _ (by omega) (ends_gap_append blank (ends_cons (by decide) rest))) blank

theorem isRead_fields (named : Key key front) (derived : Derives (.value value) cs)
    (behind : Derives (.fields fields) others) (first : Form.IsRead (.value value) cs)
    (before_gap : Gap before) (after_gap : Gap after) (later : Form.IsRead (.fields fields) others) :
    Form.IsRead (.fields ((key, value) :: fields))
      (front ++ (cs ++ (before ++ ',' :: (after ++ others)))) := by
  intro fuel rest enough
  simp only [List.length_append, List.length_cons] at enough
  obtain ⟨fuel, rfl⟩ := Nat.exists_eq_add_one.mpr (show 0 < fuel by omega)
  have solid := skipGaps_of_quoted (quoted_append (quoted_of_fields behind) ('}' :: rest))
  have reads := first fuel (before ++ ',' :: (after ++ (others ++ '}' :: rest))) (by omega)
    (ends_gap_append before_gap (ends_cons (by decide) _))
  have found := readKey_append named (skipGaps_of_begins (begins_append (begins_of_value derived)
    (before ++ ',' :: (after ++ (others ++ '}' :: rest)))))
  simp only [List.append_assoc, List.cons_append]
  rw [readFields_more found reads before_gap after_gap solid, later fuel rest (by omega)]
  rfl

end Completeness

theorem isRead_of_derives {form : Form} {cs : List Char} (derived : Derives form cs) :
    form.IsRead cs := by
  induction derived with
  | word known => exact isRead_word known
  | text spelled => exact isRead_text spelled
  | number numeral => exact isRead_number numeral
  | emptyList blank => exact isRead_emptyList blank
  | list blank derived inner => exact isRead_list blank derived inner
  | emptyObject blank => exact isRead_emptyObject blank
  | object blank derived inner => exact isRead_object blank derived inner
  | item _ blank first => exact isRead_item first blank
  | items _ before_gap after_gap derived first later =>
    exact isRead_items derived first before_gap after_gap later
  | field named derived blank first => exact isRead_field named derived first blank
  | fields named derived before_gap after_gap behind first later =>
    exact isRead_fields named derived behind first before_gap after_gap later

/-! ### What is reached is refused -/

/-- The reader refuses the stretch for the digits of a number, with the same fuel. -/
def Stretch.IsRefused (count : Nat) : Stretch → List Char → Prop
  | .value, cs => ∀ fuel, 2 * cs.length ≤ fuel → readValue fuel cs = .error (.tooManyDigits count)
  | .items, cs => ∀ fuel, 2 * cs.length + 1 ≤ fuel →
    readItems fuel cs = .error (.tooManyDigits count)
  | .fields, cs => ∀ fuel, 2 * cs.length + 1 ≤ fuel →
    readFields fuel cs = .error (.tooManyDigits count)

theorem isRefused_of_reaches {count : Nat} {stretch : Stretch} {cs : List Char}
    (reaches : Reaches count stretch cs) : stretch.IsRefused count cs := by
  induction reaches with
  | @number cs long =>
    intro fuel enough
    have begins := beginsNumber_of_beginsLong long
    have filled := length_pos_of_begins (begins_of_beginsNumber begins)
    obtain ⟨fuel, rfl⟩ := Nat.exists_eq_add_one.mpr (show 0 < fuel by omega)
    rw [readValue_of_beginsNumber begins]
    exact readNumber_eq_error_iff.mpr long
  | list blank reaches inner =>
    intro fuel enough
    simp only [List.length_cons, List.length_append] at enough
    obtain ⟨fuel, rfl⟩ := Nat.exists_eq_add_one.mpr (show 0 < fuel by omega)
    rw [readValue_list blank (begins_of_reaches_items reaches), inner fuel (by omega)]
    rfl
  | object blank reaches inner =>
    intro fuel enough
    simp only [List.length_cons, List.length_append] at enough
    obtain ⟨fuel, rfl⟩ := Nat.exists_eq_add_one.mpr (show 0 < fuel by omega)
    rw [readValue_object blank (quoted_of_reaches_fields reaches), inner fuel (by omega)]
    rfl
  | item reaches here =>
    intro fuel enough
    obtain ⟨fuel, rfl⟩ := Nat.exists_eq_add_one.mpr (show 0 < fuel by omega)
    rw [readItems, here fuel (by omega)]
    rfl
  | @items value used before after cs first before_gap after_gap reaches later =>
    -- What stands in front of the number is read, and the fuel left is enough for the rest.
    intro fuel enough
    simp only [List.length_append, List.length_cons] at enough
    obtain ⟨fuel, rfl⟩ := Nat.exists_eq_add_one.mpr (show 0 < fuel by omega)
    have solid := skipGaps_of_begins (begins_of_reaches_items reaches)
    have reads := isRead_of_derives first fuel (before ++ ',' :: (after ++ cs)) (by omega)
      (ends_gap_append before_gap (ends_cons (by decide) _))
    rw [readItems_more reads before_gap after_gap solid, later fuel (by omega)]
    rfl
  | field named reaches here =>
    intro fuel enough
    rw [List.length_append] at enough
    obtain ⟨fuel, rfl⟩ := Nat.exists_eq_add_one.mpr (show 0 < fuel by omega)
    rw [readFields, readKey_append named (skipGaps_of_begins (begins_of_reaches_value reaches))]
    simp only [here fuel (by omega)]
    rfl
  | @fields key value front used before after cs named first before_gap after_gap reaches later =>
    intro fuel enough
    simp only [List.length_append, List.length_cons] at enough
    obtain ⟨fuel, rfl⟩ := Nat.exists_eq_add_one.mpr (show 0 < fuel by omega)
    have solid := skipGaps_of_quoted (quoted_of_reaches_fields reaches)
    have reads := isRead_of_derives first fuel (before ++ ',' :: (after ++ cs)) (by omega)
      (ends_gap_append before_gap (ends_cons (by decide) _))
    have found := readKey_append named (skipGaps_of_begins (begins_append (begins_of_value first)
      (before ++ ',' :: (after ++ cs))))
    rw [readFields_more found reads before_gap after_gap solid, later fuel (by omega)]
    rfl

/-! ### Texts -/

/-- A text is read as the value that it spells. -/
theorem parse_eq_ok_iff {text : String} {value : Json} :
    parse text = .ok value ↔ Spells text.toList value := by
  rw [parse, read]
  constructor
  · intro read
    replace read := (bind_eq_ok_iff _ _ _).mp read
    obtain ⟨⟨found, rest⟩, hit, read⟩ := read
    obtain ⟨cs, split, derived⟩ := (sound _).value hit
    obtain ⟨before, before_gap, same⟩ := exists_gap text.toList
    simp only at read
    split at read
    next blank =>
      -- Only blanks are left behind the value.
      cases read
      rw [List.isEmpty_iff, skipGaps_eq_nil_iff] at blank
      exact ⟨before, cs, rest, by rw [same, split], before_gap, blank, derived⟩
    next => cases read
  · rintro ⟨before, cs, after, same, before_gap, after_gap, derived⟩
    have solid := skipGaps_of_begins (begins_append (begins_of_value derived) after)
    have reads := isRead_of_derives derived (readFuel text.toList) after
      (by rw [readFuel, same]; simp only [List.length_append]; omega)
      (by simpa using ends_gap_append after_gap ends_nil)
    have blank : (skipGaps after).isEmpty = true := by
      rw [List.isEmpty_iff]
      exact (skipGaps_eq_nil_iff after).mpr after_gap
    have start : skipGaps text.toList = cs ++ after := by
      rw [same, skipGaps_append before_gap, solid]
    rw [start, reads]
    simp only [bind, Except.bind, blank]
    rfl

/-- Reading a text is refused for the digits of a number if it comes to one with too many. -/
theorem parse_eq_error_iff {text : String} {count : Nat} :
    parse text = .error (.tooManyDigits count) ↔ ReachesLong count text.toList := by
  rw [parse, read]
  constructor
  · intro read
    obtain ⟨gap, blank, same⟩ := exists_gap text.toList
    replace read := (bind_eq_error_iff _ _ _).mp read
    rcases read with refused | ⟨_, -, read⟩
    · exact ⟨gap, _, same, blank, (sound _).longValue refused⟩
    · simp only at read
      split at read <;> cases read
  · rintro ⟨gap, cs, same, blank, reaches⟩
    have solid := skipGaps_of_begins (begins_of_reaches_value reaches)
    have refused := isRefused_of_reaches reaches (readFuel text.toList)
      (by rw [readFuel, same, List.length_append]; omega)
    have start : skipGaps text.toList = cs := by
      rw [same, skipGaps_append blank, solid]
    rw [start, refused]
    rfl

end Targeting.Json
