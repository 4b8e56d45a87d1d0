import Targeting.Item.Record
import Targeting.Proofs.ItemLexicon

/-!
# The grammar of item conditions

The grammar as a relation between tokens and what they are read as, and the
readers of records as its decision procedure.

## Main result

`records?_eq_some_iff`: a text is read as the records of the objects that it
spells, and as nothing if it spells none.

## Proof strategy

Every reader is given fuel. What it reads with any fuel is derived, by induction
on the fuel; whatever is derived is read with three steps for each token, by
induction on the derivation.
-/
namespace Targeting.Item

/-- The bindings of an object in the order of the text, a key as often as it is written. -/
abbrev Bindings := List (String × Value)

/-- The value that the last binding of a key gives it. -/
def lastBound (name : String) (bindings : Bindings) : Option Value :=
  (bindings.reverse.find? (·.1 = name)).map (·.2)

theorem get?_ofPairs (name : String) (bindings : Bindings) :
    Keyed.get? name (Keyed.ofPairs bindings) = lastBound name bindings :=
  Keyed.get?_ofPairs name bindings

/-- What tokens are read as. -/
inductive Reading where
  | value (value : Value)
  | pairs (bindings : Bindings)
  | object (bindings : Bindings)
  | objects (objects : List Bindings)
  | array (objects : List Bindings)
  | start (objects : List Bindings)

open Token in
/-- The productions of the grammar. -/
inductive Derives : Reading → List Token → Prop where
  | word (text : List Char) : Derives (.value (.scalar (.ofWord text))) [.word text]
  | quoted (raw : List Char) : Derives (.value (.scalar (.text (unescape raw)))) [.quoted raw]
  | inner {bindings : Bindings} {tokens : List Token} (object : Derives (.object bindings) tokens) :
      Derives (.value .nested) tokens
  | list {objects : List Bindings} {tokens : List Token} (array : Derives (.array objects) tokens) :
      Derives (.value .nested) tokens
  | pair {keyToken : Token} {key : String} {bound : Value} {tokens : List Token}
      (named : key? keyToken = some key) (value : Derives (.value bound) tokens) :
      Derives (.pairs [(key, bound)]) (keyToken :: equals :: tokens)
  | pairs {keyToken : Token} {key : String} {bound : Value} {bindings : Bindings}
      {tokens others : List Token} (named : key? keyToken = some key)
      (value : Derives (.value bound) tokens) (rest : Derives (.pairs bindings) others) :
      Derives (.pairs ((key, bound) :: bindings)) (keyToken :: equals :: (tokens ++ comma :: others))
  | blank : Derives (.object []) [openBrace, closeBrace]
  | object {bindings : Bindings} {tokens : List Token} (pairs : Derives (.pairs bindings) tokens) :
      Derives (.object bindings) (openBrace :: (tokens ++ [closeBrace]))
  | single {bindings : Bindings} {tokens : List Token} (object : Derives (.object bindings) tokens) :
      Derives (.objects [bindings]) tokens
  | objects {bindings : Bindings} {rest : List Bindings} {tokens others : List Token}
      (object : Derives (.object bindings) tokens) (behind : Derives (.objects rest) others) :
      Derives (.objects (bindings :: rest)) (tokens ++ comma :: others)
  | empty : Derives (.array []) [openBracket, closeBracket]
  | array {objects : List Bindings} {tokens : List Token} (members : Derives (.objects objects) tokens) :
      Derives (.array objects) (openBracket :: (tokens ++ [closeBracket]))
  | alone {bindings : Bindings} {tokens : List Token} (object : Derives (.object bindings) tokens) :
      Derives (.start [bindings]) tokens
  | several {objects : List Bindings} {tokens : List Token} (array : Derives (.array objects) tokens) :
      Derives (.start objects) tokens

/-- The tokens of the text derive from the start of the grammar. -/
def Spells (text : List Char) (objects : List Bindings) : Prop :=
  ∃ tokens, Lexes text tokens ∧ Derives (.start objects) tokens

/-! ### What is read is derived -/

/-- What the readers read with some fuel. The marks that open a record or a list have been read
before. -/
structure Sound (fuel : Nat) : Prop where
  value : ∀ {tokens rest : List Token} {value : Value},
    readValue? fuel tokens = some (value, rest) →
      ∃ used, tokens = used ++ rest ∧ Derives (.value value) used
  record : ∀ {tokens rest : List Token} {record : Record},
    readRecord? fuel tokens = some (record, rest) →
      ∃ used bindings, tokens = used ++ rest ∧ record = Keyed.ofPairs bindings ∧
        Derives (.object bindings) (.openBrace :: used)
  fields : ∀ {tokens rest : List Token} {bindings : Bindings},
    readFields? fuel tokens = some (bindings, rest) →
      ∃ used, tokens = used ++ .closeBrace :: rest ∧ Derives (.pairs bindings) used
  records : ∀ {tokens rest : List Token} {records : List Record},
    readRecords? fuel tokens = some (records, rest) →
      ∃ used objects, tokens = used ++ rest ∧ records = objects.map Keyed.ofPairs ∧
        Derives (.array objects) (.openBracket :: used)
  someRecords : ∀ {tokens rest : List Token} {records : List Record},
    readSomeRecords? fuel tokens = some (records, rest) →
      ∃ used objects, tokens = used ++ .closeBracket :: rest ∧ records = objects.map Keyed.ofPairs ∧
        Derives (.objects objects) used

section Soundness

variable {fuel : Nat} {tokens rest : List Token}

theorem derives_of_readValue (sound : Sound fuel) {value : Value}
    (returned : readValue? (fuel + 1) tokens = some (value, rest)) :
    ∃ used, tokens = used ++ rest ∧ Derives (.value value) used := by
  unfold readValue? at returned
  split at returned
  next text tail =>
    cases returned
    exact ⟨[.word text], rfl, .word text⟩
  next raw tail =>
    cases returned
    exact ⟨[.quoted raw], rfl, .quoted raw⟩
  next inner =>
    obtain ⟨⟨record, tail⟩, hit, same⟩ := Option.map_eq_some_iff.mp returned
    cases same
    obtain ⟨used, bindings, rfl, -, object⟩ := sound.record hit
    exact ⟨.openBrace :: used, rfl, .inner object⟩
  next inner =>
    obtain ⟨⟨records, tail⟩, hit, same⟩ := Option.map_eq_some_iff.mp returned
    cases same
    obtain ⟨used, objects, rfl, -, array⟩ := sound.records hit
    exact ⟨.openBracket :: used, rfl, .list array⟩
  next => cases returned

theorem derives_of_readRecord (sound : Sound fuel) {record : Record}
    (returned : readRecord? (fuel + 1) tokens = some (record, rest)) :
    ∃ used bindings, tokens = used ++ rest ∧ record = Keyed.ofPairs bindings ∧
      Derives (.object bindings) (.openBrace :: used) := by
  unfold readRecord? at returned
  split at returned
  next =>
    cases returned
    exact ⟨[.closeBrace], [], rfl, rfl, .blank⟩
  next =>
    obtain ⟨⟨bindings, tail⟩, hit, same⟩ := Option.map_eq_some_iff.mp returned
    cases same
    obtain ⟨used, rfl, pairs⟩ := sound.fields hit
    exact ⟨used ++ [.closeBrace], bindings, by simp, rfl, .object pairs⟩

theorem derives_of_readFields (sound : Sound fuel) {bindings : Bindings}
    (returned : readFields? (fuel + 1) tokens = some (bindings, rest)) :
    ∃ used, tokens = used ++ .closeBrace :: rest ∧ Derives (.pairs bindings) used := by
  unfold readFields? at returned
  split at returned
  next keyToken behind =>
    simp only [Option.bind_eq_bind, Option.bind_eq_some_iff] at returned
    obtain ⟨key, named, ⟨bound, afterValue⟩, hit, returned⟩ := returned
    obtain ⟨used, rfl, value⟩ := sound.value hit
    split at returned
    next tail ends =>
      obtain rfl : afterValue = .closeBrace :: tail := ends
      cases returned
      exact ⟨keyToken :: .equals :: used, rfl, .pair named value⟩
    next next ends =>
      obtain rfl : afterValue = .comma :: next := ends
      simp only [Option.bind_eq_some_iff] at returned
      obtain ⟨⟨later, tail⟩, more, same⟩ := returned
      cases same
      obtain ⟨others, rfl, pairs⟩ := sound.fields more
      exact ⟨keyToken :: .equals :: (used ++ .comma :: others), by simp, .pairs named value pairs⟩
    next => cases returned
  next => cases returned

theorem derives_of_readRecords (sound : Sound fuel) {records : List Record}
    (returned : readRecords? (fuel + 1) tokens = some (records, rest)) :
    ∃ used objects, tokens = used ++ rest ∧ records = objects.map Keyed.ofPairs ∧
      Derives (.array objects) (.openBracket :: used) := by
  unfold readRecords? at returned
  split at returned
  next =>
    cases returned
    exact ⟨[.closeBracket], [], rfl, rfl, .empty⟩
  next =>
    obtain ⟨used, objects, rfl, rfl, members⟩ := sound.someRecords returned
    exact ⟨used ++ [.closeBracket], objects, by simp, rfl, .array members⟩

theorem derives_of_readSomeRecords (sound : Sound fuel) {records : List Record}
    (returned : readSomeRecords? (fuel + 1) tokens = some (records, rest)) :
    ∃ used objects, tokens = used ++ .closeBracket :: rest ∧ records = objects.map Keyed.ofPairs ∧
      Derives (.objects objects) used := by
  unfold readSomeRecords? at returned
  split at returned
  next behind =>
    simp only [Option.bind_eq_bind, Option.bind_eq_some_iff] at returned
    obtain ⟨⟨record, afterRecord⟩, hit, returned⟩ := returned
    obtain ⟨used, bindings, rfl, rfl, object⟩ := sound.record hit
    split at returned
    next tail ends =>
      obtain rfl : afterRecord = .closeBracket :: tail := ends
      cases returned
      exact ⟨.openBrace :: used, [bindings], rfl, rfl, .single object⟩
    next next ends =>
      obtain rfl : afterRecord = .comma :: next := ends
      simp only [Option.bind_eq_some_iff] at returned
      obtain ⟨⟨later, tail⟩, more, same⟩ := returned
      cases same
      obtain ⟨others, objects, rfl, rfl, behind⟩ := sound.someRecords more
      exact ⟨.openBrace :: used ++ .comma :: others, bindings :: objects, by simp, rfl,
        .objects object behind⟩
    next => cases returned
  next => cases returned

theorem sound (fuel : Nat) : Sound fuel := by
  induction fuel with
  | zero => constructor <;> exact nofun
  | succ fuel ih =>
    exact ⟨derives_of_readValue ih, derives_of_readRecord ih, derives_of_readFields ih,
      derives_of_readRecords ih, derives_of_readSomeRecords ih⟩

end Soundness

/-! ### What is derived is read -/

theorem begins_of_pairs {bindings : Bindings} {tokens : List Token}
    (derived : Derives (.pairs bindings) tokens) :
    ∃ keyToken key rest, tokens = keyToken :: rest ∧ key? keyToken = some key := by
  cases derived with
  | pair named _ => exact ⟨_, _, _, rfl, named⟩
  | pairs named _ _ => exact ⟨_, _, _, rfl, named⟩

theorem begins_of_object {bindings : Bindings} {tokens : List Token}
    (derived : Derives (.object bindings) tokens) : ∃ rest, tokens = .openBrace :: rest := by
  cases derived with
  | blank => exact ⟨_, rfl⟩
  | object _ => exact ⟨_, rfl⟩

theorem begins_of_objects {objects : List Bindings} {tokens : List Token}
    (derived : Derives (.objects objects) tokens) : ∃ rest, tokens = .openBrace :: rest := by
  cases derived with
  | single object => exact begins_of_object object
  | objects object _ =>
    obtain ⟨rest, rfl⟩ := begins_of_object object
    exact ⟨_, rfl⟩

/-- The reader reads the tokens whatever follows them, if its fuel is three steps for each. -/
def Reading.IsRead : Reading → List Token → Prop
  | .value bound, tokens => ∀ fuel rest, 3 * tokens.length ≤ fuel →
    readValue? fuel (tokens ++ rest) = some (bound, rest)
  | .pairs bindings, tokens => ∀ fuel rest, 3 * tokens.length ≤ fuel →
    readFields? fuel (tokens ++ .closeBrace :: rest) = some (bindings, rest)
  | .object bindings, tokens => ∃ behind, tokens = .openBrace :: behind ∧
    ∀ fuel rest, 3 * behind.length + 2 ≤ fuel →
      readRecord? fuel (behind ++ rest) = some (Keyed.ofPairs bindings, rest)
  | .objects members, tokens => ∀ fuel rest, 3 * tokens.length ≤ fuel →
    readSomeRecords? fuel (tokens ++ .closeBracket :: rest) =
      some (members.map Keyed.ofPairs, rest)
  | .array members, tokens => ∃ behind, tokens = .openBracket :: behind ∧
    ∀ fuel rest, 3 * behind.length + 2 ≤ fuel →
      readRecords? fuel (behind ++ rest) = some (members.map Keyed.ofPairs, rest)
  | .start members, tokens => recordsOfTokens? tokens = some (members.map Keyed.ofPairs)

section Completeness

variable {bindings : Bindings} {objects : List Bindings} {tokens others : List Token}

theorem isRead_inner (object : Reading.IsRead (.object bindings) tokens) :
    Reading.IsRead (.value .nested) tokens := by
  obtain ⟨behind, rfl, reads⟩ := object
  intro fuel rest enough
  rw [List.length_cons] at enough
  obtain ⟨fuel, rfl⟩ := Nat.exists_eq_add_one.mpr (show 0 < fuel by omega)
  rw [List.cons_append, readValue?, reads fuel rest (by omega)]
  rfl

theorem isRead_list (array : Reading.IsRead (.array objects) tokens) :
    Reading.IsRead (.value .nested) tokens := by
  obtain ⟨behind, rfl, reads⟩ := array
  intro fuel rest enough
  rw [List.length_cons] at enough
  obtain ⟨fuel, rfl⟩ := Nat.exists_eq_add_one.mpr (show 0 < fuel by omega)
  rw [List.cons_append, readValue?, reads fuel rest (by omega)]
  rfl

theorem isRead_pair {keyToken : Token} {key : String} {bound : Value}
    (named : key? keyToken = some key) (value : Reading.IsRead (.value bound) tokens) :
    Reading.IsRead (.pairs [(key, bound)]) (keyToken :: .equals :: tokens) := by
  intro fuel rest enough
  simp only [List.length_cons] at enough
  obtain ⟨fuel, rfl⟩ := Nat.exists_eq_add_one.mpr (show 0 < fuel by omega)
  rw [List.cons_append, List.cons_append, readFields?]
  simp only [Option.bind_eq_bind, named, Option.bind_some, value fuel _ (by omega)]

theorem isRead_pairs {keyToken : Token} {key : String} {bound : Value}
    (named : key? keyToken = some key) (value : Reading.IsRead (.value bound) tokens)
    (behind : Reading.IsRead (.pairs bindings) others) :
    Reading.IsRead (.pairs ((key, bound) :: bindings))
      (keyToken :: .equals :: (tokens ++ .comma :: others)) := by
  intro fuel rest enough
  simp only [List.length_cons, List.length_append] at enough
  obtain ⟨fuel, rfl⟩ := Nat.exists_eq_add_one.mpr (show 0 < fuel by omega)
  rw [List.cons_append, List.cons_append, readFields?, List.append_assoc]
  simp only [Option.bind_eq_bind, named, Option.bind_some, value fuel _ (by omega), List.cons_append,
    behind fuel rest (by omega)]

theorem isRead_object (derived : Derives (.pairs bindings) tokens)
    (pairs : Reading.IsRead (.pairs bindings) tokens) :
    Reading.IsRead (.object bindings) (.openBrace :: (tokens ++ [.closeBrace])) := by
  refine ⟨_, rfl, ?_⟩
  intro fuel rest enough
  rw [List.length_append, List.length_singleton] at enough
  obtain ⟨fuel, rfl⟩ := Nat.exists_eq_add_one.mpr (show 0 < fuel by omega)
  have reads := pairs fuel rest (by omega)
  -- A record that begins with a key is not the empty one.
  obtain ⟨keyToken, key, behind, rfl, named⟩ := begins_of_pairs derived
  rw [List.append_assoc, List.singleton_append, List.cons_append] at *
  rw [readRecord?]
  · rw [reads, Option.map_some]
  · rintro tail same
    cases (List.cons.inj same).1
    cases named

theorem isRead_single (object : Reading.IsRead (.object bindings) tokens) :
    Reading.IsRead (.objects [bindings]) tokens := by
  obtain ⟨behind, rfl, reads⟩ := object
  intro fuel rest enough
  rw [List.length_cons] at enough
  obtain ⟨fuel, rfl⟩ := Nat.exists_eq_add_one.mpr (show 0 < fuel by omega)
  rw [List.cons_append, readSomeRecords?]
  simp only [Option.bind_eq_bind, reads fuel _ (by omega), Option.bind_some, List.map_cons, List.map_nil]

theorem isRead_objects (object : Reading.IsRead (.object bindings) tokens)
    (later : Reading.IsRead (.objects objects) others) :
    Reading.IsRead (.objects (bindings :: objects)) (tokens ++ .comma :: others) := by
  obtain ⟨behind, rfl, reads⟩ := object
  intro fuel rest enough
  simp only [List.length_append, List.length_cons] at enough
  obtain ⟨fuel, rfl⟩ := Nat.exists_eq_add_one.mpr (show 0 < fuel by omega)
  rw [List.append_assoc, List.cons_append, readSomeRecords?]
  simp only [Option.bind_eq_bind, reads fuel _ (by omega), Option.bind_some, List.cons_append,
    later fuel rest (by omega), List.map_cons]

theorem isRead_array (derived : Derives (.objects objects) tokens)
    (members : Reading.IsRead (.objects objects) tokens) :
    Reading.IsRead (.array objects) (.openBracket :: (tokens ++ [.closeBracket])) := by
  refine ⟨_, rfl, ?_⟩
  intro fuel rest enough
  rw [List.length_append, List.length_singleton] at enough
  obtain ⟨fuel, rfl⟩ := Nat.exists_eq_add_one.mpr (show 0 < fuel by omega)
  have reads := members fuel rest (by omega)
  obtain ⟨behind, rfl⟩ := begins_of_objects derived
  rw [List.append_assoc, List.singleton_append, List.cons_append] at *
  rw [readRecords?]
  · exact reads
  · exact nofun

theorem isRead_alone (object : Reading.IsRead (.object bindings) tokens) :
    Reading.IsRead (.start [bindings]) tokens := by
  obtain ⟨behind, rfl, reads⟩ := object
  have whole := reads (3 * (Token.openBrace :: behind).length + 3) [] (by simp; omega)
  rw [List.append_nil] at whole
  unfold Reading.IsRead recordsOfTokens?
  simp only [whole, List.map_cons, List.map_nil]

theorem isRead_several (array : Reading.IsRead (.array objects) tokens) :
    Reading.IsRead (.start objects) tokens := by
  obtain ⟨behind, rfl, reads⟩ := array
  have whole := reads (3 * (Token.openBracket :: behind).length + 3) [] (by simp; omega)
  rw [List.append_nil] at whole
  unfold Reading.IsRead recordsOfTokens?
  simp only [whole]

end Completeness

theorem isRead_of_derives {reading : Reading} {tokens : List Token}
    (derived : Derives reading tokens) : reading.IsRead tokens := by
  induction derived with
  | word text =>
    intro fuel rest enough
    rw [List.length_singleton] at enough
    obtain ⟨fuel, rfl⟩ := Nat.exists_eq_add_one.mpr (show 0 < fuel by omega)
    rfl
  | quoted raw =>
    intro fuel rest enough
    rw [List.length_singleton] at enough
    obtain ⟨fuel, rfl⟩ := Nat.exists_eq_add_one.mpr (show 0 < fuel by omega)
    rfl
  | inner _ object => exact isRead_inner object
  | list _ array => exact isRead_list array
  | pair named _ value => exact isRead_pair named value
  | pairs named _ _ value rest => exact isRead_pairs named value rest
  | blank =>
    refine ⟨[.closeBrace], rfl, fun fuel rest enough => ?_⟩
    rw [List.length_singleton] at enough
    obtain ⟨fuel, rfl⟩ := Nat.exists_eq_add_one.mpr (show 0 < fuel by omega)
    rfl
  | object derived pairs => exact isRead_object derived pairs
  | single _ object => exact isRead_single object
  | objects _ _ object behind => exact isRead_objects object behind
  | empty =>
    refine ⟨[.closeBracket], rfl, fun fuel rest enough => ?_⟩
    rw [List.length_singleton] at enough
    obtain ⟨fuel, rfl⟩ := Nat.exists_eq_add_one.mpr (show 0 < fuel by omega)
    rfl
  | array derived members => exact isRead_array derived members
  | alone _ object => exact isRead_alone object
  | several _ array => exact isRead_several array

/-! ### Texts -/

theorem derives_of_recordsOfTokens {tokens : List Token} {records : List Record}
    (spelled : recordsOfTokens? tokens = some records) :
    ∃ objects, records = objects.map Keyed.ofPairs ∧ Derives (.start objects) tokens := by
  unfold recordsOfTokens? at spelled
  simp only at spelled
  split at spelled
  next behind =>
    split at spelled
    next record returned =>
      cases spelled
      obtain ⟨used, bindings, whole, rfl, object⟩ := (sound _).record returned
      obtain rfl : behind = used := by simpa using whole
      exact ⟨[bindings], rfl, .alone object⟩
    next => cases spelled
  next behind =>
    split at spelled
    next others returned =>
      cases spelled
      obtain ⟨used, objects, whole, rfl, array⟩ := (sound _).records returned
      obtain rfl : behind = used := by simpa using whole
      exact ⟨objects, rfl, .several array⟩
    next => cases spelled
  next => cases spelled

/-- The records of a text are those of the objects that it spells. -/
theorem records?_eq_some_iff {text : List Char} {records : List Record} :
    records? text = some records ↔
      ∃ objects, Spells text objects ∧ records = objects.map Keyed.ofPairs := by
  unfold records? Spells
  rw [Option.bind_eq_some_iff]
  constructor
  · rintro ⟨tokens, lexed, spelled⟩
    obtain ⟨objects, rfl, derived⟩ := derives_of_recordsOfTokens spelled
    exact ⟨objects, ⟨tokens, tokens?_eq_some_iff.mp lexed, derived⟩, rfl⟩
  · rintro ⟨objects, ⟨tokens, lexed, derived⟩, rfl⟩
    exact ⟨tokens, tokens?_eq_some_iff.mpr lexed, isRead_of_derives derived⟩

theorem records_of_spells {text : List Char} {objects : List Bindings}
    (spelled : Spells text objects) : records? text = some (objects.map Keyed.ofPairs) :=
  records?_eq_some_iff.mpr ⟨objects, spelled, rfl⟩

end Targeting.Item
