import Targeting.Proofs.Reading
import Targeting.Selector.Reading

/-!
# Texts with the shape of a selector

The texts of selectors are an at sign with one of five letters, the same with an
argument list in brackets, and a bracketed list alone. The list may hold anything,
brackets and line feeds too: it ends at the bracket that ends the text. One line
feed may follow.

## Main result

`Selector.shapes_are_recognised_exactly`: a shape is found in just the texts that
show it, so no text shows two, and a selector is read by the shape of its text.
-/
namespace Targeting

theorem Symbol.ofLetter?_eq_some_iff {c : Char} {symbol : Symbol} :
    ofLetter? c = some symbol ↔ c = symbol.letter := by
  constructor
  · intro found
    have named := List.find?_some found
    exact (of_decide_eq_true named).symm
  · rintro rfl
    exact ofLetter?_letter symbol

namespace Selector

/-- The text of a shape, without a line feed behind it. -/
inductive Spells : Shape → List Char → Prop where
  | bare (symbol : Symbol) : Spells { symbol, arguments := none } ['@', symbol.letter]
  | listed (symbol : Symbol) (arguments : List Char) :
      Spells { symbol, arguments := some arguments }
        ('@' :: symbol.letter :: '[' :: (arguments ++ [']']))
  | list (arguments : List Char) :
      Spells { symbol := .everyone, arguments := some arguments } ('[' :: (arguments ++ [']']))

/-- The texts that show a shape: its text, and that with one line feed behind it. -/
inductive Shows : Shape → List Char → Prop where
  | plain {shape : Shape} {text : List Char} (spelled : Spells shape text) : Shows shape text
  | ended {shape : Shape} {text : List Char} (spelled : Spells shape text) :
      Shows shape (text ++ ['\n'])

/-! ### Finding the shape -/

theorem insideBrackets?_eq_some_iff {rest arguments : List Char} :
    insideBrackets? rest = some arguments ↔ rest = arguments ++ [']'] := by
  unfold insideBrackets?
  constructor
  · intro inside
    split at inside
    next closed =>
      obtain ⟨front, rfl⟩ := List.getLast?_eq_some_iff.mp closed
      rw [List.dropLast_concat, Option.some.injEq] at inside
      rw [inside]
    next => cases inside
  · rintro rfl
    rw [List.getLast?_concat, if_pos rfl, List.dropLast_concat]

theorem exactShape?_of_spells {shape : Shape} {text : List Char} (spelled : Spells shape text) :
    exactShape? text = some shape := by
  cases spelled with
  | bare symbol => rw [exactShape?, Symbol.ofLetter?_letter, Option.map_some]
  | listed symbol arguments =>
    rw [exactShape?, Symbol.ofLetter?_letter, insideBrackets?_eq_some_iff.mpr rfl]
    rfl
  | list arguments => rw [exactShape?, insideBrackets?_eq_some_iff.mpr rfl, Option.map_some]

theorem spells_of_exactShape? {shape : Shape} {text : List Char}
    (found : exactShape? text = some shape) : Spells shape text := by
  unfold exactShape? at found
  split at found
  next letter =>
    obtain ⟨symbol, named, rfl⟩ := Option.map_eq_some_iff.mp found
    rw [Symbol.ofLetter?_eq_some_iff.mp named]
    exact .bare symbol
  next letter rest =>
    obtain ⟨symbol, named, found⟩ := Option.bind_eq_some_iff.mp found
    obtain ⟨arguments, inside, found⟩ := Option.bind_eq_some_iff.mp found
    cases found
    rw [Symbol.ofLetter?_eq_some_iff.mp named, insideBrackets?_eq_some_iff.mp inside]
    exact .listed symbol arguments
  next rest =>
    obtain ⟨arguments, inside, rfl⟩ := Option.map_eq_some_iff.mp found
    rw [insideBrackets?_eq_some_iff.mp inside]
    exact .list arguments
  next => cases found

/-- The text of a shape ends in a letter or in a bracket, so a line feed behind it is no part
of it. -/
theorem Spells.getLast?_ne {shape : Shape} {text : List Char} (spelled : Spells shape text) :
    text.getLast? ≠ some '\n' := by
  cases spelled with
  | bare symbol => cases symbol <;> decide
  | listed symbol arguments =>
    rw [← List.cons_append, ← List.cons_append, ← List.cons_append, List.getLast?_concat]
    decide
  | list arguments =>
    rw [← List.cons_append, List.getLast?_concat]
    decide

theorem shape?_eq_some_iff {shape : Shape} {text : List Char} :
    shape? text = some shape ↔ Shows shape text := by
  unfold shape? dropLineFeed
  constructor
  · intro found
    split at found
    next ended =>
      obtain ⟨front, rfl⟩ := List.getLast?_eq_some_iff.mp ended
      rw [List.dropLast_concat] at found
      exact .ended (spells_of_exactShape? found)
    next => exact .plain (spells_of_exactShape? found)
  · intro shown
    cases shown with
    | plain spelled => rw [if_neg spelled.getLast?_ne, exactShape?_of_spells spelled]
    | ended spelled =>
      rw [List.getLast?_concat, if_pos rfl, List.dropLast_concat, exactShape?_of_spells spelled]

theorem shape?_eq_none_iff {text : List Char} :
    shape? text = none ↔ ∀ shape, ¬ Shows shape text := by
  simp only [Option.eq_none_iff_forall_ne_some, ne_eq, shape?_eq_some_iff]

/-! ### Reading by the shape -/

theorem read_of_bare {given : Option String} {symbol : Symbol}
    (found : shape? (Text.trim (given.getD "").toList) = some { symbol, arguments := none }) :
    Selector.read given =
      pure { symbol, query := {}, source := String.ofList (Text.trim (given.getD "").toList) } := by
  unfold Selector.read
  simp only [found]

theorem read_of_listed {given : Option String} {symbol : Symbol} {arguments : List Char}
    (found : shape? (Text.trim (given.getD "").toList) =
      some { symbol, arguments := some arguments }) :
    Selector.read given =
      (fun query =>
        { symbol, query, source := String.ofList (Text.trim (given.getD "").toList) }) <$>
        Query.read arguments (String.ofList (Text.trim (given.getD "").toList)) := by
  unfold Selector.read
  simp only [found]
  -- Empty brackets are not read at all, which comes to the same.
  cases arguments <;> rfl

theorem read_of_shapeless {given : Option String}
    (missed : shape? (Text.trim (given.getD "").toList) = none) :
    Selector.read given =
      { value := { source := String.ofList (Text.trim (given.getD "").toList) }
        notices := [.fellBack (String.ofList (Text.trim (given.getD "").toList))] } := by
  unfold Selector.read
  simp only [missed]
  rfl

/-- A shape is found in a text exactly if the text shows it, and none exactly if the text shows none.
Whatever text is given, it is trimmed and then read as the symbol of its shape, with the query of its
arguments and the notices of reading them. A text without a shape is read as everybody without
constraints, and warned of once. -/
theorem shapes_are_recognised_exactly :
    (∀ text shape, shape? text = some shape ↔ Shows shape text) ∧
      (∀ text, shape? text = none ↔ ∀ shape, ¬ Shows shape text) ∧
      ∀ given : Option String,
        let text := Text.trim (given.getD "").toList
        let source := String.ofList text
        (∀ symbol, Shows { symbol, arguments := none } text →
          Selector.read given = pure { symbol, query := {}, source }) ∧
        (∀ symbol arguments, Shows { symbol, arguments := some arguments } text →
          Selector.read given =
            (fun query => { symbol, query, source }) <$> Query.read arguments source) ∧
        ((∀ shape, ¬ Shows shape text) →
          Selector.read given =
            { value := { symbol := .everyone, query := {}, source }, notices := [.fellBack source] } ∧
          (Notice.fellBack source).level = .warning) := by
  refine ⟨fun _ _ => shape?_eq_some_iff, fun _ => shape?_eq_none_iff, ?_⟩
  intro given text source
  refine ⟨?_, ?_, ?_⟩
  · intro symbol shown
    exact read_of_bare (shape?_eq_some_iff.mpr shown)
  · intro symbol arguments shown
    exact read_of_listed (shape?_eq_some_iff.mpr shown)
  · intro shapeless
    exact ⟨read_of_shapeless (shape?_eq_none_iff.mpr shapeless), rfl⟩

/-- The arguments end at the last bracket, behind brackets and line feeds of their own. A line feed
in front of the end is passed over, one in front of the last bracket is not. -/
theorem shapes_are_recognised_exactly_of_nested :
    let arguments := "tag=[a],\nname=b".toList
    let source := "@p[tag=[a],\nname=b]"
    Shows { symbol := .nearestPlayer, arguments := some arguments } source.toList ∧
      Selector.read (some " @p[tag=[a],\nname=b]\n") =
        (fun query => { symbol := .nearestPlayer, query, source }) <$>
          Query.read arguments source ∧
      shape? "[a]\n]\n".toList = some { symbol := .everyone, arguments := some "a]\n".toList } := by
  intro arguments source
  obtain ⟨recognised, -, reads⟩ := shapes_are_recognised_exactly
  have spelled : source.toList =
      '@' :: Symbol.nearestPlayer.letter :: '[' :: (arguments ++ [']']) := by decide +kernel
  have shown : Shows { symbol := .nearestPlayer, arguments := some arguments } source.toList := by
    rw [spelled]
    exact .plain (.listed .nearestPlayer arguments)
  have trimmed : Text.trim " @p[tag=[a],\nname=b]\n".toList = source.toList := by decide +kernel
  refine ⟨shown, ?_, ?_⟩
  · have read := (reads (some " @p[tag=[a],\nname=b]\n")).2.1 .nearestPlayer arguments
    rw [Option.getD_some, trimmed, String.ofList_toList] at read
    exact read shown
  · have ended : "[a]\n]\n".toList = ('[' :: ("a]\n".toList ++ [']'])) ++ ['\n'] := by decide +kernel
    rw [ended, recognised]
    exact .ended (.list "a]\n".toList)

end Selector

end Targeting
