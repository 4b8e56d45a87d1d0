import Targeting.Proofs.Confinement

/-!
# Bare texts in a message

A text may stand bare in a list of components, or as the component that has only
this text. In a list of a message and in a nested list the two show the same.
Among the arguments of a translation they do not: a bare text keeps its
formatting codes there, and the component loses them.

## Main result

`Renderer.bare_texts_are_components_but_for_codes`.

## Proof strategy

A message shows what stands at one of its spots between two fixed texts, or does
not show the spot at all; this is an induction over the spot from the inside out
(`frames_or_hides`).
-/
namespace Targeting.Renderer

/-- The component that is only this text. -/
def textComponent (text : String) : Json := .object [("text", .text text)]

variable (r : Renderer)

/-! ### Single components -/

theorem result_component_text (text : String) : (r.component (.text text)).result = r.strip text := by
  rw [component]
  exact result_of_renders (renders_pure _)

theorem result_component_textComponent (text : String) :
    (r.component (textComponent text)).result = r.strip text := by
  have nested : r.nested [("text", .text text)] = pure "" := nested_of_lacking rfl
  rw [textComponent, result_component_object, nested, result_of_renders (renders_pure ""),
    String.append_empty, ownText, content]
  by_cases empty : text = ""
  · -- An empty text is not given, and it has no codes to lose either.
    subst empty
    rw [strip_of_plain rfl]
    exact result_of_renders (renders_pure "")
  · have given : given? "text" [("text", .text text)] = some (.text text) := by
      simp [given?, Keyed.get?, Json.isPresent, empty]
    simp only [given]
    exact result_of_renders (renders_pure _)

/-! ### Arguments of a translation -/

/-- What stands for one argument in the list of a translation. -/
def argumentText (r : Renderer) : Json → String
  | .text text => text
  | c => (r.component c).result

theorem result_argumentTexts (items : List Json) :
    (r.argumentTexts items).result = items.map r.argumentText := by
  induction items with
  | nil =>
    rw [argumentTexts]
    exact result_of_renders (renders_pure _)
  | cons item rest ih =>
    have others := r.steady_argumentTexts rest
    rw [List.map_cons, ← ih]
    cases item with
    | text text =>
      rw [argumentTexts, result_bind others fun _ => steady_pure _]
      exact result_of_renders (renders_pure _)
    | _ =>
      rw [argumentTexts, result_bind (r.steady_component _) fun _ =>
          steady_bind others fun _ => steady_pure _,
        result_bind others fun _ => steady_pure _]
      · exact result_of_renders (renders_pure _)
      · rintro text ⟨⟩

theorem result_translationArguments (items : List Json) :
    (r.translationArguments (.list items)).result = ", ".intercalate (items.map r.argumentText) := by
  rw [translationArguments, result_bind (r.steady_argumentTexts items) fun _ => steady_pure _,
    result_argumentTexts]
  exact result_of_renders (renders_pure _)

theorem exists_around_intercalated (separator : String) (before after : List String) :
    ∃ leading trailing, ∀ text,
      separator.intercalate (before ++ text :: after) = leading ++ text ++ trailing := by
  induction before with
  | nil =>
    cases after with
    | nil => exact ⟨"", "", fun text => by simp⟩
    | cons next rest =>
      exact ⟨"", separator ++ separator.intercalate (next :: rest),
        fun text => by simp [String.append_assoc]⟩
  | cons first rest ih =>
    obtain ⟨leading, trailing, around⟩ := ih
    refine ⟨first ++ separator ++ leading, trailing, fun text => ?_⟩
    rw [List.cons_append, String.intercalate_cons_of_ne_nil (by simp), around]
    simp only [String.append_assoc]

/-- The object is rendered as a translation. -/
def IsTranslation (fields : List (String × Json)) : Prop :=
  given? "text" fields = none ∧ given? "translate" fields ≠ none

section Arguments

variable {fields : List (String × Json)}

theorem given?_put_with {name : String} (other : "with" ≠ name) (arguments : Json) :
    given? name (Keyed.put "with" arguments fields) = given? name fields := by
  rw [given?, given?, Keyed.get?_put_of_ne other]

/-- The nested list does not depend on the arguments. -/
theorem nested_put_with (arguments : Json) :
    r.nested (Keyed.put "with" arguments fields) = r.nested fields := by
  have same := Keyed.get?_put_of_ne (by decide : "with" ≠ "rawtext") arguments fields
  unfold nested
  generalize Keyed.get? "rawtext" (Keyed.put "with" arguments fields) = listed at same ⊢
  subst same
  rfl

/-- Only a translation looks at its arguments. -/
theorem ownText_put_with (plain : ¬ IsTranslation fields) (arguments : Json) :
    r.ownText (Keyed.put "with" arguments fields) = r.ownText fields := by
  unfold ownText content
  rw [given?_put_with (by decide), given?_put_with (by decide), given?_put_with (by decide),
    Keyed.get?_put_of_ne (by decide : "with" ≠ "score")]
  cases text : given? "text" fields with
  | some _ => rfl
  | none =>
    have unkeyed : given? "translate" fields = none := by
      by_contra keyed
      exact plain ⟨text, keyed⟩
    simp only [unkeyed]

theorem ownText_of_translation (translates : IsTranslation fields) : ∃ leading trailing,
    ∀ arguments : Json, arguments.isPresent → r.ownText (Keyed.put "with" arguments fields) =
      leading ++ (r.translationArguments arguments).result ++ trailing := by
  obtain ⟨untexted, keyed⟩ := translates
  obtain ⟨key, keyed⟩ := Option.ne_none_iff_exists'.mp keyed
  refine ⟨"[" ++ key.display ++ " with (", ")]", fun arguments present => ?_⟩
  unfold ownText content
  rw [given?_put_with (by decide), given?_put_with (by decide)]
  simp only [untexted, keyed]
  split
  next unnamed => simp [Keyed.get?_put_self] at unnamed
  next given named =>
    obtain rfl : arguments = given := by simpa [Keyed.get?_put_self] using named
    rw [if_pos present, result_bind (r.steady_translationArguments arguments) fun _ => steady_pure _]
    exact result_of_renders (renders_pure _)

end Arguments

/-! ### Spots -/

/-- Where a component may stand in a message: it is the message, or it stands between others in the
list that is the message, in the nested list of a component, or among the arguments of one, or it is
the only argument of one. -/
inductive Spot where
  | message
  | listed (before after : List Json)
  | nested (outer : Spot) (fields : List (String × Json)) (before after : List Json)
  | argument (outer : Spot) (fields : List (String × Json)) (before after : List Json)
  | onlyArgument (outer : Spot) (fields : List (String × Json))

namespace Spot

/-- The message with the component at the spot. -/
def fill : Spot → Json → Json
  | .message, c => c
  | .listed before after, c => .list (before ++ c :: after)
  | .nested outer fields before after, c =>
    outer.fill (.object (Keyed.put "rawtext" (.list (before ++ c :: after)) fields))
  | .argument outer fields before after, c =>
    outer.fill (.object (Keyed.put "with" (.list (before ++ c :: after)) fields))
  | .onlyArgument outer fields, c => outer.fill (.object (Keyed.put "with" c fields))

/-- A bare text may stand at the spot, as a member of a list. -/
def IsInList : Spot → Prop
  | .listed _ _ | .nested _ _ _ _ | .argument _ _ _ _ => True
  | .message | .onlyArgument _ _ => False

def IsArgument : Spot → Prop
  | .argument _ _ _ _ => True
  | _ => False

/-- Whether the spot is looked at: all the arguments on the way to it are those of translations. -/
def IsShown : Spot → Prop
  | .message | .listed _ _ => True
  | .nested outer _ _ _ => outer.IsShown
  | .argument outer fields _ _ | .onlyArgument outer fields => outer.IsShown ∧ IsTranslation fields

/-- The component may stand at the spot: anything in a list, and an object with a field anywhere. -/
def Takes (spot : Spot) (c : Json) : Prop :=
  spot.IsInList ∨ ∃ entry fields, c = .object (entry :: fields)

/-- What a component shows at the spot. -/
def textAt (r : Renderer) (spot : Spot) (c : Json) : String :=
  match spot with
  | .argument _ _ _ _ => r.argumentText c
  | _ => (r.component c).result

/-- The message shows what stands at the spot, between two texts that do not depend on it. -/
def Frames (r : Renderer) (spot : Spot) : Prop :=
  ∃ leading trailing, ∀ c, spot.Takes c →
    Renders (r.renderDecoded (spot.fill c)) (leading ++ spot.textAt r c ++ trailing)

/-- The message does not show what stands at the spot. -/
def Hides (r : Renderer) (spot : Spot) : Prop :=
  ∃ text, ∀ c, spot.Takes c → Renders (r.renderDecoded (spot.fill c)) text

variable {r : Renderer}

theorem takes_put (spot : Spot) (key : String) (value : Json) (fields : List (String × Json)) :
    spot.Takes (.object (Keyed.put key value fields)) := by
  right
  cases fields with
  | nil => exact ⟨_, _, rfl⟩
  | cons entry rest =>
    rw [Keyed.put]
    split <;> exact ⟨_, _, rfl⟩

/-- An object shows the same at every spot. -/
theorem textAt_object (spot : Spot) (fields : List (String × Json)) :
    spot.textAt r (.object fields) = r.ownText fields ++ (r.nested fields).result := by
  rw [← result_component_object]
  cases spot <;> rfl

theorem frames_listed (before after : List Json) : Frames r (.listed before after) := by
  refine ⟨r.shown before, r.shown after, fun c _ => ?_⟩
  have shows : r.shown (before ++ c :: after) =
      r.shown before ++ (r.component c).result ++ r.shown after := by
    rw [shown_append, shown_cons, String.append_assoc]
  exact shows ▸ r.renders_components (before ++ c :: after)

/-- A spot in an object is framed if the object is and shows the spot between two texts. -/
theorem frames_within {outer : Spot} (framed : outer.Frames r) {spot : Spot}
    {object : Json → List (String × Json)} (inside : ∀ c, spot.fill c = outer.fill (.object (object c)))
    (taken : ∀ c, outer.Takes (.object (object c)))
    (around : ∃ leading trailing, ∀ c, spot.Takes c → outer.textAt r (.object (object c)) =
      leading ++ spot.textAt r c ++ trailing) : spot.Frames r := by
  obtain ⟨left, right, renders⟩ := framed
  obtain ⟨leading, trailing, shows⟩ := around
  refine ⟨left ++ leading, trailing ++ right, fun c takes => ?_⟩
  have here := renders (.object (object c)) (taken c)
  rw [← inside, shows c takes] at here
  simpa only [String.append_assoc] using here

theorem hides_within {outer : Spot} (hidden : outer.Hides r) {spot : Spot}
    {object : Json → List (String × Json)} (inside : ∀ c, spot.fill c = outer.fill (.object (object c)))
    (taken : ∀ c, outer.Takes (.object (object c))) : spot.Hides r := by
  obtain ⟨text, renders⟩ := hidden
  exact ⟨text, fun c _ => inside c ▸ renders (.object (object c)) (taken c)⟩

theorem hides_of_same {outer : Spot} (framed : outer.Frames r) {spot : Spot}
    {object : Json → List (String × Json)} (inside : ∀ c, spot.fill c = outer.fill (.object (object c)))
    (taken : ∀ c, outer.Takes (.object (object c))) {text : String}
    (same : ∀ c, outer.textAt r (.object (object c)) = text) : spot.Hides r := by
  obtain ⟨left, right, renders⟩ := framed
  refine ⟨left ++ text ++ right, fun c _ => ?_⟩
  have here := renders (.object (object c)) (taken c)
  rwa [← inside, same] at here

section Objects

variable (fields : List (String × Json)) (before after : List Json)

theorem around_nested (outer : Spot) : ∃ leading trailing, ∀ c,
    outer.textAt r (.object (Keyed.put "rawtext" (.list (before ++ c :: after)) fields)) =
      leading ++ (r.component c).result ++ trailing := by
  refine ⟨r.ownText fields ++ r.shown before, r.shown after, fun c => ?_⟩
  rw [textAt_object, ownText_put_rawtext, r.nested_of_rawtext (Keyed.get?_put_self _ _ _),
    shown_append, shown_cons]
  simp only [String.append_assoc]

theorem textAt_put_with (outer : Spot) (arguments : Json) :
    outer.textAt r (.object (Keyed.put "with" arguments fields)) =
      r.ownText (Keyed.put "with" arguments fields) ++ (r.nested fields).result := by
  rw [textAt_object, nested_put_with]

theorem around_argument (outer : Spot) (translates : IsTranslation fields) :
    ∃ leading trailing, ∀ c,
      outer.textAt r (.object (Keyed.put "with" (.list (before ++ c :: after)) fields)) =
        leading ++ r.argumentText c ++ trailing := by
  obtain ⟨front, back, own⟩ := r.ownText_of_translation translates
  obtain ⟨leading, trailing, around⟩ := exists_around_intercalated ", "
    (before.map r.argumentText) (after.map r.argumentText)
  -- The nested list is shown behind the translation.
  refine ⟨front ++ leading, trailing ++ back ++ (r.nested fields).result, fun c => ?_⟩
  rw [textAt_put_with, own _ (by simp [Json.isPresent]), result_translationArguments,
    List.map_append, List.map_cons, around]
  simp only [String.append_assoc]

theorem around_onlyArgument (outer : Spot) (translates : IsTranslation fields) :
    ∃ leading trailing, ∀ entry others,
      outer.textAt r (.object (Keyed.put "with" (.object (entry :: others)) fields)) =
        leading ++ (r.component (.object (entry :: others))).result ++ trailing := by
  obtain ⟨front, back, own⟩ := r.ownText_of_translation translates
  refine ⟨front, back ++ (r.nested fields).result, fun entry others => ?_⟩
  have single : r.translationArguments (.object (entry :: others)) =
      r.component (.object (entry :: others)) := by
    rw [translationArguments]
    rintro items ⟨⟩
  rw [textAt_put_with, own _ rfl, single]
  simp only [String.append_assoc]

end Objects

/-- A spot in the arguments of an object, of which one that is no translation shows nothing. -/
theorem hides_of_plain {outer : Spot} {fields : List (String × Json)} {arguments : Json → Json}
    (framed : outer.IsShown → outer.Frames r) (hidden : ¬ outer.IsShown → outer.Hides r)
    {spot : Spot}
    (inside : ∀ c, spot.fill c = outer.fill (.object (Keyed.put "with" (arguments c) fields)))
    (unshown : ¬ (outer.IsShown ∧ IsTranslation fields)) : spot.Hides r := by
  have taken (c : Json) := outer.takes_put "with" (arguments c) fields
  by_cases shown : outer.IsShown
  · -- The object is looked at, so it is no translation, and its arguments do not matter to it.
    have plain : ¬ IsTranslation fields := fun translates => unshown ⟨shown, translates⟩
    have same (c : Json) : outer.textAt r (.object (Keyed.put "with" (arguments c) fields)) =
        r.ownText fields ++ (r.nested fields).result := by
      rw [textAt_put_with, ownText_put_with r plain]
    exact hides_of_same (framed shown) inside taken same
  · exact hides_within (hidden shown) inside taken

/-- A spot that is looked at is shown, and any other is hidden. -/
theorem frames_or_hides (spot : Spot) :
    (spot.IsShown → spot.Frames r) ∧ (¬ spot.IsShown → spot.Hides r) := by
  induction spot with
  | message =>
    refine ⟨fun _ => ⟨"", "", fun c takes => ?_⟩, fun hidden => absurd trivial hidden⟩
    -- A message by itself is a component only if it is an object with a field.
    obtain ⟨⟨⟩⟩ | ⟨entry, fields, rfl⟩ := takes
    rw [String.empty_append, String.append_empty]
    exact r.steady_component (.object (entry :: fields))
  | listed before after =>
    exact ⟨fun _ => frames_listed before after, fun hidden => absurd trivial hidden⟩
  | nested outer fields before after ih =>
    have taken (c : Json) := outer.takes_put "rawtext" (.list (before ++ c :: after)) fields
    obtain ⟨leading, trailing, around⟩ := around_nested (r := r) fields before after outer
    exact ⟨fun shown => frames_within (ih.1 shown) (fun _ => rfl) taken
        ⟨leading, trailing, fun c _ => around c⟩,
      fun hidden => hides_within (ih.2 hidden) (fun _ => rfl) taken⟩
  | argument outer fields before after ih =>
    have taken (c : Json) := outer.takes_put "with" (.list (before ++ c :: after)) fields
    refine ⟨fun ⟨shown, translates⟩ => ?_, hides_of_plain ih.1 ih.2 fun _ => rfl⟩
    obtain ⟨leading, trailing, around⟩ :=
      around_argument (r := r) fields before after outer translates
    exact frames_within (ih.1 shown) (fun _ => rfl) taken ⟨leading, trailing, fun c _ => around c⟩
  | onlyArgument outer fields ih =>
    have taken (c : Json) := outer.takes_put "with" c fields
    refine ⟨fun ⟨shown, translates⟩ => ?_, hides_of_plain ih.1 ih.2 fun _ => rfl⟩
    obtain ⟨leading, trailing, around⟩ := around_onlyArgument (r := r) fields outer translates
    refine frames_within (ih.1 shown) (fun _ => rfl) taken ⟨leading, trailing, fun c takes => ?_⟩
    obtain ⟨⟨⟩⟩ | ⟨entry, others, rfl⟩ := takes
    exact around entry others

theorem fill_cases {spot : Spot} {c : Json} (takes : spot.Takes c) :
    (∃ items, spot.fill c = .list items) ∨ ∃ fields, spot.fill c = .object fields := by
  induction spot generalizing c with
  | message =>
    obtain ⟨⟨⟩⟩ | ⟨entry, fields, rfl⟩ := takes
    exact .inr ⟨_, rfl⟩
  | listed before after => exact .inl ⟨_, rfl⟩
  | nested outer _ _ _ ih | argument outer _ _ _ ih | onlyArgument outer _ ih =>
    exact ih (outer.takes_put _ _ _)

end Spot

/-! ### Bare texts -/

variable {r : Renderer}

/-- Whether a text stands bare in a list of a message or as the component that is only this text, the
message shows the same, unless the list is that of the arguments of a translation that is shown, and
the text has a formatting code to lose. -/
theorem bare_texts_are_components_but_for_codes (r : Renderer) (spot : Spot)
    (listed : spot.IsInList) (text : String) (raw other : Json)
    (bare : Decodes raw (spot.fill (.text text)))
    (wrapped : Decodes other (spot.fill (textComponent text))) :
    ∃ shown shownOther, Renders (r.render raw).run (.ok shown) ∧
      Renders (r.render other).run (.ok shownOther) ∧
      (shownOther = shown ↔ (spot.IsArgument → spot.IsShown → r.strip text = text)) := by
  have takes (c : Json) : spot.Takes c := .inl listed
  have component : spot.textAt r (textComponent text) = r.strip text := by
    cases spot <;> exact r.result_component_textComponent text
  by_cases shows : spot.IsShown
  · obtain ⟨leading, trailing, renders⟩ := spot.frames_or_hides.1 shows
    refine ⟨_, _, renders_of_decodes bare (Spot.fill_cases (takes _)) (renders _ (takes _)),
      renders_of_decodes wrapped (Spot.fill_cases (takes _)) (renders _ (takes _)), ?_⟩
    rw [component, ← String.toList_inj]
    simp only [String.toList_append, List.append_cancel_left_eq, List.append_cancel_right_eq,
      String.toList_inj]
    cases spot with
    | argument outer fields before after => exact ⟨fun same _ _ => same, fun same => same trivial shows⟩
    | message | onlyArgument => cases listed
    | _ => exact ⟨fun _ => nofun, fun _ => (r.result_component_text text).symm⟩
  · obtain ⟨same, renders⟩ := spot.frames_or_hides.2 shows
    exact ⟨same, same, renders_of_decodes bare (Spot.fill_cases (takes _)) (renders _ (takes _)),
      renders_of_decodes wrapped (Spot.fill_cases (takes _)) (renders _ (takes _)),
      fun _ _ shown => absurd shown shows, fun _ => rfl⟩

/-- The argument of a translation keeps its colour as a text and loses it as a component. -/
theorem bare_texts_are_components_but_for_codes_of_colour :
    let r : Renderer := {}
    let spot : Spot := .argument .message [("translate", .text "k")] [] []
    spot.fill (.text "§aX") = .object [("translate", .text "k"), ("with", .list [.text "§aX"])] ∧
      ∃ shown shownOther, Renders (r.render (spot.fill (.text "§aX"))).run (.ok shown) ∧
        Renders (r.render (spot.fill (textComponent "§aX"))).run (.ok shownOther) ∧
        shownOther ≠ shown := by
  intro r spot
  have translates : IsTranslation [("translate", .text "k")] := by
    simp [IsTranslation, given?, Keyed.get?, Json.isPresent]
  obtain ⟨shown, shownOther, bare, wrapped, same⟩ := bare_texts_are_components_but_for_codes r spot
    trivial "§aX" _ _ (.decoded _) (.decoded _)
  refine ⟨by simp [spot, Spot.fill, Keyed.put], shown, shownOther, bare, wrapped, fun equal => ?_⟩
  exact absurd (same.mp equal trivial ⟨trivial, translates⟩) (by decide +kernel)

end Targeting.Renderer
