import Targeting.Proofs.BareText

/-!
# Nested lists in a message

A component that is only a nested list stands for the members of the list. They
can be put in its place, in any list of components and at any depth, and the
message renders as before: to the same text, with the same notices, and with the
same selectors in the cache.

## Main result

`Renderer.nested_lists_are_transparent`.

## Proof strategy

Rendering a list is rendering its parts in a row, so that a part may be exchanged
for another one that renders the same. That an object renders the same is then
passed on from the inside out, by induction over the spot where it stands.
-/
namespace Targeting.Renderer

/-- The component that is only a nested list. -/
def wrapper (items : List Json) : Json := .object [("rawtext", .list items)]

variable {r : Renderer}

/-! ### Objects with a nested list -/

section Objects

variable {fields : List (String × Json)} {items : List Json}

theorem content_nil : r.content [] = pure "" := by
  unfold content
  rfl

theorem content_remove_rawtext : r.content (Keyed.remove "rawtext" fields) = r.content fields := by
  apply content_congr_of_same
  intro name member
  apply Keyed.get?_remove_of_ne
  rintro rfl
  exact absurd member (by decide)

/-- An object shows its own content and then its nested list. -/
theorem component_of_list (listed : Keyed.get? "rawtext" fields = some (.list items)) :
    r.component (.object fields) = do
      let own ← r.content fields
      let rest ← r.components items
      return own ++ rest := by
  rw [component, nested_of_list listed]

theorem component_put_rawtext :
    r.component (.object (Keyed.put "rawtext" (.list items) fields)) = do
      let own ← r.content fields
      let rest ← r.components items
      return own ++ rest := by
  rw [component_of_list (Keyed.get?_put_self _ _ _), content_put_rawtext]

theorem component_remove_rawtext :
    r.component (.object (Keyed.remove "rawtext" fields)) = r.content fields := by
  rw [component, content_remove_rawtext, nested_of_lacking (Keyed.get?_remove_self _ _)]
  simp only [pure_bind, String.append_empty, bind_pure]

theorem component_wrapper (items : List Json) : r.component (wrapper items) = r.components items := by
  change r.component (.object (Keyed.put "rawtext" (.list items) [])) = r.components items
  rw [component_put_rawtext, content_nil]
  simp only [pure_bind, String.empty_append, bind_pure]

end Objects

/-! ### Lists -/

theorem components_cons (message : Json) (rest : List Json) :
    r.components (message :: rest) = do
      let first ← r.component message
      let others ← r.components rest
      return first ++ others := by
  rw [components]

theorem components_nil : r.components [] = pure "" := by
  rw [components]

theorem components_singleton (message : Json) : r.components [message] = r.component message := by
  rw [components_cons, components_nil]
  simp

theorem components_append (first second : List Json) :
    r.components (first ++ second) = do
      let left ← r.components first
      let right ← r.components second
      return left ++ right := by
  induction first with
  | nil => simp only [List.nil_append, components_nil, pure_bind, String.empty_append, bind_pure]
  | cons message rest ih =>
    rw [List.cons_append, components_cons, ih, components_cons]
    simp only [bind_assoc, pure_bind, String.append_assoc]

/-- Lists may be exchanged for others that render the same. -/
theorem components_congr (before after : List Json) {first second : List Json}
    (same : r.components first = r.components second) :
    r.components (before ++ first ++ after) = r.components (before ++ second ++ after) := by
  simp only [components_append, same]

theorem components_wrapped (before items after : List Json) :
    r.components (before ++ wrapper items :: after) = r.components (before ++ items ++ after) := by
  rw [List.append_cons]
  apply components_congr
  rw [components_singleton, component_wrapper]

theorem components_of_list (before after : List Json) {items : List Json}
    {fields : List (String × Json)} (listed : Keyed.get? "rawtext" fields = some (.list items)) :
    r.components (before ++ .object fields :: after) =
      r.components (before ++ .object (Keyed.remove "rawtext" fields) :: items ++ after) := by
  rw [List.append_cons]
  apply components_congr
  rw [components_singleton, component_of_list listed, components_cons, component_remove_rawtext]

/-! ### Arguments -/

theorem argumentTexts_text (text : String) (rest : List Json) :
    r.argumentTexts (.text text :: rest) = do
      let others ← r.argumentTexts rest
      return text :: others := by
  rw [argumentTexts]

theorem argumentTexts_component {c : Json} (untexted : ∀ text, c ≠ .text text) (rest : List Json) :
    r.argumentTexts (c :: rest) = do
      let first ← r.component c
      let others ← r.argumentTexts rest
      return first :: others := by
  rw [argumentTexts]
  exact untexted

/-- Behind the same arguments, arguments that render the same may be exchanged. -/
theorem argumentTexts_congr (before : List Json) {first second : List Json}
    (same : r.argumentTexts first = r.argumentTexts second) :
    r.argumentTexts (before ++ first) = r.argumentTexts (before ++ second) := by
  induction before with
  | nil => exact same
  | cons c rest ih =>
    rw [List.cons_append, List.cons_append]
    cases c with
    | text text => rw [argumentTexts_text, argumentTexts_text, ih]
    | _ =>
      rw [argumentTexts_component (by rintro text ⟨⟩), argumentTexts_component (by rintro text ⟨⟩),
        ih]

theorem translationArguments_list (items : List Json) :
    r.translationArguments (.list items) = do
      let texts ← r.argumentTexts items
      return ", ".intercalate texts := by
  rw [translationArguments]

theorem translationArguments_object (fields : List (String × Json)) :
    r.translationArguments (.object fields) = r.component (.object fields) := by
  rw [translationArguments]
  rintro items ⟨⟩

/-- Other arguments that are there as much and read the same do not change an object. -/
theorem component_put_with {a b : Json} (fields : List (String × Json))
    (present : a.isPresent = b.isPresent)
    (same : r.translationArguments a = r.translationArguments b) :
    r.component (.object (Keyed.put "with" a fields)) =
      r.component (.object (Keyed.put "with" b fields)) := by
  have own : r.content (Keyed.put "with" a fields) = r.content (Keyed.put "with" b fields) := by
    apply content_congr
    · intro name member
      have other : "with" ≠ name := by
        rintro rfl
        exact absurd member (by decide)
      rw [Keyed.get?_put_of_ne other, Keyed.get?_put_of_ne other]
    · rw [Keyed.get?_put_self, Keyed.get?_put_self]
      exact .some ⟨present, same⟩
  rw [component, component, own, nested_put_with, nested_put_with]

/-! ### Spots -/

theorem isPresent_list (before after : List Json) (c : Json) :
    (Json.list (before ++ c :: after)).isPresent = true := by
  cases before <;> rfl

/-- An object with at least one field. -/
def IsFilled (c : Json) : Prop := ∃ entry fields, c = .object (entry :: fields)

theorem isFilled_put (key : String) (value : Json) (fields : List (String × Json)) :
    IsFilled (.object (Keyed.put key value fields)) :=
  (Spot.message.takes_put key value fields).resolve_left id

/-- Objects that render the same may be exchanged at every spot. -/
theorem renderDecoded_fill_congr (spot : Spot) {c d : Json} (first : IsFilled c) (second : IsFilled d)
    (same : r.component c = r.component d) :
    r.renderDecoded (spot.fill c) = r.renderDecoded (spot.fill d) := by
  induction spot generalizing c d with
  | message =>
    obtain ⟨_, _, rfl⟩ := first
    obtain ⟨_, _, rfl⟩ := second
    exact same
  | listed before after =>
    change r.components _ = r.components _
    rw [List.append_cons, List.append_cons before d]
    apply components_congr
    rw [components_singleton, components_singleton, same]
  | nested outer fields before after ih =>
    refine ih (isFilled_put _ _ _) (isFilled_put _ _ _) ?_
    rw [component_put_rawtext, component_put_rawtext, components_append, components_append,
      components_cons, components_cons, same]
  | argument outer fields before after ih =>
    refine ih (isFilled_put _ _ _) (isFilled_put _ _ _) (component_put_with fields ?_ ?_)
    · rw [isPresent_list, isPresent_list]
    · have texts : r.argumentTexts (before ++ c :: after) = r.argumentTexts (before ++ d :: after) := by
        apply argumentTexts_congr
        obtain ⟨_, _, rfl⟩ := first
        obtain ⟨_, _, rfl⟩ := second
        rw [argumentTexts_component (by rintro text ⟨⟩), argumentTexts_component (by rintro text ⟨⟩),
          same]
      rw [translationArguments_list, translationArguments_list, texts]
  | onlyArgument outer fields ih =>
    refine ih (isFilled_put _ _ _) (isFilled_put _ _ _) (component_put_with fields ?_ ?_)
    · obtain ⟨_, _, rfl⟩ := first
      obtain ⟨_, _, rfl⟩ := second
      rfl
    · obtain ⟨_, _, rfl⟩ := first
      obtain ⟨_, _, rfl⟩ := second
      rw [translationArguments_object, translationArguments_object, same]

/-- Where a list of components stands: it is the message, or the nested list of an object at a spot
of the message. -/
inductive Listing where
  | message
  | nested (outer : Spot) (fields : List (String × Json))

namespace Listing

/-- The message with the components in the list. -/
def fill : Listing → List Json → Json
  | .message, items => .list items
  | .nested outer fields, items => outer.fill (.object (Keyed.put "rawtext" (.list items) fields))

theorem renderDecoded_fill_congr (listing : Listing) {first second : List Json}
    (same : r.components first = r.components second) :
    r.renderDecoded (listing.fill first) = r.renderDecoded (listing.fill second) := by
  cases listing with
  | message => exact same
  | nested outer fields =>
    refine Renderer.renderDecoded_fill_congr outer (isFilled_put _ _ _) (isFilled_put _ _ _) ?_
    rw [component_put_rawtext, component_put_rawtext, same]

theorem fill_cases (listing : Listing) (items : List Json) :
    (∃ others, listing.fill items = .list others) ∨ ∃ fields, listing.fill items = .object fields := by
  cases listing with
  | message => exact .inl ⟨items, rfl⟩
  | nested outer fields => exact Spot.fill_cases (outer.takes_put _ _ _)

end Listing

/-! ### Lists without wrappers -/

mutual

/-- The components without wrappers: what a wrapper holds takes its place, at any depth. -/
def flattened : List Json → List Json
  | [] => []
  | c :: rest => flatParts c ++ flattened rest

/-- What takes the place of a component in a list. -/
def flatParts : Json → List Json
  | .object fields =>
    match flatFields fields with
    | [("rawtext", .list items)] => items
    | others => [.object others]
  | c => [c]

def flatFields : List (String × Json) → List (String × Json)
  | [] => []
  | (name, value) :: rest => (name, flatField name value) :: flatFields rest

/-- The lists of components in a field: a nested list, and those in the arguments of a translation. -/
def flatField (name : String) : Json → Json
  | .list items =>
    if name = "rawtext" then .list (flattened items)
    else if name = "with" then .list (flatArguments items)
    else .list items
  | .object fields => if name = "with" then .object (flatFields fields) else .object fields
  | value => value

def flatArguments : List Json → List Json
  | [] => []
  | .object fields :: rest => .object (flatFields fields) :: flatArguments rest
  | c :: rest => c :: flatArguments rest

end

theorem get?_flatFields (name : String) (fields : List (String × Json)) :
    Keyed.get? name (flatFields fields) = (Keyed.get? name fields).map (flatField name) := by
  induction fields with
  | nil => rfl
  | cons entry rest ih =>
    obtain ⟨key, value⟩ := entry
    rw [flatFields, Keyed.get?, Keyed.get?]
    split
    next same => rw [same, Option.map_some]
    next => exact ih

/-- Only lists of components are changed. -/
theorem flatField_of_ne {name : String} (listed : name ≠ "rawtext") (arguments : name ≠ "with")
    (value : Json) : flatField name value = value := by
  cases value with
  | list items => rw [flatField, if_neg listed, if_neg arguments]
  | object fields => rw [flatField, if_neg arguments]
  | _ => rfl

theorem isPresent_flatField_with (value : Json) :
    (flatField "with" value).isPresent = value.isPresent := by
  cases value with
  | list items =>
    cases items with
    | nil => rfl
    | cons c rest => cases c <;> rfl
  | object fields => cases fields <;> rfl
  | _ => rfl

theorem flatParts_of_wrapper {fields : List (String × Json)} {items : List Json}
    (wraps : flatFields fields = [("rawtext", .list items)]) : flatParts (.object fields) = items := by
  simp [flatParts, wraps]

theorem flatParts_of_not_wrapper {fields : List (String × Json)}
    (other : ∀ items, flatFields fields ≠ [("rawtext", .list items)]) :
    flatParts (.object fields) = [.object (flatFields fields)] := by
  rw [flatParts]
  split
  next items wraps => exact absurd wraps (other items)
  next => rfl

theorem components_flatParts_object (fields : List (String × Json)) :
    r.components (flatParts (.object fields)) = r.component (.object (flatFields fields)) := by
  by_cases wraps : ∃ items, flatFields fields = [("rawtext", .list items)]
  · obtain ⟨items, wraps⟩ := wraps
    rw [flatParts_of_wrapper wraps, wraps]
    exact (r.component_wrapper items).symm
  · rw [flatParts_of_not_wrapper (not_exists.mp wraps), components_singleton]

/-- A nested list without wrappers comes from a nested list. -/
theorem get?_rawtext_flatFields {fields : List (String × Json)} {items : List Json} :
    Keyed.get? "rawtext" (flatFields fields) = some (.list items) ↔
      ∃ own, Keyed.get? "rawtext" fields = some (.list own) ∧ flattened own = items := by
  rw [get?_flatFields, Option.map_eq_some_iff]
  constructor
  · rintro ⟨value, found, same⟩
    cases value <;> cases same
    exact ⟨_, found, rfl⟩
  · rintro ⟨own, found, rfl⟩
    exact ⟨_, found, rfl⟩

theorem sizeOf_list_get?_lt {name : String} {fields : List (String × Json)} {items : List Json}
    (found : Keyed.get? name fields = some (.list items)) : sizeOf items < sizeOf fields := by
  have smaller := Json.sizeOf_get?_lt found
  rw [Json.list.sizeOf_spec] at smaller
  omega

mutual

theorem components_flattened (items : List Json) : r.components (flattened items) = r.components items := by
  match items with
  | [] => rfl
  | c :: rest =>
    have first : r.components (flatParts c) = r.component c := by
      match c with
      | .object fields => rw [components_flatParts_object, component_flatFields fields]
      | .null | .flag _ | .whole _ | .decimal _ | .text _ | .list _ =>
        rw [flatParts, components_singleton]
        rintro _ ⟨⟩
    rw [flattened, components_append, first, components_flattened rest, components_cons]
termination_by sizeOf items

theorem component_flatFields (fields : List (String × Json)) :
    r.component (.object (flatFields fields)) = r.component (.object fields) := by
  have own : r.content (flatFields fields) = r.content fields := by
    apply content_congr
    · intro name member
      have listed : name ≠ "rawtext" := by
        rintro rfl
        exact absurd member (by decide)
      have arguments : name ≠ "with" := by
        rintro rfl
        exact absurd member (by decide)
      have kept : flatField name = id := funext (flatField_of_ne listed arguments)
      rw [get?_flatFields, kept, Option.map_id, id]
    · rw [get?_flatFields]
      match found : Keyed.get? "with" fields with
      | none => exact .none
      | some value =>
        have smaller := Json.sizeOf_get?_lt found
        exact .some ⟨isPresent_flatField_with value, translationArguments_flatField value⟩
  have rest : r.nested (flatFields fields) = r.nested fields := by
    by_cases listed : ∃ items, Keyed.get? "rawtext" fields = some (.list items)
    · obtain ⟨items, found⟩ := listed
      have smaller : sizeOf items < sizeOf fields := sizeOf_list_get?_lt found
      rw [nested_of_list (get?_rawtext_flatFields.mpr ⟨items, found, rfl⟩), nested_of_list found,
        components_flattened items]
    · have unlisted (items : List Json) : Keyed.get? "rawtext" (flatFields fields) ≠ some (.list items) := by
        intro found
        obtain ⟨own, found, -⟩ := get?_rawtext_flatFields.mp found
        exact listed ⟨own, found⟩
      rw [nested_of_unlisted unlisted, nested_of_unlisted (not_exists.mp listed)]
  rw [component, component, own, rest]
termination_by sizeOf fields

theorem translationArguments_flatField (value : Json) :
    r.translationArguments (flatField "with" value) = r.translationArguments value := by
  match value with
  | .list items =>
    rw [flatField, if_neg (by decide), if_pos rfl, translationArguments_list,
      argumentTexts_flatArguments items, translationArguments_list]
  | .object fields =>
    rw [flatField, if_pos rfl, translationArguments_object, component_flatFields fields,
      translationArguments_object]
  | .null | .flag _ | .whole _ | .decimal _ | .text _ => rfl
termination_by sizeOf value

theorem argumentTexts_flatArguments (items : List Json) :
    r.argumentTexts (flatArguments items) = r.argumentTexts items := by
  match items with
  | [] => rfl
  | .object fields :: rest =>
    rw [flatArguments, argumentTexts_component (by rintro text ⟨⟩), component_flatFields fields,
      argumentTexts_flatArguments rest, argumentTexts_component (by rintro text ⟨⟩)]
  | .text text :: rest =>
    rw [flatArguments, argumentTexts_text, argumentTexts_flatArguments rest, argumentTexts_text]
    rintro _ ⟨⟩
  | .null :: rest | .flag _ :: rest | .whole _ :: rest | .decimal _ :: rest | .list _ :: rest =>
    rw [flatArguments, argumentTexts_component (by rintro text ⟨⟩), argumentTexts_flatArguments rest,
      argumentTexts_component (by rintro text ⟨⟩)]
    rintro _ ⟨⟩
termination_by sizeOf items

end

/-- The lists of components in the component are without wrappers. -/
def IsFlatInside (c : Json) : Prop := ∀ fields, c = .object fields → ∃ own, fields = flatFields own

theorem isFlatInside_of_mem_flattened (items : List Json) :
    ∀ c ∈ flattened items, (∀ others, c ≠ wrapper others) ∧ IsFlatInside c := by
  match items with
  | [] => exact List.forall_mem_nil _
  | first :: rest =>
    rw [flattened, List.forall_mem_append]
    refine ⟨?_, isFlatInside_of_mem_flattened rest⟩
    match first with
    | .object fields =>
      by_cases wraps : ∃ items, flatFields fields = [("rawtext", .list items)]
      · -- The members of a wrapper are flattened themselves.
        obtain ⟨items, wraps⟩ := wraps
        have listed : Keyed.get? "rawtext" (flatFields fields) = some (.list items) := by
          rw [wraps]
          rfl
        obtain ⟨own, found, rfl⟩ := get?_rawtext_flatFields.mp listed
        have smaller : sizeOf own < sizeOf fields := sizeOf_list_get?_lt found
        rw [flatParts_of_wrapper wraps]
        exact isFlatInside_of_mem_flattened own
      · rw [flatParts_of_not_wrapper (not_exists.mp wraps), List.forall_mem_singleton]
        refine ⟨fun others same => wraps ⟨others, Json.object.inj same⟩, ?_⟩
        rintro _ ⟨⟩
        exact ⟨fields, rfl⟩
    | .null | .flag _ | .whole _ | .decimal _ | .text _ | .list _ =>
      rw [flatParts, List.forall_mem_singleton]
      · exact ⟨nofun, nofun⟩
      · rintro _ ⟨⟩
termination_by sizeOf items

theorem isFlatInside_of_mem_flatArguments {items : List Json} {c : Json}
    (member : c ∈ flatArguments items) : IsFlatInside c := by
  rintro fields rfl
  induction items with
  | nil => cases member
  | cons first rest ih =>
    cases first with
    | object own =>
      rw [flatArguments, List.mem_cons] at member
      rcases member with same | member
      · exact ⟨own, Json.object.inj same⟩
      · exact ih member
    | _ =>
      rw [flatArguments, List.mem_cons] at member
      · exact ih (member.resolve_left nofun)
      · rintro _ ⟨⟩

theorem isFlatInside_of_fill {spot : Spot} {items : List Json} {c : Json}
    (flat : spot.fill c = .list (flattened items)) : IsFlatInside c := by
  induction spot generalizing c with
  | message =>
    rintro fields rfl
    cases flat
  | listed before after =>
    apply (isFlatInside_of_mem_flattened items c _).2
    rw [← Json.list.inj flat]
    simp
  | nested outer fields before after ih =>
    obtain ⟨own, same⟩ := ih flat _ rfl
    obtain ⟨nested, -, parts⟩ := get?_rawtext_flatFields.mp (same ▸ Keyed.get?_put_self _ _ _)
    apply (isFlatInside_of_mem_flattened nested c _).2
    rw [parts]
    simp
  | argument outer fields before after ih =>
    obtain ⟨own, same⟩ := ih flat _ rfl
    have arguments := Keyed.get?_put_self "with" (.list (before ++ c :: after)) fields
    rw [same, get?_flatFields, Option.map_eq_some_iff] at arguments
    obtain ⟨value, -, listed⟩ := arguments
    cases value with
    | list items =>
      have member : c ∈ flatArguments items := by
        rw [Json.list.inj listed]
        simp
      exact isFlatInside_of_mem_flatArguments member
    | _ => cases listed
  | onlyArgument outer fields ih =>
    rintro inner rfl
    obtain ⟨own, same⟩ := ih flat _ rfl
    have arguments := Keyed.get?_put_self "with" (.object inner) fields
    rw [same, get?_flatFields, Option.map_eq_some_iff] at arguments
    obtain ⟨value, -, single⟩ := arguments
    cases value <;> cases single
    exact ⟨_, rfl⟩

/-- In a flattened message no wrapper is left in any list of components. -/
theorem fill_wrapper_ne_flattened (listing : Listing) (before items after others : List Json) :
    listing.fill (before ++ wrapper items :: after) ≠ .list (flattened others) := by
  intro flat
  cases listing with
  | message =>
    apply (isFlatInside_of_mem_flattened others (wrapper items) _).1 items rfl
    rw [← Json.list.inj flat]
    simp
  | nested outer fields =>
    obtain ⟨own, same⟩ := isFlatInside_of_fill flat _ rfl
    obtain ⟨nested, -, parts⟩ := get?_rawtext_flatFields.mp (same ▸ Keyed.get?_put_self _ _ _)
    apply (isFlatInside_of_mem_flattened nested (wrapper items) _).1 items rfl
    rw [parts]
    simp

/-! ### Messages -/

/-- Inputs of messages that render the same render the same themselves. -/
theorem render_congr {raw other first second : Json} (decodes : Decodes raw first)
    (alsoDecodes : Decodes other second)
    (composed : (∃ items, first = .list items) ∨ ∃ fields, first = .object fields)
    (alsoComposed : (∃ items, second = .list items) ∨ ∃ fields, second = .object fields)
    (same : r.renderDecoded first = r.renderDecoded second) : r.render raw = r.render other := by
  rw [render_of_decoded composed decodes, render_of_decoded alsoComposed alsoDecodes, same]

/-- A nested list renders as its members do in its place, wherever in a message it stands: as a
component of its own, as the message, or behind the content of an object. So a message renders as the
one in which no component is only a nested list. -/
theorem nested_lists_are_transparent (r : Renderer) :
    (∀ (listing : Listing) (before items after : List Json) (raw other : Json),
      Decodes raw (listing.fill (before ++ wrapper items :: after)) →
        Decodes other (listing.fill (before ++ items ++ after)) → r.render raw = r.render other) ∧
    (∀ (items : List Json) (raw other : Json),
      Decodes raw (.list items) → Decodes other (wrapper items) → r.render raw = r.render other) ∧
    (∀ (listing : Listing) (before items after : List Json) (fields : List (String × Json))
        (raw other : Json), Keyed.get? "rawtext" fields = some (.list items) →
      Decodes raw (listing.fill (before ++ .object fields :: after)) →
        Decodes other (listing.fill
          (before ++ .object (Keyed.remove "rawtext" fields) :: items ++ after)) →
        r.render raw = r.render other) ∧
    (∀ (fields : List (String × Json)) (raw other : Json),
      Decodes raw (.object fields) → Decodes other (.list [.object fields]) →
        r.render raw = r.render other) ∧
    ∀ (items : List Json) (raw other : Json),
      Decodes raw (.list items) → Decodes other (.list (flattened items)) →
        r.render raw = r.render other ∧
          ∀ (listing : Listing) (before inner after : List Json),
            listing.fill (before ++ wrapper inner :: after) ≠ .list (flattened items) := by
  refine ⟨?_, ?_, ?_, ?_, ?_⟩
  · intro listing before items after raw other decodes alsoDecodes
    apply render_congr decodes alsoDecodes (listing.fill_cases _) (listing.fill_cases _)
    exact listing.renderDecoded_fill_congr (r.components_wrapped before items after)
  · intro items raw other decodes alsoDecodes
    apply render_congr decodes alsoDecodes (.inl ⟨_, rfl⟩) (.inr ⟨_, rfl⟩)
    exact (r.component_wrapper items).symm
  · intro listing before items after fields raw other listed decodes alsoDecodes
    apply render_congr decodes alsoDecodes (listing.fill_cases _) (listing.fill_cases _)
    exact listing.renderDecoded_fill_congr (r.components_of_list before after listed)
  · intro fields raw other decodes alsoDecodes
    apply render_congr decodes alsoDecodes (.inr ⟨_, rfl⟩) (.inl ⟨_, rfl⟩)
    exact (r.components_singleton (.object fields)).symm
  · intro items raw other decodes alsoDecodes
    refine ⟨?_, fun listing before inner after => ?_⟩
    case refine_2 => exact fill_wrapper_ne_flattened listing before inner after items
    apply render_congr decodes alsoDecodes (.inl ⟨_, rfl⟩) (.inl ⟨_, rfl⟩)
    exact (r.components_flattened items).symm

theorem nested_lists_are_transparent_of_greeting :
    let chosen := Json.object [("selector", .text "@s")]
    let greeting := Json.object [("text", .text "Hi "), ("rawtext", .list [chosen, .text "!"])]
    let members := [chosen, .text "!"]
    ∀ r : Renderer,
      r.render (.list [.text "Hi ", wrapper members]) = r.render (.list (.text "Hi " :: members)) ∧
      r.render (.list members) = r.render (wrapper members) ∧
      r.render greeting = r.render (.list (.object [("text", .text "Hi ")] :: members)) ∧
      r.render (.list [greeting, wrapper [wrapper members]]) =
        r.render (.list (greeting :: members)) := by
  intro chosen greeting members r
  obtain ⟨spliced, wrapped, behind, single, flattens⟩ := nested_lists_are_transparent r
  refine ⟨?_, wrapped members _ _ (.decoded _) (.decoded _), ?_, ?_⟩
  · exact spliced .message [.text "Hi "] members [] _ _ (.decoded _) (.decoded _)
  · rw [single _ _ _ (.decoded greeting) (.decoded _)]
    exact behind .message [] members [] _ _ _ rfl (.decoded (.list [greeting])) (.decoded _)
  · exact (flattens [greeting, wrapper [wrapper members]] _ _ (.decoded _) (.decoded _)).1

end Targeting.Renderer
