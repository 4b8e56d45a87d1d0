import Targeting.Message.Renderer
import Targeting.Proofs.Stages

/-!
# Rendering and the selector cache

Rendering reads selectors through a cache. A cache that holds what its texts read
as does not show: every step of rendering comes to one and the same result over
all such caches, and leaves such a cache behind. So the text of a message is a
function of the message, and it is put together from the texts of its parts.

## Main result

`renders_components`: the text of a list of components does not depend on the
cache.

## Proof strategy

What holds of each combinator of a step holds of the whole recursion over a
message.
-/
namespace Targeting

/-- No text reads as the empty one. -/
theorem Selector.read_getD (given : Option String) : read (some (given.getD "")) = read given := rfl

namespace Selector.Cache

/-- Every selector in the cache is what its text reads as. -/
def Coherent (cache : Cache) : Prop := ∀ entry ∈ cache.entries, (read (some entry.1)).value = entry.2

theorem coherent_empty : Coherent {} := List.forall_mem_nil _

theorem coherent_touch {cache : Cache} (coherent : cache.Coherent) (text : String) :
    (cache.touch text (read (some text)).value).Coherent := by
  intro entry member
  simp only [touch] at member
  rcases List.mem_cons.mp (List.mem_of_mem_take member) with same | kept
  · rw [same]
  · exact coherent entry (List.mem_of_mem_filter kept)

theorem value_fetch_of_coherent {cache : Cache} (coherent : cache.Coherent) (given : Option String) :
    (cache.fetch given).value =
      ((read given).value, cache.touch (given.getD "") (read given).value) := by
  unfold fetch
  simp only
  split
  next selector held =>
    have same : (read (some (given.getD ""))).value = selector :=
      coherent (given.getD "", selector) (Keyed.mem_of_get? held)
    rw [← same]
    rfl
  next => rfl

/-- A selector comes out of a coherent cache as it would be read. -/
theorem fetch_of_coherent {cache : Cache} (coherent : cache.Coherent) (given : Option String) :
    (cache.fetch given).value.1 = (read given).value ∧ (cache.fetch given).value.2.Coherent := by
  rw [value_fetch_of_coherent coherent]
  exact ⟨rfl, coherent_touch coherent _⟩

end Selector.Cache

/-! ### Steps -/

variable {α β : Type}

/-- What a step comes to over an empty cache. -/
def Rendering.result (step : Rendering α) : α := (step.run {}).value.1

/-- The step comes to the value over every coherent cache, and leaves a coherent cache. -/
def Renders (step : Rendering α) (value : α) : Prop :=
  ∀ cache : Selector.Cache, cache.Coherent →
    (step.run cache).value.1 = value ∧ (step.run cache).value.2.Coherent

/-- The step comes to the same value over all coherent caches. -/
def Steady (step : Rendering α) : Prop := Renders step step.result

theorem result_of_renders {step : Rendering α} {value : α} (renders : Renders step value) :
    step.result = value :=
  (renders {} Selector.Cache.coherent_empty).1

theorem steady_of_renders {step : Rendering α} {value : α} (renders : Renders step value) :
    Steady step := by
  rw [Steady, result_of_renders renders]
  exact renders

theorem renders_pure (value : α) : Renders (pure value) value :=
  fun _ coherent => ⟨rfl, coherent⟩

theorem steady_pure (value : α) : Steady (pure value) := renders_pure value

theorem renders_bind {step : Rendering α} {next : α → Rendering β} {value : α} {result : β}
    (first : Renders step value) (second : Renders (next value) result) :
    Renders (step >>= next) result := by
  intro cache coherent
  obtain ⟨here, kept⟩ := first cache coherent
  have there := second _ kept
  rw [← here] at there
  exact there

theorem steady_bind {step : Rendering α} {next : α → Rendering β} (first : Steady step)
    (second : ∀ value, Steady (next value)) : Steady (step >>= next) :=
  steady_of_renders (renders_bind first (second step.result))

theorem result_bind {step : Rendering α} {next : α → Rendering β} (first : Steady step)
    (second : ∀ value, Steady (next value)) :
    (step >>= next).result = (next step.result).result :=
  result_of_renders (renders_bind first (second step.result))

theorem renders_lift (step : Logged α) : Renders (StateT.lift step : Rendering α) step.value :=
  fun _ coherent => ⟨rfl, coherent⟩

theorem renders_note (notice : Notice) : Renders (Rendering.note notice) () := renders_lift _

theorem renders_chooserOf (given : Option String) (settings : Settings) :
    Renders (chooserOf given settings) (Chooser.ofText given settings) := by
  intro cache coherent
  obtain ⟨read, kept⟩ := Selector.Cache.fetch_of_coherent coherent given
  refine ⟨?_, kept⟩
  rw [Chooser.ofText, ← read]
  rfl

namespace Renderer

variable (r : Renderer)

/-! ### Selectors and scores -/

/-- What a selector text chooses; without a context it chooses nothing at all. -/
def selection (selector : String) : Except Failure (List Entity) :=
  match r.context with
  | none => .error (.unresolved (.noContext selector))
  | some context => asked (outcome ((Chooser.ofText (some selector) r.settings).choose context))

theorem renders_select (selector : String) : Renders (r.select selector) (r.selection selector) := by
  unfold select selection
  cases r.context with
  | none => exact renders_pure _
  | some context =>
    exact renders_bind (renders_chooserOf _ _) (renders_bind (renders_lift _) (renders_pure _))

theorem steady_select (selector : String) : Steady (r.select selector) :=
  steady_of_renders (r.renders_select selector)

theorem steady_renderSelector (selector : String) : Steady (r.renderSelector selector) := by
  unfold renderSelector
  refine steady_bind (r.steady_select selector) fun chosen => ?_
  simp only
  split
  · exact steady_pure _
  · exact steady_bind (steady_of_renders (renders_note _)) fun _ => steady_pure _

theorem steady_selectHolder (selector : String) : Steady (r.selectHolder selector) :=
  steady_bind (r.steady_select selector) fun _ => steady_pure _

theorem steady_resolveScore (context : Context) (board : Scoreboard) (name objective : String) :
    Steady (r.resolveScore context board name objective) := by
  unfold resolveScore
  split
  · exact steady_pure _
  · exact steady_pure _
  · split
    · exact steady_pure _
    · split
      · refine steady_bind (r.steady_selectHolder name) fun holder => ?_
        split
        · exact steady_bind (steady_of_renders (renders_note _)) fun _ =>
            steady_pure _
        · exact steady_pure _
        · exact steady_pure _
      · exact steady_pure _

theorem steady_renderScore (score : Json) : Steady (r.renderScore score) := by
  unfold renderScore
  simp only
  split
  · exact steady_pure _
  · split
    next context board _ _ =>
      refine steady_bind (r.steady_resolveScore context board _ _) fun resolved => ?_
      split
      · exact steady_pure _
      · exact steady_bind (steady_of_renders (renders_note _)) fun _ =>
          steady_pure _
    next =>
      exact steady_bind (steady_of_renders (renders_note _)) fun _ =>
        steady_pure _

/-! ### Components -/

mutual

theorem steady_component (message : Json) : Steady (r.component message) := by
  unfold component
  split
  · exact steady_pure _
  next fields =>
    exact steady_bind (steady_content fields) fun own =>
      steady_bind (steady_nested fields) fun rest => steady_pure _
  · exact steady_pure _
termination_by sizeOf message

theorem steady_content (fields : List (String × Json)) : Steady (r.content fields) := by
  unfold content
  split
  · exact steady_pure _
  · split
    · split
      · exact steady_pure _
      next arguments found =>
        have smaller := Json.sizeOf_get?_lt found
        split
        · exact steady_bind (steady_translationArguments arguments) fun _ =>
            steady_pure _
        · exact steady_pure _
    · split
      next score _ => exact r.steady_renderScore (.object score)
      · split
        next selector _ => exact r.steady_renderSelector selector.display
        · exact steady_pure _
termination_by sizeOf fields

theorem steady_nested (fields : List (String × Json)) : Steady (r.nested fields) := by
  unfold nested
  split
  next items found =>
    have smaller : sizeOf items < sizeOf fields := by
      have bound := Json.sizeOf_get?_lt found
      rw [Json.list.sizeOf_spec] at bound
      omega
    exact steady_components items
  · exact steady_pure _
termination_by sizeOf fields

theorem steady_components (messages : List Json) : Steady (r.components messages) := by
  unfold components
  split
  · exact steady_pure _
  next message rest =>
    exact steady_bind (steady_component message) fun first =>
      steady_bind (steady_components rest) fun others => steady_pure _
termination_by sizeOf messages

theorem steady_translationArguments (arguments : Json) : Steady (r.translationArguments arguments) := by
  unfold translationArguments
  split
  next items =>
    exact steady_bind (steady_argumentTexts items) fun _ => steady_pure _
  next single => exact steady_component arguments
termination_by sizeOf arguments + 1

theorem steady_argumentTexts (items : List Json) : Steady (r.argumentTexts items) := by
  unfold argumentTexts
  split
  · exact steady_pure _
  next text rest =>
    exact steady_bind (steady_argumentTexts rest) fun _ => steady_pure _
  next item rest _ =>
    exact steady_bind (steady_component item) fun _ =>
      steady_bind (steady_argumentTexts rest) fun _ => steady_pure _
termination_by sizeOf items

end

/-! ### Fields of a component -/

section Fields

variable {r} {fields others : List (String × Json)}

/-- The fields that decide on the own content of an object, its arguments aside. -/
def contentNames : List String := ["text", "translate", "score", "selector"]

/-- The content of an object depends on nothing else: neither on its other fields nor on how the
arguments of a translation are made up. -/
theorem content_congr (same : ∀ name ∈ contentNames, Keyed.get? name fields = Keyed.get? name others)
    (arguments : Option.Rel
      (fun a b => a.isPresent = b.isPresent ∧ r.translationArguments a = r.translationArguments b)
      (Keyed.get? "with" fields) (Keyed.get? "with" others)) :
    r.content fields = r.content others := by
  unfold content given?
  simp only [same "text" (by decide), same "translate" (by decide), same "score" (by decide),
    same "selector" (by decide)]
  generalize Keyed.get? "with" fields = left at arguments ⊢
  generalize Keyed.get? "with" others = right at arguments ⊢
  cases arguments with
  | none => rfl
  | some alike =>
    obtain ⟨present, rendered⟩ := alike
    simp only [present, rendered]

theorem content_congr_of_same
    (same : ∀ name ∈ "with" :: contentNames, Keyed.get? name fields = Keyed.get? name others) :
    r.content fields = r.content others := by
  rw [List.forall_mem_cons] at same
  refine content_congr same.2 ?_
  rw [same.1]
  cases Keyed.get? "with" others with
  | none => exact .none
  | some arguments => exact .some ⟨rfl, rfl⟩

theorem content_put_rawtext (nested : Json) :
    r.content (Keyed.put "rawtext" nested fields) = r.content fields := by
  apply content_congr_of_same
  intro name member
  apply Keyed.get?_put_of_ne
  rintro rfl
  exact absurd member (by decide)

theorem nested_of_list {items : List Json}
    (listed : Keyed.get? "rawtext" fields = some (.list items)) : r.nested fields = r.components items := by
  unfold nested
  split
  next given held =>
    obtain rfl : given = items := by simpa [listed] using held.symm
    rfl
  next other => exact absurd listed (other items)

theorem nested_of_unlisted (unlisted : ∀ items, Keyed.get? "rawtext" fields ≠ some (.list items)) :
    r.nested fields = pure "" := by
  unfold nested
  split
  next items held => exact absurd held (unlisted items)
  next => rfl

theorem nested_of_lacking (lacking : Keyed.get? "rawtext" fields = none) : r.nested fields = pure "" :=
  nested_of_unlisted fun items held => by simp [lacking] at held

end Fields

/-! ### Texts -/

theorem strip_of_plain {r : Renderer} {text : String}
    (plain : dropFormatCodes text.toList = text.toList) : r.strip text = text := by
  rw [strip, plain, String.ofList_toList, ite_self]

/-- The text of a list of components by itself. -/
def shown (messages : List Json) : String := (r.components messages).result

/-- The text of an object without its nested list. -/
def ownText (fields : List (String × Json)) : String := (r.content fields).result

theorem renders_components (messages : List Json) : Renders (r.components messages) (r.shown messages) :=
  r.steady_components messages

@[simp] theorem shown_nil : r.shown [] = "" := by
  unfold shown
  rw [components]
  exact result_of_renders (renders_pure "")

theorem shown_cons (message : Json) (rest : List Json) :
    r.shown (message :: rest) = (r.component message).result ++ r.shown rest := by
  unfold shown
  rw [components, result_bind (r.steady_component message) fun first =>
      steady_bind (r.steady_components rest) fun others => steady_pure _,
    result_bind (r.steady_components rest) fun others => steady_pure _]
  exact result_of_renders (renders_pure _)

theorem shown_text (text : String) : r.shown [.text text] = r.strip text := by
  rw [shown_cons, shown_nil, String.append_empty, component]
  exact result_of_renders (renders_pure _)

theorem shown_append (first second : List Json) :
    r.shown (first ++ second) = r.shown first ++ r.shown second := by
  induction first with
  | nil => simp
  | cons message rest ih => rw [List.cons_append, shown_cons, shown_cons, ih, String.append_assoc]

@[simp] theorem ownText_nil : r.ownText [] = "" := by
  unfold ownText content
  exact result_of_renders (renders_pure "")

/-- An object shows its own text, and after it what its nested list shows. -/
theorem result_component_object (fields : List (String × Json)) :
    (r.component (.object fields)).result = r.ownText fields ++ (r.nested fields).result := by
  rw [component, result_bind (r.steady_content fields) fun own =>
      steady_bind (r.steady_nested fields) fun rest => steady_pure _,
    result_bind (r.steady_nested fields) fun rest => steady_pure _]
  exact result_of_renders (renders_pure _)

theorem nested_of_rawtext {fields : List (String × Json)} {items : List Json}
    (listed : Keyed.get? "rawtext" fields = some (.list items)) :
    (r.nested fields).result = r.shown items := by
  rw [nested_of_list listed]
  rfl

/-- The nested list does not matter to the own text of an object. -/
theorem ownText_put_rawtext (fields : List (String × Json)) (nested : Json) :
    r.ownText (Keyed.put "rawtext" nested fields) = r.ownText fields := by
  rw [ownText, ownText, content_put_rawtext]

theorem shown_wrapped (fields : List (String × Json)) (items : List Json) :
    r.shown [.object (Keyed.put "rawtext" (.list items) fields)] = r.ownText fields ++ r.shown items := by
  rw [shown_cons, shown_nil, result_component_object, ownText_put_rawtext,
    r.nested_of_rawtext (Keyed.get?_put_self _ _ _), String.append_empty]

end Renderer

end Targeting
