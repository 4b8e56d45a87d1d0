import Mathlib.Data.Finset.Card
import Targeting.Proofs.Rendering

/-!
# Uses of the selector cache

Choosers are made, kept and evaluated in any order, all of them through one cache
of selectors. The cache does not show in what an evaluation returns. It shows in
what is reported: the warnings about a text come at its first use only, as long
as the cache has room for all the texts.

## Main result

`cache_is_transparent`: what a use answers and reports after any other uses.

## Proof strategy

A cache over which texts were used holds their selectors, each text once, and it
holds all of them until there are more texts than it has room for. Every use keeps
this.
-/
namespace Targeting

namespace Selector.Cache

def texts (cache : Cache) : List String := Keyed.keys cache.entries

/-- The texts with one of them, or a new one, moved to the front. -/
def moved (cache : Cache) (text : String) : List String := text :: cache.texts.filter (· ≠ text)

theorem nodup_moved {cache : Cache} (unique : cache.texts.Nodup) (text : String) :
    (cache.moved text).Nodup :=
  List.nodup_cons.mpr ⟨by simp, unique.filter _⟩

theorem mem_moved {cache : Cache} {text other : String} :
    other ∈ cache.moved text ↔ other = text ∨ other ∈ cache.texts := by
  by_cases same : other = text <;> simp [moved, same]

theorem texts_touch (cache : Cache) (text : String) (selector : Selector) :
    (cache.touch text selector).texts = (cache.moved text).take capacity := by
  rw [texts, touch, Keyed.keys, List.map_take, List.map_cons]
  exact congrArg (fun rest => (text :: rest).take capacity) (Keyed.keys_remove text cache.entries)

theorem nodup_texts_touch {cache : Cache} (unique : cache.texts.Nodup) (text : String)
    (selector : Selector) : (cache.touch text selector).texts.Nodup := by
  rw [texts_touch]
  exact (nodup_moved unique text).sublist (List.take_sublist _ _)

theorem eq_or_mem_of_mem_texts_touch {cache : Cache} {text other : String} {selector : Selector}
    (member : other ∈ (cache.touch text selector).texts) : other = text ∨ other ∈ cache.texts := by
  rw [texts_touch] at member
  exact mem_moved.mp (List.mem_of_mem_take member)

/-- Nothing is forgotten while all the texts there are have room. -/
theorem mem_texts_touch {cache : Cache} {text other : String} {all : List String}
    (unique : cache.texts.Nodup) (among : ∀ held, held = text ∨ held ∈ cache.texts → held ∈ all)
    (room : all.toFinset.card ≤ capacity) (selector : Selector)
    (known : other = text ∨ other ∈ cache.texts) : other ∈ (cache.touch text selector).texts := by
  have within : (cache.moved text).toFinset ⊆ all.toFinset := by
    intro held member
    rw [List.mem_toFinset] at member ⊢
    exact among held (mem_moved.mp member)
  -- The texts are all different, so there are not more of them than of all the texts there are.
  have short : (cache.moved text).length ≤ capacity := by
    rw [← List.toFinset_card_of_nodup (nodup_moved unique text)]
    exact (Finset.card_le_card within).trans room
  rw [texts_touch, List.take_of_length_le short]
  exact mem_moved.mpr known

/-- A text is read, and its notices are reported, only if the cache does not hold it. -/
theorem notices_fetch (cache : Cache) (given : Option String) :
    (cache.fetch given).notices =
      if given.getD "" ∈ cache.texts then [] else (read given).notices := by
  unfold fetch
  simp only
  split
  next selector held =>
    have known : given.getD "" ∈ cache.texts :=
      List.mem_map_of_mem (Keyed.mem_of_get? held)
    rw [if_pos known]
    rfl
  next missing =>
    have new : given.getD "" ∉ cache.texts := Keyed.get?_eq_none_iff.mp missing
    rw [if_neg new]
    exact List.append_nil _

end Selector.Cache

/-- A use of selectors, with whatever settings and in whatever context it comes. -/
inductive Use where
  /-- Makes a chooser and keeps it. -/
  | make (given : Option String) (settings : Settings)
  /-- Makes a chooser and evaluates it at once. -/
  | evaluate (given : Option String) (settings : Settings) (context : Context)
  /-- Evaluates a chooser that was kept. -/
  | again (place : Nat) (context : Context)

/-- What uses leave behind. -/
structure Kept where
  cache : Selector.Cache := {}
  choosers : List Chooser := []

namespace Use

/-- A use over the choosers kept so far: what it evaluates to, if anything, and the choosers kept
after it. -/
def perform (choosers : List Chooser) :
    Use → Rendering (Option (Except Fault (List Entity)) × List Chooser)
  | make given settings => do
    let c ← chooserOf given settings
    return (none, choosers ++ [c])
  | evaluate given settings context => do
    let c ← chooserOf given settings
    let answer ← StateT.lift (c.choose context).run
    return (some answer, choosers)
  | again place context =>
    match choosers[place]? with
    | none => return (none, choosers)
    | some c => do
      let answer ← StateT.lift (c.choose context).run
      return (some answer, choosers)

def step (use : Use) (kept : Kept) : Logged (Option (Except Fault (List Entity)) × Kept) := do
  let ((answer, choosers), cache) ← (use.perform kept.choosers).run kept.cache
  return (answer, { cache, choosers })

/-- What is left after a run of uses, from an empty cache on. -/
def after (uses : List Use) : Kept := uses.foldl (fun kept use => (use.step kept).value.2) {}

/-- The text that a use looks up; no text is the empty one. -/
def text? : Use → Option String
  | make given _ => some (given.getD "")
  | evaluate given _ _ => some (given.getD "")
  | again _ _ => none

def texts (uses : List Use) : List String := uses.filterMap text?

/-- The chooser that a use keeps, of a selector read afresh. -/
def made? : Use → Option Chooser
  | make given settings => some (Chooser.ofText given settings)
  | evaluate _ _ _ => none
  | again _ _ => none

def made (uses : List Use) : List Chooser := uses.filterMap made?

/-- The chooser that a use evaluates and its context, were every selector read afresh. -/
def asks (before : List Use) : Use → Option (Chooser × Context)
  | make _ _ => none
  | evaluate given settings context => some (Chooser.ofText given settings, context)
  | again place context => (made before)[place]?.map fun c => (c, context)

/-! ### What every use keeps -/

/-- What is left after uses: their choosers as if read afresh, and a cache of their texts. -/
structure Tracks (before : List Use) (kept : Kept) : Prop where
  coherent : kept.cache.Coherent
  choosers : kept.choosers = made before
  unique : kept.cache.texts.Nodup
  used : ∀ text ∈ kept.cache.texts, text ∈ texts before
  held : (texts before).toFinset.card ≤ Selector.Cache.capacity →
    ∀ text ∈ texts before, text ∈ kept.cache.texts

theorem made_snoc (before : List Use) (use : Use) :
    made (before ++ [use]) = made before ++ use.made?.toList := by
  cases use <;> simp [made, made?]

theorem texts_snoc (before : List Use) (use : Use) :
    texts (before ++ [use]) = texts before ++ use.text?.toList := by
  cases use <;> simp [texts, text?]

/-- A further use does not make the texts fewer. -/
theorem card_texts_le (before : List Use) (use : Use) :
    (texts before).toFinset.card ≤ (texts (before ++ [use])).toFinset.card := by
  rw [texts_snoc, List.toFinset_append]
  exact Finset.card_le_card Finset.subset_union_left

theorem after_snoc (before : List Use) (use : Use) :
    after (before ++ [use]) = (use.step (after before)).value.2 := by
  rw [after, List.foldl_append]
  rfl

theorem tracks_nil : Tracks [] {} where
  coherent := Selector.Cache.coherent_empty
  choosers := rfl
  unique := List.nodup_nil
  used := List.forall_mem_nil _
  held _ := List.forall_mem_nil _

variable {before : List Use} {kept : Kept}

/-- A use answers as its chooser read afresh does, touches its text and keeps what it makes. -/
theorem value_step (tracks : Tracks before kept) (use : Use) :
    (use.step kept).value =
      ((use.asks before).map fun (c, context) => (c.choose context).run.value,
        { cache := use.text?.elim kept.cache fun text =>
            kept.cache.touch text (Selector.read (some text)).value
          choosers := kept.choosers ++ use.made?.toList }) := by
  cases use with
  | make given settings =>
    have fetched := Selector.Cache.value_fetch_of_coherent tracks.coherent given
    simp only [step, perform, chooserOf]
    simp [fetched, asks, text?, made?, Chooser.ofText, Selector.read_getD]
  | evaluate given settings context =>
    have fetched := Selector.Cache.value_fetch_of_coherent tracks.coherent given
    simp only [step, perform, chooserOf]
    simp [fetched, asks, text?, made?, Chooser.ofText, Selector.read_getD]
  | again place context =>
    rw [step, perform, tracks.choosers, asks]
    cases (made before)[place]? <;> simp [text?, made?]

theorem notices_step (tracks : Tracks before kept) (use : Use) :
    (use.step kept).notices =
      (use.text?.elim [] fun text =>
        if text ∈ kept.cache.texts then [] else (Selector.read (some text)).notices) ++
      ((use.asks before).elim [] fun (c, context) => (c.choose context).run.notices) := by
  cases use with
  | make given settings =>
    simp [step, perform, chooserOf, asks, text?, Selector.Cache.notices_fetch, Selector.read_getD]
  | evaluate given settings context =>
    have fetched := Selector.Cache.value_fetch_of_coherent tracks.coherent given
    simp [step, perform, chooserOf, fetched, asks, text?, Selector.Cache.notices_fetch,
      Chooser.ofText, Selector.read_getD]
  | again place context =>
    rw [step, perform, tracks.choosers, asks]
    cases (made before)[place]? <;> simp [text?]

theorem tracks_step (tracks : Tracks before kept) (use : Use) :
    Tracks (before ++ [use]) (use.step kept).value.2 := by
  have grown : kept.choosers ++ use.made?.toList = made (before ++ [use]) := by
    rw [made_snoc, tracks.choosers]
  rw [value_step tracks]
  cases looked : use.text? with
  | none =>
    have same : texts (before ++ [use]) = texts before := by
      rw [texts_snoc, looked, Option.toList_none, List.append_nil]
    exact {
      coherent := tracks.coherent
      choosers := grown
      unique := tracks.unique
      used := by rw [same]; exact tracks.used
      held := by rw [same]; exact tracks.held }
  | some text =>
    have more : ∀ other, other ∈ texts (before ++ [use]) ↔ other = text ∨ other ∈ texts before := by
      intro other
      rw [texts_snoc, looked, List.mem_append, Option.toList_some, List.mem_singleton, or_comm]
    have among : ∀ other, other = text ∨ other ∈ kept.cache.texts →
        other ∈ texts (before ++ [use]) := fun other known =>
      (more other).mpr (known.imp_right (tracks.used other))
    exact {
      coherent := Selector.Cache.coherent_touch tracks.coherent text
      choosers := grown
      unique := Selector.Cache.nodup_texts_touch tracks.unique text _
      used := fun other member =>
        among other (Selector.Cache.eq_or_mem_of_mem_texts_touch member)
      held := by
        intro room other member
        have earlier : (texts before).toFinset.card ≤ Selector.Cache.capacity :=
          (card_texts_le before use).trans room
        exact Selector.Cache.mem_texts_touch tracks.unique among room _
          (((more other).mp member).imp_right (tracks.held earlier other)) }

theorem tracks_after (uses : List Use) : Tracks uses (after uses) := by
  induction uses using List.reverseRecOn with
  | nil => exact tracks_nil
  | append_singleton before use ih =>
    rw [after_snoc]
    exact tracks_step ih use

/-- A use evaluates to what a selector read afresh would, whatever was used before. It reports what
reading its text reports, if the text was not used before, and then what the evaluation reports, as
long as not more than 256 texts were used. -/
theorem cache_is_transparent (before : List Use) (use : Use) :
    (use.step (after before)).value.1 =
        (use.asks before).map (fun (c, context) => (c.choose context).run.value) ∧
      ((texts (before ++ [use])).toFinset.card ≤ 256 →
        (use.step (after before)).notices =
          (use.text?.elim [] fun text =>
            if text ∈ texts before then [] else (Selector.read (some text)).notices) ++
          ((use.asks before).elim [] fun (c, context) => (c.choose context).run.notices)) := by
  have tracks := tracks_after before
  refine ⟨by rw [value_step tracks], fun room => ?_⟩
  -- With room for every text, the cache holds just those that were used.
  have known : ∀ text, text ∈ (after before).cache.texts ↔ text ∈ texts before := fun text =>
    ⟨tracks.used text, tracks.held ((card_texts_le before use).trans room) text⟩
  simp only [notices_step tracks, known]

/-- A text that is no selector is reported when it is first used, and not again. -/
theorem cache_is_transparent_of_second_use :
    let first := make (some "steve") {}
    let second := evaluate (some "steve") {} { host := ⟨fun _ => .ok [], none⟩ }
    (texts [first]).toFinset.card ≤ 256 ∧ (texts [first, second]).toFinset.card ≤ 256 ∧
      (first.step (after [])).notices = [.fellBack "steve"] ∧
      (second.step (after [first])).notices = [] := by
  intro first second
  have one : (texts [first]).toFinset.card ≤ 256 := by decide
  have two : (texts [first, second]).toFinset.card ≤ 256 := by decide
  refine ⟨one, two, ?_, ?_⟩
  · rw [(cache_is_transparent [] first).2 one]
    rfl
  · rw [(cache_is_transparent [first] second).2 two]
    rfl

end Use

end Targeting
