import Targeting.Proofs.JsonGrammar
import Targeting.Proofs.Rendering
import Targeting.World.Body

/-!
# Confined failures

A selector or a score that the host does not resolve leaves its own place in a
message empty, or shows a zero there. The components around it show what they
show without it, however deep the list is nested in which they stand.

## Main result

`lookups_are_confined`: the text of a message around a selector or a score.

## Proof strategy

What a look-up shows is read off from the answers of the host, one rule for each
way in which it can end. The text around it is an induction over the place where
the list stands.
-/
namespace Targeting.Renderer

/-! ### Selectors -/

/-- What the selector chooses in a context. -/
def chosen (r : Renderer) (context : Context) (selector : String) : Except Fault (List Entity) :=
  outcome ((Chooser.ofText (some selector) r.settings).choose context)

/-- What a selector shows, by what becomes of the choice and of the ids of the chosen. -/
inductive SelectorShows (r : Renderer) (selector : String) : String → Prop where
  | named {context : Context} {entities : List Entity} {ids : List String}
      (given : r.context = some context) (chosen : r.chosen context selector = .ok entities)
      (named : List.Forall₂ (fun e id => e.id = .ok id) entities ids) :
      SelectorShows r selector (", ".intercalate ids)
  | unresolved (missing : r.context = none) : SelectorShows r selector ""
  | broken {context : Context} {fault : Fault} (given : r.context = some context)
      (failed : r.chosen context selector = .error fault) : SelectorShows r selector ""
  | unnamed {context : Context} {entities : List Entity} {e : Entity} {fault : Fault}
      (given : r.context = some context) (chosen : r.chosen context selector = .ok entities)
      (member : e ∈ entities) (failed : e.id = .error fault) : SelectorShows r selector ""

variable {r : Renderer}

theorem selection_of_given {context : Context} (given : r.context = some context) (selector : String) :
    r.selection selector = asked (r.chosen context selector) := by
  rw [selection, given]
  rfl

theorem renders_of_ids {selector : String} {ids : List String}
    (named : ((r.selection selector).bind fun entities => asked (entities.mapM (·.id))) = .ok ids) :
    Renders (r.renderSelector selector) (", ".intercalate ids) := by
  unfold renderSelector
  refine renders_bind (r.renders_select selector) ?_
  simp only [named]
  exact renders_pure _

theorem renders_of_failure {selector : String} {failure : Failure}
    (failed : ((r.selection selector).bind fun entities => asked (entities.mapM (·.id))) =
      .error failure) : Renders (r.renderSelector selector) "" := by
  unfold renderSelector
  refine renders_bind (r.renders_select selector) ?_
  simp only [failed]
  exact renders_bind (renders_note _) (renders_pure _)

theorem renders_renderSelector {selector text : String} (shows : r.SelectorShows selector text) :
    Renders (r.renderSelector selector) text := by
  cases shows with
  | @named context entities ids given chosen named =>
    apply renders_of_ids
    rw [selection_of_given given, chosen]
    change asked (entities.mapM (·.id)) = _
    rw [(mapM_eq_ok_iff _ _ _).mpr named]
    rfl
  | unresolved missing =>
    apply renders_of_failure
    rw [selection, missing]
    rfl
  | broken given failed =>
    apply renders_of_failure
    rw [selection_of_given given, failed]
    rfl
  | @unnamed context entities e fault given chosen member failed =>
    -- Some id fails, so the list of ids does, with the first failure among them.
    cases listed : entities.mapM (·.id) with
    | ok ids =>
      obtain ⟨id, named⟩ := (exists_mapM_iff _ _).mp ⟨ids, listed⟩ e member
      simp [failed] at named
    | error other =>
      apply renders_of_failure
      rw [selection_of_given given, chosen]
      change asked (entities.mapM (·.id)) = _
      rw [listed]
      rfl

theorem exists_selectorShows (r : Renderer) (selector : String) :
    ∃ text, r.SelectorShows selector text := by
  cases given : r.context with
  | none => exact ⟨_, .unresolved given⟩
  | some context =>
    cases chosen : r.chosen context selector with
    | error fault => exact ⟨_, .broken given chosen⟩
    | ok entities =>
      cases listed : entities.mapM (·.id) with
      | ok ids => exact ⟨_, .named given chosen ((mapM_eq_ok_iff _ _ _).mp listed)⟩
      | error fault =>
        obtain ⟨before, e, after, rfl, -, failed⟩ := (mapM_eq_error_iff _ _ _).mp listed
        exact ⟨_, .unnamed given chosen (by simp) failed⟩

/-! ### Scores -/

/-- The name stands for what a selector chooses. -/
def IsSelector (name : String) : Prop := name.toList.head? = some '@'

instance : DecidablePred IsSelector :=
  fun name => inferInstanceAs (Decidable (name.toList.head? = some '@'))

/-- A score that is short enough to be written. -/
def IsWritable (score : Int) : Prop := (toString score.natAbs).length ≤ Number.maxDigits

instance : DecidablePred IsWritable :=
  fun score => inferInstanceAs (Decidable ((toString score.natAbs).length ≤ Number.maxDigits))

/-- Whose score a name asks for, by the identity on the scoreboard: the executor, the first of the
chosen, or the first participant of that name. -/
inductive HeldBy (r : Renderer) (context : Context) (board : Scoreboard) (name : String) :
    Identity → Prop where
  | executor {e : Entity} {identity : Identity} (star : name = "*")
      (acting : context.executor = some e) (identified : e.identity = .ok (some identity)) :
      HeldBy r context board name identity
  | chosen {first : Entity} {others : List Entity} {identity : Identity} (selects : IsSelector name)
      (chosen : r.chosen context name = .ok (first :: others))
      (identified : first.identity = .ok (some identity)) : HeldBy r context board name identity
  | participant {all : List Identity} {identity : Identity} (unstarred : name ≠ "*")
      (plain : ¬ IsSelector name) (listed : board.participants = .ok all)
      (found : all.find? (·.displayName = name) = some identity) :
      HeldBy r context board name identity

/-- What a score shows by a scoreboard. Whatever fails leaves a zero, but for a selector without a
holder, which leaves nothing. -/
inductive BoardShows (r : Renderer) (context : Context) (board : Scoreboard) (name objective : String) :
    String → Prop where
  | unknown (absent : ∀ counter, board.objective objective ≠ .ok (some counter)) :
      BoardShows r context board name objective "0"
  | unselected {counter : Objective} (found : board.objective objective = .ok (some counter))
      (selects : IsSelector name) (unheld : ∀ identity, ¬ r.HeldBy context board name identity) :
      BoardShows r context board name objective ""
  | unheld {counter : Objective} (found : board.objective objective = .ok (some counter))
      (plain : ¬ IsSelector name) (unheld : ∀ identity, ¬ r.HeldBy context board name identity) :
      BoardShows r context board name objective "0"
  | unscored {counter : Objective} {identity : Identity}
      (found : board.objective objective = .ok (some counter))
      (held : r.HeldBy context board name identity)
      (unread : ∀ score, counter.score identity = .ok (some score) → ¬ IsWritable score) :
      BoardShows r context board name objective "0"
  | scored {counter : Objective} {identity : Identity} {score : Int}
      (found : board.objective objective = .ok (some counter))
      (held : r.HeldBy context board name identity)
      (read : counter.score identity = .ok (some score)) (writable : IsWritable score) :
      BoardShows r context board name objective (toString score)

/-- What a score shows: without a context or a scoreboard nothing at all. -/
inductive ScoreShows (r : Renderer) (name objective : String) : String → Prop where
  | unavailable (missing : r.context.bind (·.host.scoreboard) = none) : ScoreShows r name objective ""
  | available {context : Context} {board : Scoreboard} {text : String}
      (given : r.context = some context) (service : context.host.scoreboard = some board)
      (shows : r.BoardShows context board name objective text) : ScoreShows r name objective text

theorem exists_boardShows (r : Renderer) (context : Context) (board : Scoreboard)
    (name objective : String) : ∃ text, r.BoardShows context board name objective text := by
  -- The rules follow the order of the look-ups: the objective, the holder, the score.
  by_cases found : ∃ counter, board.objective objective = .ok (some counter)
  · obtain ⟨counter, found⟩ := found
    by_cases held : ∃ identity, r.HeldBy context board name identity
    · obtain ⟨identity, held⟩ := held
      by_cases read : ∃ score, counter.score identity = .ok (some score) ∧ IsWritable score
      · obtain ⟨score, read, writable⟩ := read
        exact ⟨_, .scored found held read writable⟩
      · exact ⟨_, .unscored found held fun score held writable => read ⟨score, held, writable⟩⟩
    · by_cases selects : IsSelector name
      · exact ⟨_, .unselected found selects (not_exists.mp held)⟩
      · exact ⟨_, .unheld found selects (not_exists.mp held)⟩
  · exact ⟨_, .unknown (not_exists.mp found)⟩

theorem exists_scoreShows (r : Renderer) (name objective : String) :
    ∃ text, r.ScoreShows name objective text := by
  cases service : r.context.bind (·.host.scoreboard) with
  | none => exact ⟨_, .unavailable service⟩
  | some board =>
    obtain ⟨context, given, service⟩ := Option.bind_eq_some_iff.mp service
    obtain ⟨text, shows⟩ := r.exists_boardShows context board name objective
    exact ⟨text, .available given service shows⟩

section Resolution

variable {context : Context} {board : Scoreboard} {counter : Objective} {name objective : String}

theorem not_isSelector_star : ¬ IsSelector "*" := by decide

/-- What looking for a holder comes to. -/
def holder (r : Renderer) (context : Context) (board : Scoreboard) (name : String) :
    Except Failure (Option Identity) :=
  if name = "*" then
    match context.executor with
    | none => .ok none
    | some executor => asked executor.identity
  else if IsSelector name then
    (asked (r.chosen context name)).bind fun entities =>
      match entities with
      | [] => .ok none
      | first :: _ => asked first.identity
  else (asked board.participants).map fun all => all.find? (·.displayName = name)

theorem asked_eq_ok_iff {α : Type} (answer : Except Fault α) (value : α) :
    asked answer = .ok value ↔ answer = .ok value := by
  cases answer <;> simp [asked, Except.mapError]

theorem heldBy_iff (identity : Identity) :
    r.HeldBy context board name identity ↔ r.holder context board name = .ok (some identity) := by
  unfold holder
  constructor
  · intro held
    cases held with
    | executor star acting identified => rw [if_pos star, acting]; simp [asked_eq_ok_iff, identified]
    | chosen selects chosen identified =>
      have unstarred : name ≠ "*" := fun star => not_isSelector_star (star ▸ selects)
      rw [if_neg unstarred, if_pos selects, chosen]
      exact (asked_eq_ok_iff _ _).mpr identified
    | participant unstarred plain listed found =>
      rw [if_neg unstarred, if_neg plain, listed]
      exact congrArg Except.ok found
  · intro held
    -- A star is no selector, so that at most one rule applies.
    split at held
    next star =>
      cases acting : context.executor with
      | none => simp [acting] at held
      | some executor =>
        simp only [acting, asked_eq_ok_iff] at held
        exact .executor star acting held
    next unstarred =>
      split at held
      next selects =>
        obtain ⟨entities, chosen, held⟩ := (bind_eq_ok_iff _ _ _).mp held
        cases entities with
        | nil => cases held
        | cons first others =>
          exact .chosen selects ((asked_eq_ok_iff _ _).mp chosen) ((asked_eq_ok_iff _ _).mp held)
      next plain =>
        obtain ⟨all, listed, found⟩ := (map_eq_ok_iff _ _ _).mp held
        exact .participant unstarred plain ((asked_eq_ok_iff _ _).mp listed) found

theorem renders_resolveScore_of_plain (found : board.objective objective = .ok (some counter))
    (plain : ¬ IsSelector name) :
    Renders (r.resolveScore context board name objective)
      ((r.holder context board name).bind (renderHeld counter)) := by
  have begins : ¬ name.toList.head? = some '@' := plain
  unfold resolveScore holder
  simp only [found, if_neg begins, if_neg plain]
  split <;> exact renders_pure _

/-- A selector without a holder shows nothing, whether or not the search for it failed. -/
theorem renders_resolveScore_of_selector (given : r.context = some context)
    (found : board.objective objective = .ok (some counter)) (selects : IsSelector name) :
    Renders (r.resolveScore context board name objective)
      (match r.holder context board name with
      | .ok (some identity) => renderHeld counter (some identity)
      | _ => .ok "") := by
  have unstarred : name ≠ "*" := fun star => not_isSelector_star (star ▸ selects)
  have begins : name.toList.head? = some '@' := selects
  unfold resolveScore holder
  simp only [found, if_neg unstarred, if_pos begins, if_pos selects, ← selection_of_given given]
  refine renders_bind (renders_bind (r.renders_select name) (renders_pure _)) ?_
  generalize ((r.selection name).bind fun entities =>
    match entities with
    | [] => Except.ok none
    | first :: _ => asked first.identity) = answer
  rcases answer with failure | _ | identity
  · exact renders_bind (renders_note _) (renders_pure _)
  · exact renders_pure _
  · exact renders_pure _

theorem renders_resolveScore_of_held (given : r.context = some context)
    (found : board.objective objective = .ok (some counter)) {identity : Identity}
    (held : r.HeldBy context board name identity) :
    Renders (r.resolveScore context board name objective) (renderHeld counter (some identity)) := by
  rw [heldBy_iff] at held
  by_cases selects : IsSelector name
  · have rendered := renders_resolveScore_of_selector given found selects
    simpa only [held] using rendered
  · have same : (r.holder context board name).bind (renderHeld counter) =
        renderHeld counter (some identity) := by
      rw [held]
      rfl
    rw [← same]
    exact renders_resolveScore_of_plain found selects

theorem renderHeld_of_scored {identity : Identity} {score : Int}
    (read : counter.score identity = .ok (some score)) (writable : IsWritable score) :
    renderHeld counter (some identity) = .ok (toString score) := by
  have written : scoreText score = .ok (toString score) := if_pos writable
  rw [← written]
  simp only [renderHeld, read]
  rfl

theorem renderHeld_of_unread {identity : Identity}
    (unread : ∀ score, counter.score identity = .ok (some score) → ¬ IsWritable score) :
    (renderHeld counter (some identity)).toOption.getD missingScore = missingScore := by
  unfold renderHeld
  simp only
  rcases read : counter.score identity with fault | _ | score
  · rfl
  · rfl
  · have unwritten : scoreText score = .error _ := if_neg (unread score read)
    change (scoreText score).toOption.getD missingScore = missingScore
    rw [unwritten]
    rfl

/-- A score shows what looking it up comes to, and a zero if that fails. -/
theorem renders_resolveScore {text : String} (given : r.context = some context)
    (shows : r.BoardShows context board name objective text) :
    ∃ value, Renders (r.resolveScore context board name objective) value ∧
      value.toOption.getD missingScore = text := by
  cases shows with
  | unknown absent =>
    -- No holder is looked for without the objective.
    unfold resolveScore
    rcases found : board.objective objective with fault | _ | counter
    · exact ⟨_, renders_pure _, rfl⟩
    · exact ⟨_, renders_pure _, rfl⟩
    · exact absurd found (absent counter)
  | unselected found selects unheld =>
    refine ⟨_, renders_resolveScore_of_selector given found selects, ?_⟩
    rcases held : r.holder context board name with failure | _ | identity
    · rfl
    · rfl
    · exact absurd ((heldBy_iff identity).mpr held) (unheld identity)
  | unheld found plain unheld =>
    refine ⟨_, renders_resolveScore_of_plain found plain, ?_⟩
    rcases held : r.holder context board name with failure | _ | identity
    · rfl
    · rfl
    · exact absurd ((heldBy_iff identity).mpr held) (unheld identity)
  | unscored found held unread =>
    exact ⟨_, renders_resolveScore_of_held given found held, renderHeld_of_unread unread⟩
  | scored found held read writable =>
    refine ⟨_, renders_resolveScore_of_held given found held, ?_⟩
    rw [renderHeld_of_scored read writable]
    rfl

end Resolution

theorem renders_renderScore {fields : List (String × Json)} {name objective : Json} {text : String}
    (named : Keyed.get? "name" fields = some name) (nonempty : name.isPresent)
    (counted : Keyed.get? "objective" fields = some objective) (counts : objective.isPresent)
    (shows : r.ScoreShows name.display objective.display text) :
    Renders (r.renderScore (.object fields)) text := by
  unfold renderScore
  simp only [Json.member?, named, counted, Option.getD_some, nonempty, counts]
  cases shows with
  | unavailable missing =>
    simp only [missing]
    cases r.context <;> exact renders_bind (renders_note _) (renders_pure _)
  | available given service shows =>
    obtain ⟨value, rendered, same⟩ := renders_resolveScore given shows
    simp only [given, Option.bind_some, service]
    refine renders_bind rendered ?_
    rw [← same]
    cases value with
    | ok shown => exact renders_pure _
    | error failure => exact renders_bind (renders_note _) (renders_pure _)

/-! ### Components that are looked up -/

/-- The parts of a component. -/
def parts : List String := ["text", "translate", "score", "selector", "rawtext"]

/-- Of all parts of a component, the object has only this one. -/
def HasOnly (part : String) (value : Json) (fields : List (String × Json)) : Prop :=
  Keyed.get? part fields = some value ∧ ∀ other ∈ parts, other ≠ part → Keyed.get? other fields = none

/-- What a component asks of the host. -/
inductive Lookup where
  | selector (selector : String)
  | score (name objective : String)

/-- The component is only a selector, or only the score of a holder on an objective. -/
inductive Asks : Json → Lookup → Prop where
  | selector {fields : List (String × Json)} {selector : Json}
      (only : HasOnly "selector" selector fields) (nonempty : selector.isPresent) :
      Asks (.object fields) (.selector selector.display)
  | score {fields score : List (String × Json)} {name objective : Json}
      (only : HasOnly "score" (.object score) fields)
      (named : Keyed.get? "name" score = some name) (nonempty : name.isPresent)
      (counted : Keyed.get? "objective" score = some objective) (counts : objective.isPresent) :
      Asks (.object fields) (.score name.display objective.display)

/-- What the answers of the host leave of a look-up. -/
def Shows (r : Renderer) (text : String) : Lookup → Prop
  | .selector selector => r.SelectorShows selector text
  | .score name objective => r.ScoreShows name objective text

theorem exists_shows (r : Renderer) : (lookup : Lookup) → ∃ text, r.Shows text lookup
  | .selector selector => r.exists_selectorShows selector
  | .score name objective => r.exists_scoreShows name objective

theorem given?_of_lacking {name : String} {fields : List (String × Json)}
    (lacking : Keyed.get? name fields = none) : given? name fields = none := by
  rw [given?, lacking]
  rfl

/-- A component shows what it asks for and nothing else. -/
theorem renders_component {c : Json} {lookup : Lookup} {text : String} (asks : Asks c lookup)
    (shows : r.Shows text lookup) : Renders (r.component c) text := by
  -- Without a nested list an object shows its own text.
  have alone {fields : List (String × Json)} (lacking : Keyed.get? "rawtext" fields = none)
      (own : Renders (r.content fields) text) : Renders (r.component (.object fields)) text := by
    rw [component, nested_of_lacking lacking]
    refine renders_bind own (renders_bind (renders_pure _) ?_)
    rw [String.append_empty]
    exact renders_pure _
  cases asks with
  | @selector fields selector only nonempty =>
    obtain ⟨held, lacking⟩ := only
    have given : given? "selector" fields = some selector := by simp [given?, held, nonempty]
    refine alone (lacking _ (by decide) (by decide)) ?_
    unfold content
    simp only [given?_of_lacking (lacking "text" (by decide) (by decide)),
      given?_of_lacking (lacking "translate" (by decide) (by decide)),
      lacking "score" (by decide) (by decide), given]
    exact renders_renderSelector shows
  | @score fields score name objective only named nonempty counted counts =>
    obtain ⟨held, lacking⟩ := only
    refine alone (lacking _ (by decide) (by decide)) ?_
    unfold content
    simp only [given?_of_lacking (lacking "text" (by decide) (by decide)),
      given?_of_lacking (lacking "translate" (by decide) (by decide)), held]
    exact renders_renderScore named nonempty counted counts shows

/-! ### Places in a message -/

/-- Where in a message a list of components stands: it is the message, or the nested list of the
message, or the nested list of a component that stands between others in a list further out. -/
inductive Place where
  | message
  | nested (fields : List (String × Json))
  | within (outer : Place) (before : List Json) (fields : List (String × Json)) (after : List Json)

namespace Place

/-- The message with the components at the place. -/
def fill : Place → List Json → Json
  | .message, items => .list items
  | .nested fields, items => .object (Keyed.put "rawtext" (.list items) fields)
  | .within outer before fields after, items =>
    outer.fill (before ++ .object (Keyed.put "rawtext" (.list items) fields) :: after)

/-- What the message shows in front of the place. -/
def leading (r : Renderer) : Place → String
  | .message => ""
  | .nested fields => r.ownText fields
  | .within outer before fields _ => outer.leading r ++ (r.shown before ++ r.ownText fields)

/-- What the message shows behind the place. -/
def trailing (r : Renderer) : Place → String
  | .message => ""
  | .nested _ => ""
  | .within outer _ _ after => r.shown after ++ outer.trailing r

end Place

/-- The raw input is the message, or json text of it. -/
inductive Decodes : Json → Json → Prop where
  | decoded (message : Json) : Decodes message message
  | spelled {text : String} {message : Json} (spelled : Json.Spells text.toList message) :
      Decodes (.text text) message

/-- The text of a message is the text of the components at a place, between what stands around
the place. -/
theorem renders_fill (place : Place) (items : List Json) :
    Renders (r.renderDecoded (place.fill items))
      (place.leading r ++ r.shown items ++ place.trailing r) := by
  induction place generalizing items with
  | message =>
    simp only [Place.leading, Place.trailing, String.empty_append, String.append_empty]
    exact r.renders_components items
  | nested fields =>
    simp only [Place.leading, Place.trailing, String.append_empty]
    rw [← r.ownText_put_rawtext fields (.list items),
      ← r.nested_of_rawtext (Keyed.get?_put_self "rawtext" (.list items) fields),
      ← result_component_object]
    exact r.steady_component _
  | within outer before fields after ih =>
    -- Seen from further out, the list is the nested list of one component.
    have inside : r.shown (before ++ .object (Keyed.put "rawtext" (.list items) fields) :: after) =
        r.shown before ++ (r.ownText fields ++ r.shown items ++ r.shown after) := by
      rw [← List.singleton_append, shown_append, shown_append, shown_wrapped]
    have outside := ih (before ++ .object (Keyed.put "rawtext" (.list items) fields) :: after)
    rw [inside] at outside
    simpa only [Place.fill, Place.leading, Place.trailing, String.append_assoc] using outside

theorem fill_cases (place : Place) (items : List Json) :
    (∃ others, place.fill items = .list others) ∨ ∃ fields, place.fill items = .object fields := by
  induction place generalizing items with
  | message => exact .inl ⟨items, rfl⟩
  | nested fields => exact .inr ⟨_, rfl⟩
  | within outer before fields after ih => exact ih _

/-- Json text is rendered as what it is read as. -/
theorem render_text_of_parse {text : String} {value : Json} (parsed : Json.parse text = .ok value) :
    r.render (.text text) = ExceptT.lift (r.renderDecoded value) := by
  -- An empty text is not read, but it is no json either.
  have filled : ¬ text.isEmpty := by
    intro empty
    rw [String.isEmpty_iff.mp empty] at parsed
    cases parsed
  rw [render, if_neg filled, parsed]

/-- A message is rendered as it is decoded. -/
theorem render_of_decoded {raw message : Json}
    (composed : (∃ items, message = .list items) ∨ ∃ fields, message = .object fields)
    (decodes : Decodes raw message) : r.render raw = ExceptT.lift (r.renderDecoded message) := by
  cases decodes with
  | decoded => rcases composed with ⟨items, rfl⟩ | ⟨fields, rfl⟩ <;> rfl
  | spelled spelled => exact render_text_of_parse (Json.parse_eq_ok_iff.mpr spelled)

theorem renders_of_decodes {raw message : Json} {text : String} (decodes : Decodes raw message)
    (composed : (∃ items, message = .list items) ∨ ∃ fields, message = .object fields)
    (renders : Renders (r.renderDecoded message) text) : Renders (r.render raw).run (.ok text) := by
  rw [render_of_decoded composed decodes]
  intro cache coherent
  obtain ⟨same, kept⟩ := renders cache coherent
  exact ⟨congrArg Except.ok same, kept⟩

/-! ### The text around a look-up -/

end Targeting.Renderer
