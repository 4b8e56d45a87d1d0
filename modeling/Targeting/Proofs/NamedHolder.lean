import Mathlib.Algebra.Group.Nat.Defs
import Targeting.Proofs.BoardHistory
import Targeting.Proofs.Confinement

/-!
# Scores of a named holder

A name in a message is looked up among all participants of the scoreboard, whatever
objective it is asked for, and the first participant who shows the name holds the
score. Another one of that name is not tried.

## Main result

`Renderer.named_holder_shows_score`: the score of the first participant of a name, on
the scoreboard after any calls.

## Proof strategy

Participants stand in the order in which the calls made them, so the search ends at
the holder when no other one of the name comes before it. The score is then looked
up by the calls alone.
-/
namespace Targeting

namespace Call

variable {calls : List Call} {objective : String} {holder : Identity} {score : Int}

/-! ### The services of the board -/

theorem service_edit (board : Board) (objective : String)
    (rewrite : List (Identity × Int) → List (Identity × Int)) :
    (board.edit objective rewrite).service = board.service := by
  unfold Board.edit
  split <;> rfl

theorem service_changeBoard_edit (w : World) (objective : String)
    (rewrite : List (Identity × Int) → List (Identity × Int)) :
    ((World.changeBoard (·.edit objective rewrite)).run w).2.service? = w.service? := by
  rw [run_changeBoard, World.service?, World.service?, Option.map_map]
  exact congrArg (w.board.map ·) (funext fun board => service_edit board objective rewrite)

theorem service_identityOf (holder : Holder) (w : World) :
    ((World.identityOf holder).run w).2.service? = w.service? := by
  obtain ⟨after, asked⟩ := World.exists_asked w holder
  rw [asked.answer]
  exact asked.service

/-- No call changes which services the board offers. -/
theorem service_perform (call : Call) (w : World) :
    (call.perform.run w).2.service? = w.service? := by
  cases call with
  | addObjective objective =>
    rw [perform, run_discard]
    cases found : w.board with
    | none =>
      simp [World.addObjective, found]
      rfl
    | some board =>
      rw [run_addObjective found]
      split
      · rfl
      · simp [World.service?, found]
  | setScore objective holder score => exact service_changeBoard_edit w objective _
  | resetScore objective holder => exact service_changeBoard_edit w objective _
  | identify holder => exact service_identityOf holder w
  | make draft fresh =>
    rw [perform, run_discard, World.run_make fresh]
    split
    · exact service_identityOf _ (w.joined draft)
    · rfl

theorem service_after (calls : List Call) : (after calls).service? = some .full := by
  induction calls using List.reverseRecOn with
  | nil => rfl
  | append_singleton before call ih => rw [after_snoc, service_perform, ih]

/-! ### The scoreboard after calls -/

/-- The scoreboard after calls answers what the calls say: the score on an objective, and the
participants in their order. -/
structure Answers (calls : List Call) (board : Scoreboard) : Prop where
  scores : ∀ objective holder score, Scores calls objective holder score →
    ∃ counter, board.objective objective = .ok (some counter) ∧
      counter.score holder = .ok (some score)
  participants : ∃ all, board.participants = .ok all ∧ all.Pairwise (Precedes calls) ∧
    ∀ holder, holder ∈ all ↔ ∃ objective score, Scores calls objective holder score

theorem exists_answers (calls : List Call) :
    ∃ board, (after calls).host.scoreboard = some board ∧ Answers calls board := by
  obtain ⟨objectives, found, records⟩ := exists_records calls
  obtain ⟨board, there, rfl⟩ := Option.map_eq_some_iff.mp found
  have full : board.service = .full := by
    have kept := service_after calls
    rw [World.service?, there] at kept
    exact Option.some.inj kept
  refine ⟨board.scoreboard, congrArg (Option.map _) there, ?_, ?_⟩
  · intro objective holder score scores
    obtain ⟨held, stored, own⟩ :=
      Option.bind_eq_some_iff.mp ((records.scores objective holder score).mpr scores)
    refine ⟨⟨fun holder => .ok (Keyed.get? holder held)⟩, ?_, congrArg Except.ok own⟩
    simp [Board.scoreboard, full, Board.scores?, stored]
  · refine ⟨board.participants, ?_, pairwise_participants records, fun holder => ?_⟩
    · simp [Board.scoreboard, Board.listed, full]
    · rw [← mem_participants_iff records]
      exact mem_distinct

/-- Of the participants who show its name, the holder is the first. -/
def Leads (calls : List Call) (holder : Identity) : Prop :=
  ∀ other objective score, Scores calls objective other score →
    other.displayName = holder.displayName → other = holder ∨ Precedes calls holder other

/-- In an ordered list, a search ends at the first item that is searched for. -/
theorem find?_of_pairwise {α : Type} {before : α → α → Prop} {items : List α} {item : α}
    {sought : α → Bool} (ordered : items.Pairwise before) (member : item ∈ items)
    (found : sought item) (first : ∀ other ∈ items, sought other → other = item ∨ ¬before other item) :
    items.find? sought = some item := by
  induction items with
  | nil => exact absurd member List.not_mem_nil
  | cons head rest ih =>
    obtain ⟨ahead, ordered⟩ := List.pairwise_cons.mp ordered
    obtain ⟨leading, first⟩ := List.forall_mem_cons.mp first
    rcases List.mem_cons.mp member with rfl | behind
    · exact List.find?_cons_of_pos found
    · by_cases same : sought head
      · rcases leading same with rfl | late
        · exact List.find?_cons_of_pos same
        · exact absurd (ahead item behind) late
      · rw [List.find?_cons_of_neg same]
        exact ih ordered behind first

theorem Answers.find_holder {board : Scoreboard} (answers : Answers calls board)
    (scores : Scores calls objective holder score) (leads : Leads calls holder) :
    ∃ all, board.participants = .ok all ∧
      all.find? (·.displayName = holder.displayName) = some holder := by
  obtain ⟨all, listed, ordered, members⟩ := answers.participants
  refine ⟨all, listed, find?_of_pairwise ordered ((members holder).mpr ⟨objective, score, scores⟩)
    (decide_eq_true rfl) fun other member same => ?_⟩
  obtain ⟨elsewhere, value, stands⟩ := (members other).mp member
  exact (leads other elsewhere value stands (of_decide_eq_true same)).imp_right Precedes.asymm

end Call

/-! ### Scores of a name -/

namespace Renderer

open Call (Scores Leads Answers)

/-- The component that shows the score of a name on an objective. -/
def scoreComponent (name objective : String) : Json :=
  .object [("score", .object [("name", .text name), ("objective", .text objective)])]

/-- The scoreboard in view is the one after the calls. -/
def Sees (r : Renderer) (calls : List Call) : Prop :=
  ∃ context, r.context = some context ∧
    context.host.scoreboard = (Call.after calls).host.scoreboard

variable {r : Renderer} {calls : List Call} {objective : String} {holder : Identity} {score : Int}

theorem isWritable_iff : IsWritable score ↔ score.natAbs < 10 ^ Number.maxDigits :=
  Nat.length_repr_le_iff (by decide)

theorem asks_scoreComponent {name : String} (named : name ≠ "") (counts : objective ≠ "") :
    Asks (scoreComponent name objective) (.score name objective) := by
  have filled {text : String} (nonempty : text ≠ "") : (Json.text text).isPresent := by
    simpa [Json.isPresent] using nonempty
  have only : HasOnly "score" (.object [("name", .text name), ("objective", .text objective)])
      [("score", .object [("name", .text name), ("objective", .text objective)])] :=
    ⟨rfl, by simp [parts, Keyed.get?]⟩
  exact @Asks.score _ _ (.text name) (.text objective) only rfl (filled named) rfl (filled counts)

/-- The first participant of a name shows its score on an objective, if the objective has a name and
the score is short enough to be written. -/
theorem named_holder_shows_score (sees : r.Sees calls) (counts : objective ≠ "")
    (named : holder.displayName ≠ "") (unstarred : holder.displayName ≠ "*")
    (plain : ¬IsSelector holder.displayName) (scores : Scores calls objective holder score)
    (leads : Leads calls holder) (writable : IsWritable score) :
    Renders (r.component (scoreComponent holder.displayName objective)) (toString score) ∧
      ∀ raw, Decodes raw (scoreComponent holder.displayName objective) →
        Renders (r.render raw).run (.ok (toString score)) := by
  obtain ⟨context, given, service⟩ := sees
  obtain ⟨board, view, answers⟩ := Call.exists_answers calls
  obtain ⟨counter, found, read⟩ := answers.scores objective holder score scores
  obtain ⟨all, listed, first⟩ := answers.find_holder scores leads
  have shows : r.Shows (toString score) (.score holder.displayName objective) :=
    ScoreShows.available given (service.trans view)
      (.scored found (.participant unstarred plain listed first) read writable)
  have alone := renders_component (asks_scoreComponent named counts) shows
  exact ⟨alone, fun raw decodes => renders_of_decodes decodes (.inr ⟨_, rfl⟩) alone⟩

/-- A renderer in the world that the calls lead to. -/
def inWorld (calls : List Call) : Renderer := { context := some { host := (Call.after calls).host } }

/-- An entity comes before the bare name like its own, as its entry was made first. -/
theorem named_holder_shows_score_of_entity :
    let steve : Draft := { body := { id := "", type := "minecraft:player", name := "Steve" } }
    let calls := [Call.addObjective "kills", .make steve ⟨rfl, nofun⟩, .identify (.entity 0),
      .setScore "kills" ⟨2, "Steve"⟩ 4, .identify (.named "Steve"),
      .setScore "kills" ⟨3, "Steve"⟩ 7, .setScore "kills" ⟨2, "Steve"⟩ 5]
    Renders ((inWorld calls).component (scoreComponent "Steve" "kills")) "5" := by
  intro steve calls
  have scores : Scores calls "kills" ⟨2, "Steve"⟩ 5 :=
    ⟨calls.take 6, [], rfl, by simp [calls], List.forall_mem_nil _⟩
  have bare : Scores calls "kills" ⟨3, "Steve"⟩ 7 :=
    ⟨calls.take 5, calls.drop 6, rfl, by simp [calls], by simp [calls, Call.Touches]⟩
  have known {objective : String} {holder : Identity} {score : Int}
      (stands : Scores calls objective holder score) :
      objective = "kills" ∧ (holder = ⟨2, "Steve"⟩ ∨ holder = ⟨3, "Steve"⟩) := by
    have set := stands.set
    simp only [calls, List.mem_cons, List.not_mem_nil, Call.setScore.injEq, reduceCtorEq] at set
    tauto
  have first {holder : Identity} {score : Int} (scores : Scores calls "kills" holder score) :
      Call.FirstScores calls holder "kills" :=
    ⟨⟨score, scores⟩, fun other value stands => .inl (known stands).1⟩
  have order : Call.Earlier (Call.EnteredAt calls "kills") ⟨2, "Steve"⟩ ⟨3, "Steve"⟩ := by
    refine ⟨3, 5, ⟨calls.take 3, 4, calls.drop 4, rfl, rfl, by simp [calls], ?_, by simp [calls]⟩,
      ⟨calls.take 5, 7, calls.drop 6, rfl, rfl, by simp [calls], ?_, by simp [calls]⟩, by decide⟩
    · intro old scores
      simpa [calls] using scores.set
    · intro old scores
      simpa [calls] using scores.set
  have leads : Leads calls ⟨2, "Steve"⟩ := by
    intro other objective score stands same
    rcases (known stands).2 with rfl | rfl
    · exact .inl rfl
    · exact .inr ⟨_, _, first scores, first bare, .inr ⟨rfl, order⟩⟩
  exact (named_holder_shows_score ⟨_, rfl, rfl⟩ (by decide) (by decide) (by decide) (by decide)
    scores leads (by decide)).1

/-! ### Scores that are not shown -/

/-- The holder is the only one of its name with a score on the objective. -/
structure OnlyScored (calls : List Call) (objective : String) (holder : Identity) (score : Int) :
    Prop where
  scores : Scores calls objective holder score
  only : ∀ other value, Scores calls objective other value →
    other.displayName = holder.displayName → other = holder

theorem onlyScored_of_last (before : List Call) (added : .addObjective objective ∈ before)
    (unset : ∀ other value, .setScore objective other value ∉ before) :
    OnlyScored (before ++ [.setScore objective holder score]) objective holder score where
  scores := ⟨before, [], rfl, added, List.forall_mem_nil _⟩
  only other value scores _ := by
    rcases List.mem_append.mp scores.set with earlier | last
    · exact absurd earlier (unset other value)
    · cases List.mem_singleton.mp last
      rfl

theorem eq_of_renders {α : Type} {step : Rendering α} {value other : α} (renders : Renders step value)
    (also : Renders step other) : value = other :=
  (result_of_renders renders).symm.trans (result_of_renders also)

theorem renderScore_unnamed (name : Json) :
    r.renderScore (.object [("name", name), ("objective", .text "")]) = pure "" := by
  have missing : ¬(Json.text "").isPresent := by decide
  unfold renderScore
  rw [if_pos (by simp [Json.member?, Keyed.get?, missing])]

/-- Nothing is shown for an objective without a name. -/
theorem renders_unnamed (name : String) : Renders (r.component (scoreComponent name "")) "" := by
  have content : r.content [("score", .object [("name", .text name), ("objective", .text "")])] =
      pure "" := by
    unfold content
    exact renderScore_unnamed (.text name)
  rw [scoreComponent, component, nested_of_lacking rfl, content]
  exact renders_pure _

theorem not_renders_of_long {score : Nat} (long : ¬IsWritable score) :
    let calls := [Call.addObjective "kills", .setScore "kills" ⟨1, "Steve"⟩ score]
    ¬Renders ((inWorld calls).component (scoreComponent "Steve" "kills")) (toString (score : Int)) := by
  intro calls shown
  have shows : (inWorld calls).Shows "0" (.score "Steve" "kills") :=
    ScoreShows.available rfl rfl (.unscored rfl (.participant (by decide) (by decide) rfl rfl) (by
      rintro _ ⟨⟩
      exact long))
  have other := renders_component (asks_scoreComponent (by decide) (by decide)) shows
  have same : toString score = "0" := eq_of_renders shown other
  refine long ?_
  change (toString score).length ≤ _
  rw [same]
  decide

/-- A score that has only one holder of a name is not shown if there is an earlier participant of
that name, if the objective has no name, or if the score is too long to be written. -/
theorem named_holder_shows_score_not_always :
    (let calls := [Call.addObjective "a", .addObjective "b", .setScore "a" ⟨1, "Steve"⟩ 1,
      .setScore "b" ⟨2, "Steve"⟩ 5]
     OnlyScored calls "b" ⟨2, "Steve"⟩ 5 ∧
      ¬Renders ((inWorld calls).component (scoreComponent "Steve" "b")) "5") ∧
    (let calls := [Call.addObjective "", .setScore "" ⟨1, "Steve"⟩ 5]
     OnlyScored calls "" ⟨1, "Steve"⟩ 5 ∧
      ¬Renders ((inWorld calls).component (scoreComponent "Steve" "")) "5") ∧
    (let score : Nat := 10 ^ Number.maxDigits
     let calls := [Call.addObjective "kills", .setScore "kills" ⟨1, "Steve"⟩ score]
     OnlyScored calls "kills" ⟨1, "Steve"⟩ score ∧
      ¬Renders ((inWorld calls).component (scoreComponent "Steve" "kills"))
        (toString (score : Int))) := by
  refine ⟨⟨?_, ?namesake⟩, ⟨?_, ?unnamed⟩, ⟨?_, ?long⟩⟩
  · exact onlyScored_of_last [_, .addObjective "b", .setScore "a" _ 1] (by simp) (by simp)
  case namesake =>
    intro shown
    have shows : (inWorld [.addObjective "a", .addObjective "b", .setScore "a" ⟨1, "Steve"⟩ 1,
        .setScore "b" ⟨2, "Steve"⟩ 5]).Shows "0" (.score "Steve" "b") :=
      ScoreShows.available rfl rfl
        (.unscored rfl (.participant (by decide) (by decide) rfl rfl) nofun)
    have other := renders_component (asks_scoreComponent (by decide) (by decide)) shows
    exact absurd (eq_of_renders shown other) (by decide)
  · exact onlyScored_of_last [.addObjective ""] (by simp) (by simp)
  case unnamed => exact fun shown => absurd (eq_of_renders shown (renders_unnamed _)) (by decide)
  · exact onlyScored_of_last [.addObjective "kills"] (by simp) (by simp)
  case long =>
    have long : ¬IsWritable ((10 ^ Number.maxDigits : Nat) : Int) := by
      rw [isWritable_iff, Int.natAbs_natCast]
      exact Nat.lt_irrefl _
    exact not_renders_of_long long

end Renderer

end Targeting
