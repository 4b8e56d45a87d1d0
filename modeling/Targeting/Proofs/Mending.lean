import Targeting.Proofs.Fault
import Targeting.World.Store

/-!
# Mending a host

A mended host says what the host says, and where that fails it may say
anything. A choice that comes to a list without the pool failing has met no
failing answer, so it comes to the same entities over every mended host.

## Proof strategy

Each check is built from answers of the entity by binding and mapping, which
keep what was said. The stages of a choice are then mended one by one; ordering
and sampling commute with replacing the entities by the mended ones.
-/
namespace Targeting

/-- Whatever the answer says, the other says too. -/
def Mends {α : Type} (answer other : Except Fault α) : Prop :=
  ∀ value, answer = .ok value → other = .ok value

namespace Mends

variable {α β : Type} {answer other : Except Fault α}

theorem refl (answer : Except Fault α) : Mends answer answer := fun _ => id

theorem bind (mends : Mends answer other) {next following : α → Except Fault β}
    (rest : ∀ value, Mends (next value) (following value)) :
    Mends (answer.bind next) (other.bind following) := by
  intro result returned
  obtain ⟨value, answered, returned⟩ := (bind_eq_ok_iff _ _ _).mp returned
  exact (bind_eq_ok_iff _ _ _).mpr ⟨value, mends value answered, rest value result returned⟩

theorem map (mends : Mends answer other) (f : α → β) : Mends (answer.map f) (other.map f) := by
  intro result returned
  obtain ⟨value, answered, returned⟩ := (map_eq_ok_iff _ _ _).mp returned
  exact (map_eq_ok_iff _ _ _).mpr ⟨value, mends value answered, returned⟩

theorem and {first second other following : Check} (head : Mends first other)
    (tail : Mends second following) : Mends (Check.and first second) (Check.and other following) := by
  -- A false check is the answer already; only a true one asks the next.
  apply head.bind
  intro value
  cases value
  · exact refl _
  · exact tail

theorem all {ι : Type} (items : List ι) (check other : ι → Check)
    (each : ∀ i ∈ items, Mends (check i) (other i)) :
    Mends (Check.all (items.map check)) (Check.all (items.map other)) := by
  induction items with
  | nil => exact refl _
  | cons first rest ih =>
    exact (each first (by simp)).and (ih fun i member => each i (by simp [member]))

end Mends

/-- Whatever an entity says of itself, the mended one says too. -/
structure Entity.Mended (e mended : Entity) : Prop where
  id : Mends e.id mended.id
  typeId : Mends e.typeId mended.typeId
  nameTag : Mends e.nameTag mended.nameTag
  location : Mends e.location mended.location
  rotation : Mends e.rotation mended.rotation
  identity : Mends e.identity mended.identity
  tags : Mends e.tags mended.tags
  inFamily : ∀ family, Mends (e.inFamily family) (mended.inFamily family)
  isPlayer : Mends e.isPlayer mended.isPlayer
  gameMode : Mends e.gameMode mended.gameMode
  level : Mends e.level mended.level
  inventory : Mends e.inventory mended.inventory
  equipment : Mends e.equipment mended.equipment

/-- The mended scoreboard finds what the scoreboard finds, and reads the scores that it reads. -/
def Scoreboard.Mended (board mended : Scoreboard) : Prop :=
  ∀ name, (board.objective name = .ok none → mended.objective name = .ok none) ∧
    ∀ counter, board.objective name = .ok (some counter) →
      ∃ other, mended.objective name = .ok (some other) ∧
        ∀ identity, Mends (counter.score identity) (other.score identity)

/-- The same context over a mended host, each entity being replaced by a mended one. -/
structure Context.Mended (mend : Entity → Entity) (context mended : Context) : Prop where
  entity : ∀ e : Entity, e.Mended (mend e)
  location : mended.location = context.location
  executor : mended.executor = context.executor.map mend
  picks : mended.picks = context.picks
  scoreboard : Option.Rel Scoreboard.Mended context.host.scoreboard mended.host.scoreboard
  pool : ∀ asked candidates, context.host.pool asked = .ok candidates →
    mended.host.pool asked = .ok (candidates.map mend)

/-! ### Checks of a mended entity -/

namespace Entity

variable {e mended : Entity} {d : Demand} {board : Option Scoreboard}

theorem score?_mends (entity : e.Mended mended) (service : Option.Rel Scoreboard.Mended d.board board)
    (objective : String) : Mends (e.score? d.board objective) (mended.score? board objective) := by
  apply entity.identity.bind
  intro identity
  cases identity with
  | none => exact Mends.refl _
  | some identity =>
    -- Both hosts have a scoreboard or neither has one.
    revert service
    cases d.board <;> cases board <;> intro service
    · exact Mends.refl _
    · cases service
    · cases service
    next known other =>
      have service : known.Mended other := by cases service with | some service => exact service
      -- An objective that is missing stays missing; one that is found reads what it read.
      obtain ⟨absent, present⟩ := service objective
      intro score returned
      obtain ⟨counter, answered, returned⟩ := (bind_eq_ok_iff _ _ _).mp returned
      cases counter with
      | none => exact (bind_eq_ok_iff _ _ _).mpr ⟨none, absent answered, returned⟩
      | some counter =>
        obtain ⟨reading, found, reads⟩ := present counter answered
        exact (bind_eq_ok_iff _ _ _).mpr ⟨some reading, found, reads identity score returned⟩

/-- A score filter comes to what it came to before. -/
theorem meetsScores_mends (entity : e.Mended mended)
    (service : Option.Rel Scoreboard.Mended d.board board) (filters : List ScoreFilter) :
    Mends (outcome (e.meetsScores d.board filters)) (outcome (mended.meetsScores board filters)) := by
  induction filters with
  | nil => exact Mends.refl _
  | cons filter rest ih =>
    intro met returned
    have score := score?_mends entity service filter.objective
    rw [outcome_meetsScores_cons] at returned ⊢
    cases answered : e.score? d.board filter.objective with
    | error fault => simp [answered] at returned
    | ok found =>
      rw [answered] at returned
      rw [score found answered]
      cases found with
      -- A score that is missing is reported under the id, and makes the check false.
      | none => exact entity.id.map (fun _ => false) met returned
      | some found =>
        simp only at returned ⊢
        split at returned
        next accepted => rw [if_pos accepted]; exact ih met returned
        next rejected => rw [if_neg rejected]; exact returned

theorem itemSlots_mends (entity : e.Mended mended) (settings : Settings) :
    Mends (e.itemSlots settings) (mended.itemSlots settings) :=
  entity.isPlayer.bind fun _ => entity.inventory.bind fun _ => entity.equipment.bind fun _ =>
    Mends.refl _

theorem isWantedPlayer_mends (entity : e.Mended mended) (q : Query) :
    Mends (e.isWantedPlayer q) (mended.isWantedPlayer q) := by
  unfold isWantedPlayer
  have mode : Mends (e.hasGameMode q) (mended.hasGameMode q) := by
    simpa only [hasGameMode_eq] using entity.gameMode.map _
  have level : Mends (e.hasLevel q) (mended.hasLevel q) := by
    simp only [hasLevel_eq]
    split
    · exact Mends.refl _
    · exact entity.level.map _
  split
  · exact Mends.refl _
  · exact entity.isPlayer.and (mode.and (level.and (Mends.refl _)))

/-- Every check comes to what it came to before. -/
theorem check_mends (entity : e.Mended mended)
    (service : Option.Rel Scoreboard.Mended d.board board) (aspect : Aspect) :
    Mends (e.check d aspect) (mended.check { d with board } aspect) := by
  cases aspect with
  | type => simpa only [check, hasType_eq] using entity.typeId.map _
  | name => simpa only [check, hasName_eq] using entity.nameTag.map _
  | tags =>
    simp only [check, hasTags_eq]
    split
    · exact Mends.refl _
    · exact entity.tags.map _
  | families => exact Mends.all _ _ _ fun family _ => entity.inFamily family
  | excludedFamilies => exact Mends.all _ _ _ fun family _ => (entity.inFamily family).map _
  | player => exact isWantedPlayer_mends entity d.query
  | rotation =>
    simp only [check, hasRotation_eq]
    split
    · exact Mends.refl _
    · exact entity.rotation.map _
  | distance =>
    simp only [check]
    cases d.origin with
    | none => exact Mends.refl _
    | some center =>
      simp only [hasDistance_eq]
      split
      · exact Mends.refl _
      · exact entity.location.map _
  | scores => exact meetsScores_mends entity service d.query.scores
  | items =>
    simp only [check, meetsItems_eq]
    split
    · exact Mends.refl _
    · exact (itemSlots_mends entity d.settings).map _
  | volume =>
    simp only [check, inVolume]
    split
    · exact entity.location.map _
    · exact Mends.refl _

end Entity

/-! ### Choices over a mended host -/

section Stages

variable {mend : Entity → Entity}

theorem passing_mended (entity : ∀ e : Entity, e.Mended (mend e)) {d : Demand}
    {board : Option Scoreboard} (service : Option.Rel Scoreboard.Mended d.board board)
    {candidates accepted : List Entity}
    (returned : outcome (passing d.query d.origin d.settings d.board candidates) = .ok accepted) :
    outcome (passing d.query d.origin d.settings board (candidates.map mend)) =
      .ok (accepted.map mend) := by
  induction candidates generalizing accepted with
  | nil =>
    cases returned
    rfl
  | cons e rest ih =>
    rw [outcome_passing_cons, bind_eq_ok_iff] at returned
    obtain ⟨passes, answered, returned⟩ := returned
    obtain ⟨others, others_returned, rfl⟩ := (map_eq_ok_iff _ _ _).mp returned
    have head : outcome ((mend e).passes d.query d.origin d.settings board) = .ok passes := by
      -- Both are rows of the same checks, each of which says what it said.
      rw [e.outcome_passes d] at answered
      exact ((mend e).outcome_passes { d with board }).trans
        (Mends.all _ _ _ (fun aspect _ => Entity.check_mends (entity e) service aspect) passes answered)
    rw [List.map_cons, outcome_passing_cons, head, ih others_returned]
    cases passes <;> rfl

theorem measured_mended (entity : ∀ e : Entity, e.Mended (mend e)) (center : Point)
    {entities : List Entity} {items : List (Float × Entity)}
    (returned : measured center entities = .ok items) :
    measured center (entities.map mend) = .ok (items.map (Evaluation.rekeyed mend)) := by
  induction entities generalizing items with
  | nil =>
    cases returned
    rfl
  | cons e rest ih =>
    rw [measured_cons, bind_eq_ok_iff] at returned
    obtain ⟨own, located, returned⟩ := returned
    obtain ⟨others, others_returned, rfl⟩ := (map_eq_ok_iff _ _ _).mp returned
    rw [List.map_cons, measured_cons, (entity e).location own located, ih others_returned]
    rfl

theorem limited_mended (entity : ∀ e : Entity, e.Mended (mend e)) (limit : CountLimit)
    (center : Point) {entities chosen : List Entity}
    (returned : limited limit center entities = .ok chosen) :
    limited limit center (entities.map mend) = .ok (chosen.map mend) := by
  rw [limited_eq, map_eq_ok_iff] at returned
  obtain ⟨items, measures, rfl⟩ := returned
  have order : limit.order (items.map (Evaluation.rekeyed mend)) =
      (limit.order items).map (Evaluation.rekeyed mend) := by
    -- Either order looks at the distances alone.
    unfold CountLimit.order
    cases limit.proximity
    · exact Evaluation.sortUp_map mend items
    · exact Evaluation.sortDown_map mend items
  rw [limited_eq, measured_mended entity center measures, Except.map, order, List.map_take,
    List.map_map, List.map_map]
  rfl

variable {context mended : Context}

theorem originIn_mended (host : context.Mended mend mended) (q : Query) :
    Mends (q.originIn context) (q.originIn mended) := by
  have base : Mends context.base mended.base := by
    unfold Context.base
    rw [host.location, host.executor]
    cases context.location with
    | some location => exact Mends.refl _
    | none =>
      cases context.executor with
      | none => exact Mends.refl _
      | some e => exact (host.entity e).location.map some
  -- Whether an origin is needed is said by the query, not by the host.
  rw [q.originIn_eq, q.originIn_eq]
  split
  · exact base.map _
  · exact Mends.refl _

namespace Chooser

variable (c : Chooser)

theorem arrange_mended (host : context.Mended mend mended) (origin : Option Point)
    {accepted chosen : List Entity} (returned : c.arrange context origin accepted = .ok chosen) :
    c.arrange mended origin (accepted.map mend) = .ok (chosen.map mend) := by
  unfold arrange at returned ⊢
  rw [host.picks]
  cases sized : c.selector.query.sampleSize c.selector.symbol c.settings with
  | some size =>
    simp only [sized] at returned
    cases returned
    exact congrArg Except.ok (Evaluation.sample_map mend _ _ _)
  | none =>
    cases counted : c.query.count with
    | none =>
      simp only [sized, counted] at returned
      cases returned
      rfl
    | some limit =>
      simp only [sized, counted] at returned
      exact limited_mended host.entity limit _ returned

theorem chooseSelf_mended (host : context.Mended mend mended) {chosen : List Entity}
    (returned : outcome (c.chooseSelf context) = .ok chosen) :
    outcome (c.chooseSelf mended) = .ok (chosen.map mend) := by
  have executor := host.executor
  cases given : context.executor with
  | none =>
    rw [given] at executor
    unfold chooseSelf at returned ⊢
    rw [given] at returned
    rw [executor]
    cases returned
    rfl
  | some e =>
    rw [given] at executor
    let d : Demand := ⟨c.selector.query, none, c.settings, context.host.scoreboard⟩
    have volume : Mends (executorInVolume context e d.query)
        (executorInVolume mended (mend e) d.query) := by
      unfold executorInVolume
      split
      · exact Mends.refl _
      · exact (originIn_mended host _).bind fun _ => (host.entity e).location.map _
    -- The distance is no aspect of the executor, so no origin is needed here.
    have checks := Mends.and (Mends.all (Aspect.placeless ++ [Aspect.scores, Aspect.items]) _ _
      fun aspect _ => Entity.check_mends (d := d) (host.entity e) host.scoreboard aspect) volume
    rw [c.outcome_chooseSelf context d rfl rfl rfl given, map_eq_ok_iff] at returned
    obtain ⟨passes, answered, rfl⟩ := returned
    rw [c.outcome_chooseSelf mended { d with board := mended.host.scoreboard } rfl rfl rfl executor,
      checks passes answered]
    cases passes <;> rfl

theorem choosePool_mended (host : context.Mended mend mended) {chosen : List Entity}
    (returned : outcome (c.choosePool context) = .ok chosen) :
    (∃ origin fault, c.query.originIn context = .ok origin ∧
        context.host.pool ⟨{ c.query with count := none }, origin⟩ = .error fault ∧ chosen = []) ∨
      outcome (c.choosePool mended) = .ok (chosen.map mend) := by
  -- The base location was asked first, and answered.
  obtain ⟨origin, resolved⟩ : ∃ origin, c.query.originIn context = .ok origin := by
    rw [outcome_choosePool, bind_eq_ok_iff] at returned
    obtain ⟨origin, resolved, -⟩ := returned
    exact ⟨origin, resolved⟩
  cases answered : context.host.pool ⟨{ c.query with count := none }, origin⟩ with
  | error fault =>
    rw [c.outcome_choosePool_of_failure context resolved answered] at returned
    cases returned
    exact Or.inl ⟨origin, fault, resolved, answered, rfl⟩
  | ok candidates =>
    right
    rw [c.outcome_choosePool_of_answer context resolved answered, bind_eq_ok_iff] at returned
    obtain ⟨accepted, passed, arranged⟩ := returned
    have passedMended := passing_mended (d := c.demand context origin) host.entity host.scoreboard passed
    rw [c.outcome_choosePool_of_answer mended (originIn_mended host _ origin resolved)
      (host.pool _ _ answered)]
    exact (congrArg (fun step => step.bind (c.arrange mended origin)) passedMended).trans
      (c.arrange_mended host origin arranged)

/-- A choice that comes to a list comes to the same one over a mended host, unless the pool failed
and the list is empty for that. -/
theorem choose_mended (host : context.Mended mend mended) {chosen : List Entity}
    (returned : outcome (c.choose context) = .ok chosen) :
    (∃ origin fault, c.query.originIn context = .ok origin ∧
        context.host.pool ⟨{ c.query with count := none }, origin⟩ = .error fault ∧ chosen = []) ∨
      outcome (c.choose mended) = .ok (chosen.map mend) := by
  unfold choose at returned ⊢
  by_cases alone : c.selector.symbol = .self
  · rw [if_pos alone] at returned ⊢
    exact Or.inr (c.chooseSelf_mended host returned)
  · rw [if_neg alone] at returned ⊢
    exact c.choosePool_mended host returned

/-- A failing pool is caught and makes the choice empty. A failing answer of an entity or of the
scoreboard gets out of the choice wherever it is asked for; a choice that comes to a list has met
none, and a mended host would not have added to it. -/
theorem escaping_faults (given : Option String) (settings : Settings) (context : Context) :
    let c := ofText given settings
    (∀ fault, outcome (c.choose context) = .error fault ↔ c.BreaksOff context fault) ∧
      (∀ origin fault, c.selector.symbol ≠ .self → c.query.originIn context = .ok origin →
        context.host.pool ⟨{ c.query with count := none }, origin⟩ = .error fault →
          outcome (c.choose context) = .ok []) ∧
      ∀ mend mended chosen, context.Mended mend mended → outcome (c.choose context) = .ok chosen →
        (∃ origin fault, c.query.originIn context = .ok origin ∧
          context.host.pool ⟨{ c.query with count := none }, origin⟩ = .error fault ∧ chosen = []) ∨
        outcome (c.choose mended) = .ok (chosen.map mend) := by
  intro c
  refine ⟨c.choose_eq_error_iff context, ?_, ?_⟩
  · intro origin fault pooled resolved failed
    rw [choose, if_neg pooled, c.outcome_choosePool_of_failure context resolved failed]
  · intro mend mended chosen host returned
    exact c.choose_mended host returned

/-- An entity that is no longer loaded fails to say who it is when its score is asked for. -/
theorem escaping_fault_of_unloaded :
    let c := ofText (some "@e[scores={k=4}]") {}
    let w : World := {
      bodies := [{ id := "x", type := "minecraft:pig", name := "Ghost", visibility := .unloaded }]
      pool := [0]
      board := some { objectives := [("k", [])] } }
    outcome (c.choose { host := w.host }) = .error Body.unloadedFault ∧
      c.BreaksOff { host := w.host } Body.unloadedFault := by
  intro c w
  have broken : outcome (c.choose { host := w.host }) = .error Body.unloadedFault := rfl
  exact ⟨broken, ((escaping_faults (some "@e[scores={k=4}]") {} { host := w.host }).1 _).mp broken⟩

end Chooser

end Stages

end Targeting
