import Targeting.Proofs.Stages
import Targeting.World.Body

/-!
# The answer of the pool is a hint

Over a host that answers everything it is asked, a choice depends on the pool
only through the accepted candidates and their order.

## Proof strategy

An entity whose accessors answer faults under no aspect, so its checks settle
and passing keeps exactly the accepted candidates. What is done with those
afterwards never looks at the pool again.
-/
namespace Targeting

/-- No accessor of the entity fails. -/
structure Entity.Answers (e : Entity) : Prop where
  id : ∃ id, e.id = .ok id
  typeId : ∃ typeId, e.typeId = .ok typeId
  nameTag : ∃ nameTag, e.nameTag = .ok nameTag
  location : ∃ location, e.location = .ok location
  rotation : ∃ rotation, e.rotation = .ok rotation
  identity : ∃ identity, e.identity = .ok identity
  tags : ∃ tags, e.tags = .ok tags
  inFamily : ∀ family, ∃ member, e.inFamily family = .ok member
  isPlayer : ∃ player, e.isPlayer = .ok player
  gameMode : ∃ mode, e.gameMode = .ok mode
  level : ∃ level, e.level = .ok level
  inventory : ∃ inventory, e.inventory = .ok inventory
  equipment : ∃ equipment, e.equipment = .ok equipment

/-- No look-up of an objective and no reading of a score fails. -/
def Scoreboard.Answers (board : Scoreboard) : Prop :=
  ∀ name, ∃ found, board.objective name = .ok found ∧
    ∀ counter, found = some counter → ∀ identity, ∃ score, counter.score identity = .ok score

/-- A body that is loaded answers everything. -/
theorem Body.entity_answers {b : Body} (loaded : b.visibility ≠ .unloaded) (handle : Nat) :
    (b.entity handle).Answers := by
  unfold entity
  cases shown : b.visibility with
  | full => constructor <;> first | exact ⟨_, rfl⟩ | exact fun _ => ⟨_, rfl⟩
  | unloaded => exact absurd shown loaded
  | bare => constructor <;> first | exact ⟨_, rfl⟩ | exact fun _ => ⟨_, rfl⟩

namespace Entity

variable {e : Entity} {d : Demand}

theorem score?_of_answers (answers : e.Answers) {board : Option Scoreboard}
    (service : ∀ b, board = some b → b.Answers) (objective : String) :
    ∃ score, e.score? board objective = .ok score := by
  obtain ⟨identity, identified⟩ := answers.identity
  rw [score?, identified]
  cases identity with
  | none => exact ⟨none, rfl⟩
  | some identity =>
    cases board with
    | none => exact ⟨none, rfl⟩
    | some board =>
      obtain ⟨counter, found, reads⟩ := service board rfl objective
      cases counter with
      | none => exact ⟨none, by simp [bind, Except.bind, found, pure, Except.pure]⟩
      | some counter =>
        obtain ⟨score, held⟩ := reads counter rfl identity
        exact ⟨score, by simp [bind, Except.bind, found, held]⟩

theorem itemSlots_of_answers (answers : e.Answers) (settings : Settings) :
    ∃ slots, e.itemSlots settings = .ok slots := by
  obtain ⟨player, asked⟩ := answers.isPlayer
  obtain ⟨inventory, listed⟩ := answers.inventory
  obtain ⟨equipment, worn⟩ := answers.equipment
  rw [itemSlots, asked, listed, worn]
  cases player <;> exact ⟨_, rfl⟩

/-- An entity that answers everything faults under no aspect. -/
theorem not_faults_of_answers (answers : e.Answers) (service : ∀ b, d.board = some b → b.Answers)
    (fault : Fault) (aspect : Aspect) : ¬ e.Faults d fault aspect := by
  -- A failing answer would also be the answer that there is.
  have clash {α : Type} {answer : Except Fault α} (answered : ∃ value, answer = .ok value) :
      answer ≠ .error fault := by
    obtain ⟨value, rfl⟩ := answered
    simp
  cases aspect with
  | type => exact clash answers.typeId
  | name => exact clash answers.nameTag
  | tags => exact fun broken => clash answers.tags broken.2
  | families =>
    rintro ⟨before, family, after, -, -, broken⟩
    exact clash (answers.inFamily family) broken
  | excludedFamilies =>
    rintro ⟨before, family, after, -, -, broken⟩
    exact clash (answers.inFamily family) broken
  | player =>
    rintro ⟨-, broken | ⟨-, broken | ⟨-, -, broken⟩⟩⟩
    · exact clash answers.isPlayer broken
    · exact clash answers.gameMode broken
    · exact clash answers.level broken
  | rotation => exact fun broken => clash answers.rotation broken.2
  | distance => exact fun broken => clash answers.location broken.2
  | scores =>
    rintro ⟨before, filter, after, -, -, broken | ⟨-, broken⟩⟩
    · exact clash (score?_of_answers answers service filter.objective) broken
    · exact clash answers.id broken
  | items => exact fun broken => clash (itemSlots_of_answers answers d.settings) broken.2
  | volume => exact fun broken => clash answers.location broken.2

theorem settles_of_answers (answers : e.Answers) (service : ∀ b, d.board = some b → b.Answers) :
    e.Settles d := by
  rintro fault ⟨before, aspect, after, -, -, broken⟩
  exact not_faults_of_answers answers service fault aspect broken

open Classical in
/-- A row of checks of an entity that answers everything comes to whether it meets the aspects. -/
theorem all_check_of_answers (answers : e.Answers) (service : ∀ b, d.board = some b → b.Answers)
    (placed : d.Placed) (aspects : List Aspect) :
    Check.all (aspects.map (e.check d)) = .ok (decide (∀ aspect ∈ aspects, e.Meets d aspect)) := by
  cases row : Check.all (aspects.map (e.check d)) with
  | error fault =>
    obtain ⟨before, aspect, after, -, -, broken⟩ :=
      (e.all_check_eq_error_iff d placed aspects fault).mp row
    exact absurd broken (not_faults_of_answers answers service fault aspect)
  | ok passes =>
    have met : passes = true ↔ ∀ aspect ∈ aspects, e.Meets d aspect := by
      rw [← Except.ok.injEq (ε := Fault), ← row, Check.all_eq_ok_true_iff, List.forall_mem_map]
      exact forall₂_congr fun aspect _ => e.check_eq_ok_true_iff d placed aspect
    rw [Except.ok.injEq, Bool.eq_iff_iff, met, decide_eq_true_eq]

end Entity

/-! ### Over a host that answers -/

namespace Context

/-- What the pool answers. A pool that fails answers nobody. -/
def answer (context : Context) (asked : PoolQuery) : List Entity :=
  (context.host.pool asked).toOption.getD []

theorem mem_answer_iff (context : Context) (asked : PoolQuery) (e : Entity) :
    e ∈ context.answer asked ↔
      ∃ candidates, context.host.pool asked = .ok candidates ∧ e ∈ candidates := by
  unfold answer
  cases context.host.pool asked <;> simp [Except.toOption]

theorem answers_of_mem_answer {context : Context}
    (pool : ∀ asked candidates, context.host.pool asked = .ok candidates →
      ∀ e ∈ candidates, e.Answers) (asked : PoolQuery) : ∀ e ∈ context.answer asked, e.Answers := by
  intro e member
  obtain ⟨candidates, answered, listed⟩ := (context.mem_answer_iff asked e).mp member
  exact pool asked candidates answered e listed

end Context

namespace Chooser

variable (c : Chooser) (context : Context)

theorem originIn_of_answers (executor : ∀ e, context.executor = some e → e.Answers) (q : Query) :
    ∃ origin, q.originIn context = .ok origin := by
  cases resolved : q.originIn context with
  | ok origin => exact ⟨origin, rfl⟩
  | error fault =>
    obtain ⟨-, -, e, given, broken⟩ := (q.originIn_eq_error_iff context fault).mp resolved
    obtain ⟨own, located⟩ := (executor e given).location
    simp [located] at broken

theorem arrange_of_answers {accepted : List Entity} (answers : ∀ e ∈ accepted, e.Answers)
    (origin : Option Point) : ∃ chosen, c.arrange context origin accepted = .ok chosen := by
  cases arranged : c.arrange context origin accepted with
  | ok chosen => exact ⟨chosen, rfl⟩
  | error fault =>
    obtain ⟨-, before, e, after, rfl, -, broken⟩ :=
      (c.arrange_eq_error_iff context origin accepted fault).mp arranged
    obtain ⟨own, located⟩ := (answers e (by simp)).location
    simp [located] at broken

theorem arrange_nil (origin : Option Point) : c.arrange context origin [] = .ok [] := by
  have answers : ∀ e ∈ ([] : List Entity), e.Answers := List.forall_mem_nil _
  obtain ⟨chosen, arranged⟩ := c.arrange_of_answers context answers origin
  rw [arranged, List.subperm_nil.mp (c.arrange_subperm context arranged)]

open Classical in
/-- Once the origin is resolved, a choice is the arrangement of the accepted candidates. -/
theorem outcome_choose_of_answers (pooled : c.selector.symbol ≠ .self)
    (service : ∀ b, context.host.scoreboard = some b → b.Answers) {origin : Option Point}
    (resolved : c.query.originIn context = .ok origin)
    (pool : PoolQuery → Except Fault (List Entity)) {candidates : List Entity}
    (answered : pool ⟨{ c.query with count := none }, origin⟩ = .ok candidates)
    (answers : ∀ e ∈ candidates, e.Answers) :
    outcome (c.choose (context.withPool pool)) =
      c.arrange context origin (candidates.filter fun e => e.Accepted (c.demand context origin)) := by
  have placed := c.placed_of_originIn context resolved
  have passed := outcome_passing_of_settles (c.demand context origin) placed fun e member =>
    Entity.settles_of_answers (answers e member) service
  rw [choose, if_neg pooled]
  exact (c.outcome_choosePool_of_answer (context.withPool pool) resolved answered).trans
    (congrArg (fun step => step.bind (c.arrange context origin)) passed)

open Classical in
/-- The same over the pool of the context, also if it fails. -/
theorem outcome_choose_eq_arrange (pooled : c.selector.symbol ≠ .self)
    (service : ∀ b, context.host.scoreboard = some b → b.Answers) {origin : Option Point}
    (resolved : c.query.originIn context = .ok origin)
    (answers : ∀ e ∈ context.answer ⟨{ c.query with count := none }, origin⟩, e.Answers) :
    outcome (c.choose context) = c.arrange context origin
      ((context.answer ⟨{ c.query with count := none }, origin⟩).filter fun e =>
        e.Accepted (c.demand context origin)) := by
  unfold Context.answer at answers ⊢
  cases answered : context.host.pool ⟨{ c.query with count := none }, origin⟩ with
  | error fault =>
    rw [choose, if_neg pooled, c.outcome_choosePool_of_failure context resolved answered]
    exact (c.arrange_nil context origin).symm
  | ok candidates =>
    rw [answered] at answers
    exact c.outcome_choose_of_answers context pooled service resolved context.host.pool answered
      answers

/-- A choice from a pool over a host that answers comes to a list of entities. -/
theorem exists_outcome_choose_of_answers (pooled : c.selector.symbol ≠ .self)
    (executor : ∀ e, context.executor = some e → e.Answers)
    (service : ∀ b, context.host.scoreboard = some b → b.Answers)
    (pool : ∀ asked candidates, context.host.pool asked = .ok candidates →
      ∀ e ∈ candidates, e.Answers) : ∃ chosen, outcome (c.choose context) = .ok chosen := by
  classical
  obtain ⟨origin, resolved⟩ := originIn_of_answers context executor c.query
  have answers := Context.answers_of_mem_answer pool ⟨{ c.query with count := none }, origin⟩
  rw [c.outcome_choose_eq_arrange context pooled service resolved answers]
  exact c.arrange_of_answers context (fun e member => answers e (List.mem_filter.mp member).1) origin

open Classical in
/-- The pool is only asked for a hint. Whatever is measured from an origin has one, so no constraint
is skipped; what is chosen was in the answer of the pool and is accepted; and two pools whose
answers hold the same accepted candidates in the same order lead to the same choice. -/
theorem pool_is_only_hint (c : Chooser) (context : Context) (pooled : c.selector.symbol ≠ .self)
    (executor : ∀ e, context.executor = some e → e.Answers)
    (service : ∀ b, context.host.scoreboard = some b → b.Answers) :
    ∃ origin, c.query.originIn context = .ok origin ∧
      (c.query.distance.isOpen = false ∨ c.query.volume ≠ none ∨ c.query.count ≠ none →
        ∃ center, origin = some center) ∧
      (∀ pool candidates, pool ⟨{ c.query with count := none }, origin⟩ = .ok candidates →
        (∀ e ∈ candidates, e.Answers) →
        ∃ chosen, outcome (c.choose (context.withPool pool)) = .ok chosen ∧
          ∀ e ∈ chosen, e ∈ candidates ∧ e.Accepted (c.demand context origin)) ∧
      ∀ left right lefts rights,
        left ⟨{ c.query with count := none }, origin⟩ = .ok lefts → (∀ e ∈ lefts, e.Answers) →
        right ⟨{ c.query with count := none }, origin⟩ = .ok rights → (∀ e ∈ rights, e.Answers) →
        lefts.filter (fun e => e.Accepted (c.demand context origin)) =
          rights.filter (fun e => e.Accepted (c.demand context origin)) →
        outcome (c.choose (context.withPool left)) = outcome (c.choose (context.withPool right)) := by
  obtain ⟨origin, resolved⟩ := originIn_of_answers context executor c.query
  refine ⟨origin, resolved, ?_, ?_, ?_⟩
  · intro measured
    apply c.query.exists_of_originIn context _ resolved
    -- Whichever of the three is asked for, the query needs an origin.
    rcases measured with bounded | volume | count
    · simp [Query.needsOrigin, bounded]
    · simp [Query.needsOrigin, Option.isSome_iff_ne_none.mpr volume]
    · simp [Query.needsOrigin, Option.isSome_iff_ne_none.mpr count]
  · intro pool candidates answered answers
    have whole := c.outcome_choose_of_answers context pooled service resolved pool answered answers
    -- Arranging asks the accepted candidates for nothing but their locations.
    have answersKept : ∀ e ∈ candidates.filter (fun e => e.Accepted (c.demand context origin)),
        e.Answers := fun e member => answers e (List.mem_filter.mp member).1
    obtain ⟨chosen, arranged⟩ := c.arrange_of_answers context answersKept origin
    refine ⟨chosen, whole.trans arranged, ?_⟩
    intro e member
    have kept := (c.arrange_subperm context arranged).subset member
    simpa using kept
  · intro left right lefts rights leftAnswered leftAnswers rightAnswered rightAnswers same
    rw [c.outcome_choose_of_answers context pooled service resolved left leftAnswered leftAnswers,
      c.outcome_choose_of_answers context pooled service resolved right rightAnswered rightAnswers,
      same]

/-- A cow more in the answer of the pool does not change which pigs are chosen. -/
theorem pool_is_only_hint_of_cow :
    let c : Chooser := { selector := { symbol := .everyone, query := { type := some "pig" } } }
    let pig := ({ id := "1", type := "minecraft:pig" } : Body).entity 0
    let cow := ({ id := "2", type := "minecraft:cow" } : Body).entity 1
    let context : Context := { host := { pool := fun _ => .ok [], scoreboard := none } }
    outcome (c.choose (context.withPool fun _ => .ok [pig])) =
      outcome (c.choose (context.withPool fun _ => .ok [cow, pig])) := by
  intro c pig cow context
  have answers : pig.Answers ∧ cow.Answers :=
    ⟨Body.entity_answers (by decide) 0, Body.entity_answers (by decide) 1⟩
  obtain ⟨origin, -, -, -, same⟩ := pool_is_only_hint c context (by decide) (by simp [context])
    (by simp [context])
  -- The cow is not accepted, whatever the origin, so both answers hold the same accepted entity.
  have rejected : ¬ cow.Accepted (c.demand context origin) := by
    intro accepted
    obtain ⟨own, answered, wanted, -⟩ := accepted .type
    obtain rfl := Except.ok.inj answered
    have apart : completeTypeId "minecraft" "minecraft:cow" ≠ completeTypeId "minecraft" "pig" := by
      decide
    exact apart (wanted "pig" rfl (by decide))
  apply same _ _ [pig] [cow, pig] rfl (by simp [answers]) rfl (by simp [answers])
  exact (List.filter_cons_of_neg (by simpa using rejected)).symm

end Chooser

end Targeting
