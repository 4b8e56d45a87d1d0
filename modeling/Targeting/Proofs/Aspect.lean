import Mathlib.Logic.Basic
import Targeting.Evaluation.Choice
import Targeting.Proofs.Outcome

/-!
# Aspects of an entity

A query looks at an entity under eleven aspects. For each aspect there is the
check that is run, what the check asks for (`Meets`), and which failing answer
of the host breaks it off (`Faults`). A check comes out true exactly if the
aspect is met, and breaks off exactly at a fault of the aspect.
-/
namespace Targeting

inductive Aspect where
  | type
  | name
  | tags
  | families
  | excludedFamilies
  | player
  | rotation
  | distance
  | scores
  | items
  | volume
deriving DecidableEq, Repr

/-- What a candidate is held against. -/
structure Demand where
  query : Query
  origin : Option Point
  settings : Settings
  board : Option Scoreboard

namespace Demand

/-- Whatever is measured from an origin has one. -/
def Placed (d : Demand) : Prop :=
  (d.query.distance.isOpen = false → ∃ center, d.origin = some center) ∧
    (∀ volume, d.query.volume = some volume → ∃ start, d.origin = some start)

/-- Whether the query asks for anything that only players have. -/
def AsksPlayer (d : Demand) : Prop :=
  d.query.gameMode ≠ none ∨ d.query.excludedGameModes ≠ [] ∨ d.query.level.isOpen = false

/-- The game mode is the wanted one, and none of the excluded ones. -/
def WantsMode (d : Demand) (mode : Option GameMode) : Prop :=
  (∀ wanted, d.query.gameMode = some wanted → mode = some wanted) ∧
    ∀ excluded ∈ d.query.excludedGameModes, mode ≠ some excluded

end Demand

namespace Entity

variable (e : Entity) (d : Demand)

/-- The score that the host has for an entity on an objective, if it has one. -/
def score? (board : Option Scoreboard) (objective : String) : Except Fault (Option Int) := do
  match ← e.identity, board with
  | some identity, some board =>
    match ← board.objective objective with
    | some counter => counter.score identity
    | none => return none
  | _, _ => return none

/-- The position lies in the box of the query, if it has one. -/
def inVolume (volume start : Option Point) : Check :=
  match volume, start with
  | some volume, some start => e.location.map (withinBox · start volume)
  | _, _ => .ok true

/-- The check that is run for an aspect. -/
def check : Aspect → Check
  | .type => e.hasType d.query d.settings.defaultNamespace
  | .name => e.hasName d.query
  | .tags => e.hasTags d.query
  | .families => e.inFamilies d.query.families
  | .excludedFamilies => e.outsideFamilies d.query.excludedFamilies
  | .player => e.isWantedPlayer d.query
  | .rotation => e.hasRotation d.query
  | .distance => e.hasDistance d.query d.origin
  | .scores => outcome (e.meetsScores d.board d.query.scores)
  | .items => e.meetsItems d.query.items d.settings
  | .volume => e.inVolume d.query.volume d.origin

/-- What an aspect asks of the entity. Empty types count as absent, and distances are compared
squared. -/
def Meets : Aspect → Prop
  | .type => ∃ own, e.typeId = .ok own ∧
      (∀ wanted, d.query.type = some wanted → wanted ≠ "" →
        completeTypeId d.settings.defaultNamespace own =
          completeTypeId d.settings.defaultNamespace wanted) ∧
      ∀ excluded ∈ d.query.excludedTypes, completeTypeId d.settings.defaultNamespace own ≠
        completeTypeId d.settings.defaultNamespace excluded
  | .name => ∃ own, e.nameTag = .ok own ∧ (∀ wanted, d.query.name = some wanted → own = wanted) ∧
      own ∉ d.query.excludedNames
  | .tags => d.query.tags = [] ∧ d.query.excludedTags = [] ∨
      ∃ own, e.tags = .ok own ∧ (∀ tag ∈ d.query.tags, tag ∈ own) ∧
        ∀ tag ∈ d.query.excludedTags, tag ∉ own
  | .families => ∀ family ∈ d.query.families, e.inFamily family = .ok true
  | .excludedFamilies => ∀ family ∈ d.query.excludedFamilies, e.inFamily family = .ok false
  | .player => ¬ d.AsksPlayer ∨
      e.isPlayer = .ok true ∧ (∃ mode, e.gameMode = .ok mode ∧ d.WantsMode mode) ∧
        (d.query.level.isOpen = true ∨
          ∃ level, e.level = .ok (some level) ∧ d.query.level.contains level = true)
  | .rotation => d.query.rotationIsOpen = true ∨
      ∃ own, e.rotation = .ok own ∧ d.query.pitch.contains own.pitch = true ∧
        d.query.yaw.contains own.yaw = true
  | .distance => d.query.distance.isOpen = true ∨
      ∃ center own, d.origin = some center ∧ e.location = .ok own ∧
        (∀ low, d.query.distance.low = some low → ¬ own.distanceSquared center < low * low) ∧
        ∀ high, d.query.distance.high = some high → ¬ high * high < own.distanceSquared center
  | .scores => ∀ filter ∈ d.query.scores, ∃ score,
      e.score? d.board filter.objective = .ok (some score) ∧ filter.accepts score = true
  | .items => d.query.items = [] ∨ ∃ slots, e.itemSlots d.settings = .ok slots ∧
      ∀ condition ∈ d.query.items, ∃ slot ∈ slots, condition.accepts slot = true
  | .volume => ∀ volume, d.query.volume = some volume →
      ∃ start own, d.origin = some start ∧ e.location = .ok own ∧
        withinBox own start volume = true

/-- Which failing answers break the check of an aspect off. A score that the host does not have is
reported with the id of the entity, which may fail in turn. -/
def Faults (fault : Fault) : Aspect → Prop
  | .type => e.typeId = .error fault
  | .name => e.nameTag = .error fault
  | .tags => (d.query.tags ≠ [] ∨ d.query.excludedTags ≠ []) ∧ e.tags = .error fault
  | .families => FirstToBreak (fun family => e.inFamily family = .ok true)
      (fun family => e.inFamily family = .error fault) d.query.families
  | .excludedFamilies => FirstToBreak (fun family => e.inFamily family = .ok false)
      (fun family => e.inFamily family = .error fault) d.query.excludedFamilies
  | .player => d.AsksPlayer ∧
      (e.isPlayer = .error fault ∨
        e.isPlayer = .ok true ∧ (e.gameMode = .error fault ∨
          (∃ mode, e.gameMode = .ok mode ∧ d.WantsMode mode) ∧
            d.query.level.isOpen = false ∧ e.level = .error fault))
  | .rotation => d.query.rotationIsOpen = false ∧ e.rotation = .error fault
  | .distance => d.query.distance.isOpen = false ∧ e.location = .error fault
  | .scores => FirstToBreak
      (fun filter => ∃ score, e.score? d.board filter.objective = .ok (some score) ∧
        filter.accepts score = true)
      (fun filter => e.score? d.board filter.objective = .error fault ∨
        e.score? d.board filter.objective = .ok none ∧ e.id = .error fault)
      d.query.scores
  | .items => d.query.items ≠ [] ∧ e.itemSlots d.settings = .error fault
  | .volume => d.query.volume ≠ none ∧ e.location = .error fault

end Entity

namespace Entity

variable (e : Entity) (d : Demand)

/-! ### The checks one by one -/

theorem hasType_eq (q : Query) (space : String) : e.hasType q space =
    e.typeId.map fun own => (match q.type with
      | none => true
      | some type => type.isEmpty || completeTypeId space own = completeTypeId space type) &&
        !q.excludedTypes.any fun type => completeTypeId space own = completeTypeId space type := by
  unfold hasType
  cases e.typeId <;> rfl

theorem hasType_eq_ok_true_iff : e.hasType d.query d.settings.defaultNamespace = .ok true ↔
    e.Meets d .type := by
  rw [hasType_eq, map_eq_ok_iff]
  simp only [Meets, Bool.and_eq_true, Bool.not_eq_true', List.any_eq_false, decide_eq_true_eq]
  refine exists_congr fun own => and_congr_right fun _ => and_congr_left fun _ => ?_
  cases d.query.type with
  | none => simp
  | some type => simp [Decidable.or_iff_not_imp_left]

theorem hasName_eq (q : Query) : e.hasName q =
    e.nameTag.map fun own => q.name.all (own = ·) && !q.excludedNames.contains own := by
  unfold hasName
  cases e.nameTag <;> rfl

theorem hasName_eq_ok_true_iff : e.hasName d.query = .ok true ↔ e.Meets d .name := by
  rw [hasName_eq, map_eq_ok_iff]
  simp only [Meets, Bool.and_eq_true, Bool.not_eq_true', Option.all_eq_true, decide_eq_true_eq,
    List.contains_eq_mem, decide_eq_false_iff_not]

theorem hasTags_eq (q : Query) : e.hasTags q =
    if q.tags = [] ∧ q.excludedTags = [] then .ok true
    else e.tags.map fun own => q.tags.all own.contains && !q.excludedTags.any own.contains := by
  simp only [hasTags, Bool.and_eq_true, List.isEmpty_iff]
  split
  · rfl
  · cases e.tags <;> rfl

theorem hasTags_eq_ok_true_iff : e.hasTags d.query = .ok true ↔ e.Meets d .tags := by
  rw [hasTags_eq]
  by_cases unasked : d.query.tags = [] ∧ d.query.excludedTags = []
  · simp [Meets, unasked]
  · simp [Meets, unasked, map_eq_ok_iff]

theorem hasTags_eq_error_iff (fault : Fault) :
    e.hasTags d.query = .error fault ↔ e.Faults d fault .tags := by
  rw [hasTags_eq]
  by_cases unasked : d.query.tags = [] ∧ d.query.excludedTags = []
  · simp [Faults, unasked]
  · have asked : d.query.tags ≠ [] ∨ d.query.excludedTags ≠ [] := not_and_or.mp unasked
    simp [Faults, unasked, asked, map_eq_error_iff]

theorem inFamilies_eq_ok_true_iff (families : List String) :
    e.inFamilies families = .ok true ↔ ∀ family ∈ families, e.inFamily family = .ok true := by
  simp [inFamilies, Check.all_eq_ok_true_iff]

theorem inFamilies_eq_error_iff (families : List String) (fault : Fault) :
    e.inFamilies families = .error fault ↔ FirstToBreak (fun family => e.inFamily family = .ok true)
      (fun family => e.inFamily family = .error fault) families := by
  rw [inFamilies, Check.all_eq_error_iff, firstToBreak_map]

theorem outsideFamilies_eq_ok_true_iff (families : List String) :
    e.outsideFamilies families = .ok true ↔ ∀ family ∈ families, e.inFamily family = .ok false := by
  simp [outsideFamilies, Check.all_eq_ok_true_iff, map_eq_ok_iff]

theorem outsideFamilies_eq_error_iff (families : List String) (fault : Fault) :
    e.outsideFamilies families = .error fault ↔
      FirstToBreak (fun family => e.inFamily family = .ok false)
        (fun family => e.inFamily family = .error fault) families := by
  rw [outsideFamilies, Check.all_eq_error_iff, firstToBreak_map]
  apply firstToBreak_congr
  intro family _
  simp [map_eq_ok_iff, map_eq_error_iff]

theorem hasGameMode_eq (q : Query) : e.hasGameMode q =
    e.gameMode.map fun own => q.gameMode.all (own = some ·) && !own.any q.excludedGameModes.contains := by
  unfold hasGameMode
  cases e.gameMode <;> rfl

theorem hasGameMode_eq_ok_true_iff : e.hasGameMode d.query = .ok true ↔
    ∃ mode, e.gameMode = .ok mode ∧ d.WantsMode mode := by
  rw [hasGameMode_eq, map_eq_ok_iff]
  refine exists_congr fun mode => and_congr_right fun _ => ?_
  simp only [Demand.WantsMode, Bool.and_eq_true, Bool.not_eq_true', Option.all_eq_true,
    decide_eq_true_eq]
  apply and_congr_right
  intro _
  -- An entity without a game mode is in none of the excluded ones.
  cases mode with
  | none => simp
  | some own =>
    simp only [Option.any_some, List.contains_eq_mem, decide_eq_false_iff_not, ne_eq,
      Option.some.injEq]
    constructor
    -- Not being in the list is differing from everything in it.
    · rintro absent excluded member rfl
      exact absent member
    · intro apart member
      exact apart own member rfl

theorem hasGameMode_eq_error_iff (q : Query) (fault : Fault) :
    e.hasGameMode q = .error fault ↔ e.gameMode = .error fault := by
  rw [hasGameMode_eq, map_eq_error_iff]

theorem hasLevel_eq (q : Query) : e.hasLevel q =
    if q.level.isOpen = true then .ok true else e.level.map (·.any q.level.contains) := by
  simp only [hasLevel]
  split
  · rfl
  · cases e.level <;> rfl

theorem hasLevel_eq_ok_true_iff (q : Query) : e.hasLevel q = .ok true ↔
    q.level.isOpen = true ∨ ∃ level, e.level = .ok (some level) ∧ q.level.contains level = true := by
  rw [hasLevel_eq]
  cases unasked : q.level.isOpen with
  | true => simp
  | false =>
    simp only [Bool.false_eq_true, if_false, false_or, map_eq_ok_iff]
    constructor
    · rintro ⟨level, answered, inside⟩
      obtain ⟨level, rfl⟩ := Option.isSome_iff_exists.mp (Option.isSome_of_any inside)
      exact ⟨level, answered, by simpa using inside⟩
    · rintro ⟨level, answered, inside⟩
      exact ⟨some level, answered, by simpa using inside⟩

theorem hasLevel_eq_error_iff (q : Query) (fault : Fault) :
    e.hasLevel q = .error fault ↔ q.level.isOpen = false ∧ e.level = .error fault := by
  rw [hasLevel_eq]
  cases q.level.isOpen <;> simp [map_eq_error_iff]

theorem isWantedPlayer_of_unasked (unasked : ¬ d.AsksPlayer) :
    e.isWantedPlayer d.query = .ok true := by
  simp only [Demand.AsksPlayer, not_or, not_not, Bool.not_eq_false] at unasked
  simp [isWantedPlayer, unasked]

theorem isWantedPlayer_of_asked (asked : d.AsksPlayer) : e.isWantedPlayer d.query =
    Check.all [e.isPlayer, e.hasGameMode d.query, e.hasLevel d.query] := by
  have some_part : ¬ (d.query.gameMode.isNone && d.query.excludedGameModes.isEmpty
      && d.query.level.isOpen) = true := by
    simp only [Bool.and_eq_true, Option.isNone_iff_eq_none, List.isEmpty_iff, not_and_or,
      Bool.not_eq_true]
    rcases asked with mode | excluded | level
    · exact Or.inl (Or.inl mode)
    · exact Or.inl (Or.inr excluded)
    · exact Or.inr level
  rw [isWantedPlayer, if_neg some_part]

theorem isWantedPlayer_eq_ok_true_iff :
    e.isWantedPlayer d.query = .ok true ↔ e.Meets d .player := by
  by_cases asked : d.AsksPlayer
  · rw [isWantedPlayer_of_asked e d asked, Check.all_eq_ok_true_iff]
    simp [Meets, asked, hasGameMode_eq_ok_true_iff, hasLevel_eq_ok_true_iff]
  · simp [isWantedPlayer_of_unasked e d asked, Meets, asked]

theorem isWantedPlayer_eq_error_iff (fault : Fault) :
    e.isWantedPlayer d.query = .error fault ↔ e.Faults d fault .player := by
  by_cases asked : d.AsksPlayer
  · rw [isWantedPlayer_of_asked e d asked, Check.all_eq_error_iff]
    simp [firstToBreak_cons, Faults, asked, hasGameMode_eq_ok_true_iff, hasGameMode_eq_error_iff,
      hasLevel_eq_error_iff]
  · simp [isWantedPlayer_of_unasked e d asked, Faults, asked]

theorem hasRotation_eq (q : Query) : e.hasRotation q =
    if q.rotationIsOpen = true then .ok true else e.rotation.map q.acceptsRotation := by
  simp only [hasRotation]
  split
  · rfl
  · cases e.rotation <;> rfl

theorem hasRotation_eq_ok_true_iff : e.hasRotation d.query = .ok true ↔ e.Meets d .rotation := by
  rw [hasRotation_eq]
  cases unasked : d.query.rotationIsOpen
  · simp [Meets, unasked, map_eq_ok_iff, Query.acceptsRotation]
  · simp [Meets, unasked]

theorem hasRotation_eq_error_iff (fault : Fault) :
    e.hasRotation d.query = .error fault ↔ e.Faults d fault .rotation := by
  rw [hasRotation_eq]
  cases unasked : d.query.rotationIsOpen <;> simp [Faults, unasked, map_eq_error_iff]

/-! An origin that is missing would let every distance and every volume pass, so these two checks
say what they should only where the demand is placed. -/

theorem hasDistance_eq (q : Query) (center : Point) : e.hasDistance q (some center) =
    if q.distance.isOpen = true then .ok true
    else e.location.map fun own =>
      !q.distance.low.any (fun low => own.distanceSquared center < low * low) &&
        !q.distance.high.any (fun high => high * high < own.distanceSquared center) := by
  simp only [hasDistance]
  split
  · rfl
  · cases e.location <;> rfl

theorem hasDistance_eq_ok_true_iff (placed : d.Placed) :
    e.hasDistance d.query d.origin = .ok true ↔ e.Meets d .distance := by
  cases unasked : d.query.distance.isOpen with
  -- Without bounds nothing is measured, whether or not there is an origin.
  | true => cases d.origin <;> simp [hasDistance, Meets, unasked]
  | false =>
    obtain ⟨center, given⟩ := placed.1 unasked
    rw [given, hasDistance_eq]
    cases low : d.query.distance.low <;> cases high : d.query.distance.high <;>
      simp [Meets, unasked, given, map_eq_ok_iff, low, high]

theorem hasDistance_eq_error_iff (placed : d.Placed) (fault : Fault) :
    e.hasDistance d.query d.origin = .error fault ↔ e.Faults d fault .distance := by
  cases unasked : d.query.distance.isOpen with
  | true => cases d.origin <;> simp [hasDistance, Faults, unasked]
  | false =>
    obtain ⟨center, given⟩ := placed.1 unasked
    rw [given, hasDistance_eq]
    simp [Faults, unasked, map_eq_error_iff]

theorem inVolume_eq_ok_true_iff (placed : d.Placed) :
    e.inVolume d.query.volume d.origin = .ok true ↔ e.Meets d .volume := by
  cases asked : d.query.volume with
  | none => simp [inVolume, Meets, asked]
  | some volume =>
    obtain ⟨start, given⟩ := placed.2 volume asked
    simp [inVolume, Meets, asked, given, map_eq_ok_iff]

theorem inVolume_eq_error_iff (placed : d.Placed) (fault : Fault) :
    e.inVolume d.query.volume d.origin = .error fault ↔ e.Faults d fault .volume := by
  cases asked : d.query.volume with
  | none => simp [inVolume, Faults, asked]
  | some volume =>
    obtain ⟨start, given⟩ := placed.2 volume asked
    simp [inVolume, Faults, asked, given, map_eq_error_iff]

theorem meetsItems_eq (conditions : List ItemCondition) (settings : Settings) :
    e.meetsItems conditions settings =
      if conditions = [] then .ok true
      else (e.itemSlots settings).map fun slots =>
        conditions.all fun condition => slots.any condition.accepts := by
  simp only [meetsItems, List.isEmpty_iff]
  split
  · rfl
  · cases e.itemSlots settings <;> rfl

theorem meetsItems_eq_ok_true_iff :
    e.meetsItems d.query.items d.settings = .ok true ↔ e.Meets d .items := by
  rw [meetsItems_eq]
  by_cases unasked : d.query.items = [] <;> simp [Meets, unasked, map_eq_ok_iff]

theorem meetsItems_eq_error_iff (fault : Fault) :
    e.meetsItems d.query.items d.settings = .error fault ↔ e.Faults d fault .items := by
  rw [meetsItems_eq]
  by_cases unasked : d.query.items = [] <;> simp [Faults, unasked, map_eq_error_iff]

/-! ### Scores -/

theorem asked_ok {α : Type} (value : α) : asked (.ok value) = .ok value := rfl

theorem asked_error {α : Type} (fault : Fault) :
    (asked (.error fault) : Except Failure α) = .error (.host fault) := rfl

/-- What looking a score up comes to, in the host's own answers. -/
theorem scoreOn_eq (board : Option Scoreboard) (objective : String) :
    match e.score? board objective with
    | .error fault => e.scoreOn objective board = .error (.host fault)
    | .ok (some score) => e.scoreOn objective board = .ok score
    | .ok none =>
      (∃ fault, e.id = .error fault ∧ e.scoreOn objective board = .error (.host fault)) ∨
        ∃ error, e.scoreOn objective board = .error (.unresolved error) := by
  unfold score? scoreOn
  cases e.identity with
  | error fault => rfl
  | ok identity =>
    cases identity with
    | none =>
      -- The report of a missing identity names the entity, whose id may fail in turn.
      cases e.id with
      | error fault => exact Or.inl ⟨fault, rfl, rfl⟩
      | ok id => exact Or.inr ⟨_, rfl⟩
    | some identity =>
      cases board with
      | none => exact Or.inr ⟨_, rfl⟩
      | some board =>
        cases answer : board.objective objective with
        | error fault => simp [asked_ok, asked_error, found, bind, Except.bind, answer]
        | ok counter =>
          cases counter with
          | none => simp [asked_ok, found, bind, Except.bind, pure, Except.pure, answer]
          | some counter =>
            cases held : counter.score identity with
            | error fault => simp [asked_ok, asked_error, found, bind, Except.bind, answer, held]
            | ok score => cases score <;>
                simp [asked_ok, found, bind, Except.bind, answer, held]

theorem outcome_meetsScores_cons (board : Option Scoreboard) (filter : ScoreFilter)
    (rest : List ScoreFilter) : outcome (e.meetsScores board (filter :: rest)) =
      match e.score? board filter.objective with
      | .error fault => .error fault
      | .ok (some score) =>
        if filter.accepts score then outcome (e.meetsScores board rest) else .ok false
      | .ok none => e.id.map fun _ => false := by
  have held := e.scoreOn_eq board filter.objective
  rw [meetsScores]
  cases answer : e.score? board filter.objective with
  | error fault =>
    simp only [answer] at held
    simp only [held, outcome_throw]
  | ok score =>
    cases score with
    | some score =>
      simp only [answer] at held
      simp only [held]
      split <;> rfl
    | none =>
      simp only [answer] at held
      -- The report of a missing score asks for the id of the entity.
      rcases held with ⟨fault, failed, held⟩ | ⟨error, held⟩
      · simp only [held, failed, outcome_throw, Except.map]
      · simp only [held, outcome_bind, outcome_liftM, outcome_note, outcome_pure]
        cases e.id <;> rfl

theorem outcome_meetsScores_eq_ok_true_iff (board : Option Scoreboard) (filters : List ScoreFilter) :
    outcome (e.meetsScores board filters) = .ok true ↔
      ∀ filter ∈ filters, ∃ score, e.score? board filter.objective = .ok (some score) ∧
        filter.accepts score = true := by
  induction filters with
  | nil => simp [meetsScores]
  | cons filter rest ih =>
    rw [outcome_meetsScores_cons, List.forall_mem_cons]
    cases answer : e.score? board filter.objective with
    | error fault => simp
    | ok score =>
      cases score with
      | none => simp [map_eq_ok_iff]
      | some score => cases accepted : filter.accepts score <;> simp [accepted, ih]

theorem outcome_meetsScores_eq_error_iff (board : Option Scoreboard) (filters : List ScoreFilter)
    (fault : Fault) : outcome (e.meetsScores board filters) = .error fault ↔
      FirstToBreak
        (fun filter => ∃ score, e.score? board filter.objective = .ok (some score) ∧
          filter.accepts score = true)
        (fun filter => e.score? board filter.objective = .error fault ∨
          e.score? board filter.objective = .ok none ∧ e.id = .error fault) filters := by
  induction filters with
  | nil => simp [meetsScores]
  | cons filter rest ih =>
    rw [outcome_meetsScores_cons, firstToBreak_cons]
    cases answer : e.score? board filter.objective with
    | error fault => simp
    | ok score =>
      cases score with
      | none => simp [map_eq_error_iff]
      | some score => cases accepted : filter.accepts score <;> simp [accepted, ih]

/-! ### All aspects -/

/-- A check comes out true exactly if the entity meets the aspect. -/
theorem check_eq_ok_true_iff (placed : d.Placed) (aspect : Aspect) :
    e.check d aspect = .ok true ↔ e.Meets d aspect := by
  cases aspect with
  | type => exact e.hasType_eq_ok_true_iff d
  | name => exact e.hasName_eq_ok_true_iff d
  | tags => exact e.hasTags_eq_ok_true_iff d
  | families => exact e.inFamilies_eq_ok_true_iff _
  | excludedFamilies => exact e.outsideFamilies_eq_ok_true_iff _
  | player => exact e.isWantedPlayer_eq_ok_true_iff d
  | rotation => exact e.hasRotation_eq_ok_true_iff d
  | distance => exact e.hasDistance_eq_ok_true_iff d placed
  | scores => exact e.outcome_meetsScores_eq_ok_true_iff _ _
  | items => exact e.meetsItems_eq_ok_true_iff d
  | volume => exact e.inVolume_eq_ok_true_iff d placed

/-- A check breaks off exactly at a fault of the aspect. -/
theorem check_eq_error_iff (placed : d.Placed) (fault : Fault) (aspect : Aspect) :
    e.check d aspect = .error fault ↔ e.Faults d fault aspect := by
  cases aspect with
  | type => rw [check, hasType_eq, map_eq_error_iff, Faults]
  | name => rw [check, hasName_eq, map_eq_error_iff, Faults]
  | tags => exact e.hasTags_eq_error_iff d fault
  | families => exact e.inFamilies_eq_error_iff _ fault
  | excludedFamilies => exact e.outsideFamilies_eq_error_iff _ fault
  | player => exact e.isWantedPlayer_eq_error_iff d fault
  | rotation => exact e.hasRotation_eq_error_iff d fault
  | distance => exact e.hasDistance_eq_error_iff d placed fault
  | scores => exact e.outcome_meetsScores_eq_error_iff _ _ fault
  | items => exact e.meetsItems_eq_error_iff d fault
  | volume => exact e.inVolume_eq_error_iff d placed fault

end Entity

/-! ### Checks in their order -/

namespace Aspect

/-- The aspects of the entity by itself, in the order of their checks. -/
def placeless : List Aspect :=
  [.type, .name, .tags, .families, .excludedFamilies, .player, .rotation]

/-- The same with the distance from the origin. -/
def plain : List Aspect := placeless ++ [.distance]

/-- The aspects of a candidate of the pool, in the order of their checks. -/
def ofCandidate : List Aspect := plain ++ [.scores, .volume, .items]

/-- The aspects of the executor, in the order of their checks. Its distance does not matter. -/
def ofExecutor : List Aspect := placeless ++ [.scores, .items] ++ [.volume]

theorem mem_ofCandidate (aspect : Aspect) : aspect ∈ ofCandidate := by
  cases aspect <;> decide

end Aspect

theorem Entity.meets_eq (e : Entity) (d : Demand) :
    e.meets d.query d.origin d.settings = Check.all (Aspect.plain.map (e.check d)) := rfl

/-- The last two checks of a candidate. -/
theorem Entity.inVolume_and_meetsItems (e : Entity) (q : Query) (origin : Option Point)
    (settings : Settings) :
    outcome ((match q.volume, origin with
      | some volume, some start => do
        if withinBox (← e.location) start volume then e.meetsItems q.items settings
        else return false
      | _, _ => e.meetsItems q.items settings) : ExceptT Fault Logged Bool) =
      Check.and (e.inVolume q.volume origin) (e.meetsItems q.items settings) := by
  cases q.volume with
  | none => rfl
  | some volume =>
    cases origin with
    | none => rfl
    | some start =>
      simp only [inVolume, outcome_bind, outcome_liftM]
      cases e.location with
      | error fault => rfl
      | ok own => cases inside : withinBox own start volume <;> simp [Except.bind, Except.map, inside]

/-- A candidate passes by its checks in a row. -/
theorem Entity.outcome_passes (e : Entity) (d : Demand) :
    outcome (e.passes d.query d.origin d.settings d.board) =
      Check.all (Aspect.ofCandidate.map (e.check d)) := by
  have row : Check.all ([.scores, .volume, .items].map (e.check d)) =
      Check.and (outcome (e.meetsScores d.board d.query.scores))
        (Check.and (e.inVolume d.query.volume d.origin)
          (e.meetsItems d.query.items d.settings)) := by
    simp only [List.map_cons, List.map_nil, Check.all_cons, Check.all_nil, Check.and_true, check]
  -- The first eight checks are one row, the last two stand in one branch.
  rw [Aspect.ofCandidate, List.map_append, Check.all_append, ← e.meets_eq d, row,
    ← e.inVolume_and_meetsItems]
  unfold passes
  rw [outcome_bind, outcome_liftM]
  rcases e.meets d.query d.origin d.settings with fault | _ | _
  · rfl
  · rfl
  · simp only [Except.bind, Bool.not_true, Bool.false_eq_true, if_false, outcome_bind]
    rcases outcome (e.meetsScores d.board d.query.scores) with fault | _ | _ <;> rfl

theorem Entity.outcome_passes_eq_ok_true_iff (e : Entity) (d : Demand) (placed : d.Placed) :
    outcome (e.passes d.query d.origin d.settings d.board) = .ok true ↔
      ∀ aspect, e.Meets d aspect := by
  rw [e.outcome_passes d, Check.all_eq_ok_true_iff, List.forall_mem_map]
  constructor
  · intro passed aspect
    exact (e.check_eq_ok_true_iff d placed aspect).mp (passed aspect aspect.mem_ofCandidate)
  · intro met aspect _
    exact (e.check_eq_ok_true_iff d placed aspect).mpr (met aspect)

/-- The row of checks of some aspects breaks off at the first fault, all aspects before it met. -/
theorem Entity.all_check_eq_error_iff (e : Entity) (d : Demand) (placed : d.Placed)
    (aspects : List Aspect) (fault : Fault) : Check.all (aspects.map (e.check d)) = .error fault ↔
      FirstToBreak (e.Meets d) (e.Faults d fault) aspects := by
  rw [Check.all_eq_error_iff, firstToBreak_map]
  apply firstToBreak_congr
  intro aspect _
  exact ⟨e.check_eq_ok_true_iff d placed aspect, e.check_eq_error_iff d placed fault aspect⟩

end Targeting
