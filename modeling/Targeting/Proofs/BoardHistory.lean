import Targeting.Proofs.CallHistory

/-!
# Histories of a scoreboard

What a scoreboard answers after any calls, in terms of the calls alone: which set
gives a score its value, in which order the participants come, and who is given
which identity.

## Main result

`board_follows_history`: the board and the identities after any calls.

## Proof strategy

Objectives and entries are lists to which what is new is added at the end, so each
list stays in the order of the calls that its members date from. Every call keeps
this, and the look-up of scores that goes with it.
-/
namespace Targeting.Call

variable {calls : List Call} {call : Call} {objective : String} {holder : Identity}

/-! ### The objectives of a board -/

/-- Changes what an objective holds, if there is such an objective. -/
def change (objective : String) (rewrite : List (Identity × Int) → List (Identity × Int))
    (objectives : List (String × List (Identity × Int))) : List (String × List (Identity × Int)) :=
  match Keyed.get? objective objectives with
  | none => objectives
  | some held => Keyed.put objective (rewrite held) objectives

/-- What a call does to the objectives of the board. -/
def edit (objectives : List (String × List (Identity × Int))) :
    Call → List (String × List (Identity × Int))
  | addObjective objective =>
    if objective ∈ Keyed.keys objectives then objectives else objectives ++ [(objective, [])]
  | setScore objective holder score => change objective (Keyed.put holder score) objectives
  | resetScore objective holder => change objective (Keyed.remove holder) objectives
  | identify _ => objectives
  | make _ _ => objectives

section Change

variable {other : String} {rewrite : List (Identity × Int) → List (Identity × Int)}
  {objectives : List (String × List (Identity × Int))}

theorem keys_change : Keyed.keys (change objective rewrite objectives) = Keyed.keys objectives := by
  unfold change
  split
  next => rfl
  next held found => exact Keyed.keys_put_of_mem (Keyed.mem_keys_iff.mpr ⟨held, found⟩) _

theorem get?_change_self : Keyed.get? objective (change objective rewrite objectives) =
    (Keyed.get? objective objectives).map rewrite := by
  unfold change
  split
  next missing => rw [missing, Option.map_none]
  next held found => rw [found, Option.map_some, Keyed.get?_put_self]

theorem get?_change_of_ne (different : objective ≠ other) :
    Keyed.get? other (change objective rewrite objectives) = Keyed.get? other objectives := by
  unfold change
  split
  next => rfl
  next => exact Keyed.get?_put_of_ne different _ _

end Change

theorem objectives_edit (board : Board) (objective : String)
    (rewrite : List (Identity × Int) → List (Identity × Int)) :
    (board.edit objective rewrite).objectives = change objective rewrite board.objectives := by
  unfold Board.edit Board.scores? change
  cases Keyed.get? objective board.objectives <;> rfl

theorem named_edit (board : Board) (objective : String)
    (rewrite : List (Identity × Int) → List (Identity × Int)) :
    (board.edit objective rewrite).named = board.named := by
  unfold Board.edit
  split <;> rfl

theorem run_changeBoard (rewrite : Board → Board) (w : World) :
    ((World.changeBoard rewrite).run w).2 = { w with board := w.board.map rewrite } := rfl

theorem run_discard {α : Type} (step : StateM World α) (w : World) :
    ((discard step).run w).2 = (step.run w).2 := rfl

theorem changeBoard_edit (w : World) (objective : String)
    (rewrite : List (Identity × Int) → List (Identity × Int)) :
    ((World.changeBoard (·.edit objective rewrite)).run w).2.objectives? =
        w.objectives?.map (change objective rewrite) ∧
      World.Carries w ((World.changeBoard (·.edit objective rewrite)).run w).2 := by
  rw [run_changeBoard]
  constructor
  · rw [World.objectives?, World.objectives?, Option.map_map, Option.map_map]
    exact congrArg (w.board.map ·) (funext fun board => objectives_edit board objective rewrite)
  · refine World.carries_of_same (fun holder => ?_) (Nat.le_refl w.next)
    cases holder with
    | entity handle => rfl
    | named name =>
      rw [World.held?, World.held?]
      cases w.board with
      | none => rfl
      | some board => exact congrArg (Keyed.get? name) (named_edit board objective rewrite)

/-- Adding an objective succeeds unless the board has it, and then changes nothing. -/
theorem run_addObjective {w : World} {board : Board} (found : w.board = some board)
    (objective : String) :
    (World.addObjective objective).run w =
      if objective ∈ Keyed.keys board.objectives then (false, w)
      else
        let added := board.objectives ++ [(objective, [])]
        (true, { w with board := some { board with objectives := added } }) := by
  split
  next member =>
    obtain ⟨held, known⟩ := Keyed.mem_keys_iff.mp member
    simp [World.addObjective, found, Board.addObjective?, Board.scores?, known]
    rfl
  next fresh =>
    have missing := Keyed.get?_eq_none_iff.mpr fresh
    simp [World.addObjective, found, Board.addObjective?, Board.scores?, missing,
      Keyed.put_of_not_mem fresh]
    rfl

/-- A call edits the objectives, and keeps the identities that were given out. -/
theorem perform_keeps (call : Call) {w : World} {objectives : List (String × List (Identity × Int))}
    (found : w.objectives? = some objectives) :
    (call.perform.run w).2.objectives? = some (call.edit objectives) ∧
      World.Carries w (call.perform.run w).2 := by
  cases call with
  | addObjective objective =>
    obtain ⟨board, there, rfl⟩ := Option.map_eq_some_iff.mp found
    rw [perform, run_discard, run_addObjective there, edit]
    split
    next => exact ⟨found, .refl w⟩
    next =>
      -- A new objective leaves the bare names of the board as they are.
      refine ⟨rfl, World.carries_of_same (fun holder => ?_) (Nat.le_refl w.next)⟩
      cases holder with
      | entity handle => rfl
      | named name =>
        rw [World.held?, World.held?, there]
        rfl
  | setScore objective holder score =>
    obtain ⟨edited, carries⟩ := changeBoard_edit w objective (Keyed.put holder score)
    exact ⟨edited.trans (congrArg (Option.map _) found), carries⟩
  | resetScore objective holder =>
    obtain ⟨edited, carries⟩ := changeBoard_edit w objective (Keyed.remove holder)
    exact ⟨edited.trans (congrArg (Option.map _) found), carries⟩
  | identify holder =>
    obtain ⟨after, asked⟩ := World.exists_asked w holder
    rw [perform, run_discard, asked.answer]
    exact ⟨asked.objectives.trans found, asked.carries⟩
  | make draft fresh =>
    obtain ⟨carries, kept⟩ := World.carries_make fresh w
    rw [perform, run_discard]
    exact ⟨kept.trans found, carries⟩

/-! ### What every call keeps -/

/-- Objectives and their entries stand in the order of the calls they date from, and hold the
scores that the calls give. -/
structure Records (calls : List Call) (objectives : List (String × List (Identity × Int))) :
    Prop where
  created : Chronological (CreatedAt calls) (Keyed.keys objectives)
  added : ∀ objective, .addObjective objective ∈ calls → objective ∈ Keyed.keys objectives
  entered : ∀ objective held, Keyed.get? objective objectives = some held →
    Chronological (EnteredAt calls objective) (Keyed.keys held)
  scores : ∀ objective holder score,
    (Keyed.get? objective objectives).bind (Keyed.get? holder) = some score ↔
      Scores calls objective holder score

theorem records_nil : Records [] [] where
  created := chronological_nil _
  added _ := List.not_mem_nil.elim
  entered _ _ found := by cases found
  scores objective holder score := by simp [Keyed.get?, Scores]

variable {objectives : List (String × List (Identity × Int))}

theorem Records.mem_keys_iff (records : Records calls objectives) :
    objective ∈ Keyed.keys objectives ↔ .addObjective objective ∈ calls := by
  refine ⟨fun member => ?_, records.added objective⟩
  obtain ⟨moment, created⟩ := records.created.dated objective member
  exact created.added

/-- A call that adds no objective and touches no score is of no account to the objectives. -/
theorem records_untouched (records : Records calls objectives)
    (untouched : ∀ objective holder, ¬call.Touches objective holder)
    (known : ∀ objective, call = .addObjective objective → objective ∈ Keyed.keys objectives) :
    Records (calls ++ [call]) objectives where
  created := records.created.imp fun _ _ _ created => created.snoc call
  added objective member := by
    rcases List.mem_append.mp member with old | new
    · exact records.added objective old
    · exact known objective (List.mem_singleton.mp new).symm
  entered objective held found := (records.entered objective held found).imp
    fun holder _ _ entered => entered.snoc fun same => untouched objective holder (Or.inl same)
  scores objective holder score := by
    rw [scores_snoc_of_untouched (untouched objective holder), records.scores]

theorem records_addObjective (records : Records calls objectives) (objective : String) :
    Records (calls ++ [.addObjective objective]) (edit objectives (.addObjective objective)) := by
  have untouched : ∀ other holder, ¬(addObjective objective).Touches other holder := by
    simp [Touches]
  rw [edit]
  split
  next member =>
    refine records_untouched records untouched fun other same => ?_
    cases same
    exact member
  next fresh =>
    have new : .addObjective objective ∉ calls := mt (records.added objective) fresh
    have keys : Keyed.keys (objectives ++ [(objective, [])]) =
        Keyed.keys objectives ++ [objective] := List.map_append
    -- Put at the end: the order is seen in the keys, the look-ups in the put.
    rw [← Keyed.put_of_not_mem fresh] at keys ⊢
    constructor
    · rw [keys]
      exact records.created.snoc (fun _ _ _ created => ⟨created.snoc _, created.lt_length⟩)
        ⟨calls, [], rfl, rfl, new⟩ fresh
    · intro other member
      rw [keys]
      rcases List.mem_append.mp member with old | last
      · exact List.mem_append_left _ (records.added other old)
      · cases List.mem_singleton.mp last
        exact List.mem_append_right _ (List.mem_singleton_self objective)
    · intro other held found
      by_cases same : objective = other
      · subst same
        rw [Keyed.get?_put_self] at found
        cases found
        exact chronological_nil _
      · rw [Keyed.get?_put_of_ne same] at found
        exact (records.entered other held found).imp fun holder _ _ entered =>
          entered.snoc fun touched => untouched other holder (Or.inl touched)
    · intro other holder score
      rw [scores_snoc_of_untouched (untouched other holder)]
      by_cases same : objective = other
      · subst same
        simpa [Keyed.get?_put_self, Keyed.get?] using fun scores => new (Scores.added scores)
      · rw [Keyed.get?_put_of_ne same, records.scores]

/-- A call that touches one objective only is judged by what it does to the entries of it. -/
theorem records_change (records : Records calls objectives)
    {rewrite : List (Identity × Int) → List (Identity × Int)}
    (adds : ∀ other, call ≠ .addObjective other)
    (elsewhere : ∀ other holder, objective ≠ other → ¬call.Touches other holder)
    (entered : ∀ held, Keyed.get? objective objectives = some held →
      Chronological (EnteredAt (calls ++ [call]) objective) (Keyed.keys (rewrite held)))
    (scores : ∀ held, Keyed.get? objective objectives = some held → ∀ holder score,
      Keyed.get? holder (rewrite held) = some score ↔
        Scores (calls ++ [call]) objective holder score) :
    Records (calls ++ [call]) (change objective rewrite objectives) := by
  have old : ∀ other, .addObjective other ∈ calls ++ [call] → other ∈ Keyed.keys objectives := by
    intro other member
    rcases List.mem_append.mp member with before | last
    · exact records.added other before
    · exact absurd (List.mem_singleton.mp last).symm (adds other)
  constructor
  · rw [keys_change]
    exact records.created.imp fun _ _ _ created => created.snoc call
  · intro other member
    rw [keys_change]
    exact old other member
  · intro other held found
    by_cases same : objective = other
    · subst same
      rw [get?_change_self] at found
      obtain ⟨before, there, rfl⟩ := Option.map_eq_some_iff.mp found
      exact entered before there
    · rw [get?_change_of_ne same] at found
      exact (records.entered other held found).imp fun holder _ _ entered =>
        entered.snoc fun touched => elsewhere other holder same (Or.inl touched)
  · intro other holder score
    by_cases same : objective = other
    · subst same
      rw [get?_change_self]
      cases there : Keyed.get? objective objectives with
      | some held => exact scores held there holder score
      | none =>
        -- Without the objective the change does nothing, and no set counts.
        have missing : objective ∉ Keyed.keys objectives := Keyed.get?_eq_none_iff.mp there
        simpa using fun scores : Scores _ _ _ _ => missing (old objective scores.added)
    · rw [get?_change_of_ne same, scores_snoc_of_untouched (elsewhere other holder same),
        records.scores]

theorem Records.get?_held (records : Records calls objectives) {held : List (Identity × Int)}
    (found : Keyed.get? objective objectives = some held) (holder : Identity) (score : Int) :
    Keyed.get? holder held = some score ↔ Scores calls objective holder score := by
  rw [← records.scores, found, Option.bind_some]

theorem records_setScore (records : Records calls objectives) (objective : String)
    (holder : Identity) (score : Int) :
    Records (calls ++ [.setScore objective holder score])
      (edit objectives (.setScore objective holder score)) := by
  have added : ∀ held, Keyed.get? objective objectives = some held →
      .addObjective objective ∈ calls := fun held found =>
    records.mem_keys_iff.mp (Keyed.mem_keys_iff.mpr ⟨held, found⟩)
  refine records_change records (by simp) (fun other _ apart => by simp [Touches, apart]) ?_ ?_
  · intro held found
    by_cases member : holder ∈ Keyed.keys held
    · -- The entry keeps its place, and the moment it dates from.
      rw [Keyed.keys_put_of_mem member]
      exact (records.entered objective held found).imp fun _ _ _ entered => entered.snoc (by simp)
    · -- There was no score, so the entry dates from this call.
      have fresh : ∀ old, ¬Scores calls objective holder old := by
        intro old scores
        rw [← records.get?_held found, Keyed.get?_eq_none_iff.mpr member] at scores
        cases scores
      have keys : Keyed.keys (held ++ [(holder, score)]) = Keyed.keys held ++ [holder] :=
        List.map_append
      rw [Keyed.put_of_not_mem member, keys]
      exact (records.entered objective held found).snoc
        (fun _ _ _ entered => ⟨entered.snoc (by simp), entered.lt_length⟩)
        ⟨calls, score, [], rfl, rfl, added held found, fresh, List.not_mem_nil⟩ member
  · intro held found other value
    by_cases same : holder = other
    · subst same
      rw [Keyed.get?_put_self, scores_snoc]
      simp [Touches, added held found]
    · rw [Keyed.get?_put_of_ne same, records.get?_held found, scores_snoc_of_untouched]
      simp [Touches, same]

theorem records_resetScore (records : Records calls objectives) (objective : String)
    (holder : Identity) :
    Records (calls ++ [.resetScore objective holder])
      (edit objectives (.resetScore objective holder)) := by
  refine records_change records (by simp) (fun other _ apart => by simp [Touches, apart]) ?_ ?_
  · intro held found
    rw [Keyed.keys_remove]
    refine ((records.entered objective held found).filter _).imp fun other member _ entered => ?_
    -- The entries left are those of others, whom the reset does not touch.
    have apart : other ≠ holder := by simpa using List.of_mem_filter member
    exact entered.snoc (by simp [apart.symm])
  · intro held found other value
    by_cases same : holder = other
    · subst same
      rw [Keyed.get?_remove_self]
      simp [scores_snoc, Touches]
    · rw [Keyed.get?_remove_of_ne same, records.get?_held found, scores_snoc_of_untouched]
      simp [Touches, same]

theorem records_edit (records : Records calls objectives) (call : Call) :
    Records (calls ++ [call]) (call.edit objectives) := by
  cases call with
  | addObjective objective => exact records_addObjective records objective
  | setScore objective holder score => exact records_setScore records objective holder score
  | resetScore objective holder => exact records_resetScore records objective holder
  | identify holder => exact records_untouched records (by simp [Touches]) (by simp)
  | make draft fresh => exact records_untouched records (by simp [Touches]) (by simp)

theorem after_snoc (calls : List Call) (call : Call) :
    after (calls ++ [call]) = (call.perform.run (after calls)).2 := by
  rw [after, List.foldl_append]
  rfl

theorem exists_records (calls : List Call) :
    ∃ objectives, (after calls).objectives? = some objectives ∧ Records calls objectives := by
  induction calls using List.reverseRecOn with
  | nil => exact ⟨[], rfl, records_nil⟩
  | append_singleton before call ih =>
    obtain ⟨objectives, found, records⟩ := ih
    exact ⟨call.edit objectives, (after_snoc before call) ▸ (perform_keeps call found).1,
      records_edit records call⟩

theorem carries_after_append (calls later : List Call) :
    World.Carries (after calls) (after (calls ++ later)) := by
  induction later using List.reverseRecOn with
  | nil =>
    rw [List.append_nil]
    exact .refl _
  | append_singleton before call ih =>
    obtain ⟨objectives, found, -⟩ := exists_records (calls ++ before)
    rw [← List.append_assoc, after_snoc]
    exact ih.trans (perform_keeps call found).2

theorem numbered_after (calls : List Call) : (after calls).Numbered :=
  (carries_after_append [] calls).numbered World.numbered_empty

/-! ### Participants -/

/-- The first objective in which the identity has an entry. -/
def firstWith (holder : Identity) (objectives : List (String × List (Identity × Int))) :
    Option String :=
  (objectives.find? fun objective => holder ∈ Keyed.keys objective.2).map (·.1)

section Participants

variable {entry : String × List (Identity × Int)} {rest : List (String × List (Identity × Int))}

theorem firstWith_cons_of_mem (member : holder ∈ Keyed.keys entry.2) :
    firstWith holder (entry :: rest) = some entry.1 := by
  rw [firstWith, List.find?_cons_of_pos (by simpa using member), Option.map_some]

theorem firstWith_cons_of_not_mem (absent : holder ∉ Keyed.keys entry.2) :
    firstWith holder (entry :: rest) = firstWith holder rest := by
  rw [firstWith, List.find?_cons_of_neg (by simpa using absent), firstWith]

theorem exists_firstWith
    (member : holder ∈ objectives.flatMap fun objective => Keyed.keys objective.2) :
    ∃ objective ∈ Keyed.keys objectives, firstWith holder objectives = some objective := by
  obtain ⟨entry, among, holds⟩ := List.mem_flatMap.mp member
  cases first : objectives.find? fun objective => holder ∈ Keyed.keys objective.2 with
  | none => exact absurd holds (by simpa using List.find?_eq_none.mp first entry among)
  | some found =>
    exact ⟨found.1, List.mem_map.mpr ⟨found, List.mem_of_find?_eq_some first, rfl⟩, by
      rw [firstWith, first, Option.map_some]⟩

/-- The identities with entries, each at its first place, are in the order of the objectives and
then of the entries. -/
theorem pairwise_distinct {before : String → String → Prop}
    (within : String → Identity → Identity → Prop)
    (ordered : (Keyed.keys objectives).Pairwise before)
    (entries : ∀ objective ∈ objectives, (Keyed.keys objective.2).Nodup ∧
      (Keyed.keys objective.2).Pairwise (within objective.1)) :
    (distinct (objectives.flatMap fun objective => Keyed.keys objective.2)).Pairwise
      fun first second => ∃ objective other, firstWith first objectives = some objective ∧
        firstWith second objectives = some other ∧
        (before objective other ∨ objective = other ∧ within objective first second) := by
  induction objectives with
  | nil => exact List.Pairwise.nil
  | cons entry rest ih =>
    -- Those of the first objective come first, and of the others those it does not have.
    obtain ⟨ahead, ordered⟩ := List.pairwise_cons.mp ordered
    obtain ⟨⟨unique, sorted⟩, entries⟩ := List.forall_mem_cons.mp entries
    rw [List.flatMap_cons, distinct_append, distinct_of_nodup unique, List.pairwise_append]
    refine ⟨?here, ?behind, ?across⟩
    case here =>
      refine sorted.imp_of_mem fun member also earlier => ?_
      exact ⟨entry.1, entry.1, firstWith_cons_of_mem member, firstWith_cons_of_mem also,
        Or.inr ⟨rfl, earlier⟩⟩
    case behind =>
      refine ((ih ordered entries).filter _).imp_of_mem ?_
      rintro first second member also ⟨objective, other, found, next, order⟩
      have absent : first ∉ Keyed.keys entry.2 := by simpa using List.of_mem_filter member
      have missing : second ∉ Keyed.keys entry.2 := by simpa using List.of_mem_filter also
      exact ⟨objective, other, (firstWith_cons_of_not_mem absent).trans found,
        (firstWith_cons_of_not_mem missing).trans next, order⟩
    case across =>
      intro first member second also
      obtain ⟨listed, absent⟩ := List.mem_filter.mp also
      obtain ⟨other, known, found⟩ := exists_firstWith (mem_distinct.mp listed)
      exact ⟨entry.1, other, firstWith_cons_of_mem member,
        (firstWith_cons_of_not_mem (of_decide_eq_true absent)).trans found,
        Or.inl (ahead other known)⟩

end Participants

theorem Records.exists_score (records : Records calls objectives) {held : List (Identity × Int)}
    (found : Keyed.get? objective objectives = some held) :
    holder ∈ Keyed.keys held ↔ ∃ score, Scores calls objective holder score := by
  rw [Keyed.mem_keys_iff]
  exact exists_congr (records.get?_held found holder)

theorem Records.exists_held (records : Records calls objectives) {score : Int}
    (scores : Scores calls objective holder score) :
    ∃ held, (objective, held) ∈ objectives ∧ holder ∈ Keyed.keys held := by
  obtain ⟨held, there, own⟩ :=
    Option.bind_eq_some_iff.mp ((records.scores objective holder score).mpr scores)
  exact ⟨held, Keyed.mem_of_get? there, Keyed.mem_keys_iff.mpr ⟨score, own⟩⟩

/-- The first objective with an entry of an identity is the earliest that scores it. -/
theorem firstScores_of_firstWith (records : Records calls objectives)
    (found : firstWith holder objectives = some objective) : FirstScores calls holder objective := by
  obtain ⟨⟨name, held⟩, first, rfl⟩ := Option.map_eq_some_iff.mp found
  obtain ⟨holds, before, later, split, missing⟩ := List.find?_eq_some_iff_append.mp first
  have member : (name, held) ∈ objectives := by simp [split]
  have stored := Keyed.get?_of_mem records.created.nodup member
  refine ⟨(records.exists_score stored).mp (of_decide_eq_true holds), ?_⟩
  intro other score scores
  obtain ⟨entries, place, present⟩ := records.exists_held scores
  rw [split] at place
  have order := records.created.ordered
  rw [split, Keyed.keys, List.map_append, List.map_cons, List.pairwise_append,
    List.pairwise_cons] at order
  rcases List.mem_append.mp place with ahead | rest
  · -- No objective before the one found has an entry of the identity.
    have absent := missing (other, entries) ahead
    simp [present] at absent
  · rcases List.mem_cons.mp rest with same | behind
    · cases same
      exact Or.inl rfl
    · exact Or.inr (order.2.1.1 other (List.mem_map.mpr ⟨_, behind, rfl⟩))

theorem mem_participants_iff (records : Records calls objectives) :
    (holder ∈ objectives.flatMap fun objective => Keyed.keys objective.2) ↔
      ∃ objective score, Scores calls objective holder score := by
  rw [List.mem_flatMap]
  constructor
  · rintro ⟨entry, among, holds⟩
    exact ⟨entry.1,
      (records.exists_score (Keyed.get?_of_mem records.created.nodup among)).mp holds⟩
  · rintro ⟨objective, score, scores⟩
    obtain ⟨held, there, own⟩ := records.exists_held scores
    exact ⟨(objective, held), there, own⟩

theorem pairwise_participants (records : Records calls objectives) :
    (distinct (objectives.flatMap fun objective => Keyed.keys objective.2)).Pairwise
      (Precedes calls) := by
  refine (pairwise_distinct (fun objective => Earlier (EnteredAt calls objective))
    records.created.ordered fun entry among => ?_).imp ?_
  · have entered := records.entered entry.1 entry.2 (Keyed.get?_of_mem records.created.nodup among)
    exact ⟨entered.nodup, entered.ordered⟩
  · rintro first second ⟨objective, other, found, next, order⟩
    exact ⟨objective, other, firstScores_of_firstWith records found,
      firstScores_of_firstWith records next, order⟩

/-! ### Identities -/

/-- Two holders asked for one after the other are told apart, and one holder asked twice is not. -/
theorem told_apart (calls later : List Call) (other : Holder) {holder : Holder}
    {first second : Identity}
    (asked : ((World.identityOf holder).run (after calls)).1 = some first)
    (again : ((World.identityOf other).run (after (calls ++ .identify holder :: later))).1 =
      some second) :
    (holder = other → first = second) ∧ (holder ≠ other → first.number ≠ second.number) := by
  obtain ⟨w, given⟩ := World.exists_asked (after calls) holder
  have stored : (after (calls ++ [.identify holder])).held? holder = some first := by
    rw [given.answer] at asked
    rw [after_snoc, perform, run_discard, given.answer]
    exact asked
  -- The identity is there from the first question on, so the second one meets it.
  have kept := (carries_after_append (calls ++ [.identify holder]) later).held holder first stored
  rw [List.append_assoc, List.singleton_append] at kept
  obtain ⟨last, answered⟩ :=
    World.exists_asked (after (calls ++ .identify holder :: later)) other
  rw [answered.answer] at again
  have own := answered.carries.held holder first kept
  constructor
  · rintro rfl
    exact Option.some.inj (own.symm.trans again)
  · exact (answered.carries.numbered (numbered_after _)).apart holder other first second own again

/-- After any calls, an objective gives an identity the score that was last set and not reset since.
The participants are the identities with a score, each once, by the earliest objective that scores
them and then by when their entry was made. An objective is added unless it was added before, and
then nothing changes. A holder is given one and the same identity whenever it is asked for, and no
other holder is given it. -/
theorem board_follows_history (calls : List Call) :
    ∃ board, (after calls).board = some board ∧
      (∀ objective holder score, board.score? objective holder = some score ↔
        Scores calls objective holder score) ∧
      board.participants.Nodup ∧
      (∀ holder, holder ∈ board.participants ↔
        ∃ objective score, Scores calls objective holder score) ∧
      board.participants.Pairwise (Precedes calls) ∧
      (∀ objective, .addObjective objective ∈ calls →
        (World.addObjective objective).run (after calls) = (false, after calls)) ∧
      (∀ objective, .addObjective objective ∉ calls →
        ((World.addObjective objective).run (after calls)).1 = true) ∧
      (∀ name, ∃ identity,
        ((World.identityOf (.named name)).run (after calls)).1 = some identity) ∧
      (∀ handle, (∃ identity,
          ((World.identityOf (.entity handle)).run (after calls)).1 = some identity) ↔
        handle < (after calls).bodies.length) ∧
      ∀ later holder other first second,
        ((World.identityOf holder).run (after calls)).1 = some first →
        ((World.identityOf other).run (after (calls ++ .identify holder :: later))).1 =
          some second →
        (holder = other → first = second) ∧ (holder ≠ other → first.number ≠ second.number) := by
  obtain ⟨objectives, found, records⟩ := exists_records calls
  obtain ⟨board, there, rfl⟩ := Option.map_eq_some_iff.mp found
  have answers : ∀ holder, (∃ identity,
      ((World.identityOf holder).run (after calls)).1 = some identity) ↔
        (after calls).Knows holder := by
    intro holder
    obtain ⟨w, asked⟩ := World.exists_asked (after calls) holder
    rw [asked.answer, ← asked.answers, Option.isSome_iff_exists]
  refine ⟨board, there, records.scores, nodup_distinct _, fun holder => ?_,
    pairwise_participants records, fun objective added => ?_, fun objective new => ?_,
    fun name => ?_, fun handle => answers (.entity handle),
    fun later holder other first second => told_apart calls later other⟩
  · rw [← mem_participants_iff records]
    exact mem_distinct
  · rw [run_addObjective there, if_pos (records.added objective added)]
  · rw [run_addObjective there, if_neg (mt records.mem_keys_iff.mp new)]
  · exact (answers (.named name)).mpr (Option.isSome_of_eq_some there)

/-- An entity and a bare name that show the same name are told apart. -/
theorem board_follows_history_of_namesakes :
    let steve : Draft := { body := { id := "", type := "player", name := "Steve" } }
    let calls := [addObjective "kills", make steve ⟨rfl, nofun⟩]
    (World.addObjective "kills").run (after calls) = (false, after calls) ∧
      ((World.addObjective "deaths").run (after calls)).1 = true ∧
      ∃ first second,
        ((World.identityOf (.entity 0)).run (after calls)).1 = some first ∧
        ((World.identityOf (.named "Steve")).run (after (calls ++ [.identify (.entity 0)]))).1 =
          some second ∧
        first.displayName = second.displayName ∧ first.number ≠ second.number := by
  intro steve calls
  obtain ⟨-, -, -, -, -, -, refused, added, -, -, apart⟩ := board_follows_history calls
  have entity : ((World.identityOf (.entity 0)).run (after calls)).1 = some ⟨2, "Steve"⟩ := rfl
  have bare : ((World.identityOf (.named "Steve")).run
      (after (calls ++ [.identify (.entity 0)]))).1 = some ⟨3, "Steve"⟩ := rfl
  exact ⟨refused "kills" (by simp [calls]), added "deaths" (by simp [calls]), ⟨2, "Steve"⟩,
    ⟨3, "Steve"⟩, entity, bare, rfl, (apart [] _ _ _ _ entity bare).2 nofun⟩

-- An entry that is overwritten keeps its place, one that is reset and set again loses it.
example :
    let calls := [addObjective "kills", setScore "kills" ⟨1, "a"⟩ 5, setScore "kills" ⟨2, "b"⟩ 5]
    (after (calls ++ [setScore "kills" ⟨1, "a"⟩ 6])).board.map (·.participants) =
        some [⟨1, "a"⟩, ⟨2, "b"⟩] ∧
      (after (calls ++ [resetScore "kills" ⟨1, "a"⟩, setScore "kills" ⟨1, "a"⟩ 6])).board.map
        (·.participants) = some [⟨2, "b"⟩, ⟨1, "a"⟩] := by
  decide

end Targeting.Call
