import Mathlib.Data.List.TakeWhile
import Targeting.Proofs.Stages
import Targeting.World.Store

/-!
# The filter of the pool in memory

A pool in memory drops bodies by type, name and tags before they are checked.
Names and tags are compared as the checks do, so dropping by them changes
nothing. Types are compared as written, after the last colon, where the checks
first take blanks away: a body whose type differs from the wanted one in blanks
alone is lost.
-/
namespace Targeting

/-! ### Rejected candidates -/

/-- A candidate that fails a check on itself alone is left out without a notice. -/
theorem Entity.passes_of_meets_false {e : Entity} {q : Query} {origin : Option Point}
    {settings : Settings} (rejected : e.meets q origin settings = .ok false)
    (board : Option Scoreboard) : e.passes q origin settings board = pure false := by
  unfold passes
  rw [rejected]
  rfl

/-- Candidates that are left out may as well be missing. -/
theorem passing_filter (q : Query) (origin : Option Point) (settings : Settings)
    (board : Option Scoreboard) {Entry : Type} (shown : Entry → Entity) (keeps : Entry → Bool)
    {entries : List Entry} (rejected : ∀ entry ∈ entries, keeps entry = false →
      (shown entry).passes q origin settings board = pure false) :
    passing q origin settings board ((entries.filter keeps).map shown) =
      passing q origin settings board (entries.map shown) := by
  induction entries with
  | nil => rfl
  | cons entry rest ih =>
    have tail := ih fun other member => rejected other (by simp [member])
    cases kept : keeps entry with
    | true =>
      rw [List.filter_cons_of_pos kept]
      simp only [List.map_cons, passing, tail]
    | false =>
      -- A candidate that is left out says nothing, so the notices are the same too.
      have alone := rejected entry (by simp) kept
      rw [List.filter_cons_of_neg (by simp [kept]), tail, List.map_cons, passing, alone, pure_bind]
      simp

/-- Two pools whose answers pass alike lead to the same choice, notices included. -/
theorem Chooser.choose_withPool_congr (c : Chooser) (context : Context)
    (left right : PoolQuery → Except Fault (List Entity))
    (same : ∀ origin, ∃ lefts rights, left ⟨{ c.query with count := none }, origin⟩ = .ok lefts ∧
      right ⟨{ c.query with count := none }, origin⟩ = .ok rights ∧
      passing c.query origin c.settings context.host.scoreboard lefts =
        passing c.query origin c.settings context.host.scoreboard rights) :
    c.choose (context.withPool left) = c.choose (context.withPool right) := by
  unfold choose
  by_cases alone : c.selector.symbol = .self
  · rw [if_pos alone, if_pos alone]
    rfl
  · rw [if_neg alone, if_neg alone]
    unfold choosePool
    -- The origin is resolved before the pool is asked, so it is the same.
    have base (pool : PoolQuery → Except Fault (List Entity)) :
        c.query.originIn (context.withPool pool) = c.query.originIn context := rfl
    simp only [base]
    congr 1
    funext origin
    obtain ⟨lefts, rights, leftAnswered, rightAnswered, passes⟩ := same origin
    have leftPool : (context.withPool left).host.pool ⟨{ c.query with count := none }, origin⟩ =
      .ok lefts := leftAnswered
    have rightPool : (context.withPool right).host.pool ⟨{ c.query with count := none }, origin⟩ =
      .ok rights := rightAnswered
    have leftPasses : passing c.query origin c.settings (context.withPool left).host.scoreboard lefts =
      passing c.query origin c.settings (context.withPool right).host.scoreboard rights := passes
    rw [leftPool, rightPool]
    simp only [leftPasses]
    rfl

/-! ### What the pool keeps -/

namespace Body

/-- The type, the name and the tags of the body fit the query, types being compared as written. -/
def isKept (b : Body) (q : Query) : Bool :=
  q.type.all (fun wanted => wanted.isEmpty || lastSegment b.type = lastSegment wanted) &&
    q.name.all (b.name = ·) && q.tags.all b.tags.contains

/-- The type of the body is the wanted one, and the pool takes it for another. -/
def isLost (b : Body) (q : Query) (space : String) : Bool :=
  q.type.any fun wanted => !wanted.isEmpty &&
    completeTypeId space b.type = completeTypeId space wanted &&
    lastSegment b.type ≠ lastSegment wanted

variable {b : Body} (q : Query)

theorem mayMatch_eq (recorded : b.visibility ≠ .bare) : b.mayMatch q = .ok (b.isKept q) := by
  have type : b.mayHaveType q = .ok (q.type.all fun wanted =>
      wanted.isEmpty || lastSegment b.type = lastSegment wanted) := by
    unfold mayHaveType Body.recorded
    cases q.type with
    | none => rfl
    | some wanted => cases empty : wanted.isEmpty <;> simp [empty, recorded, Except.map]
  have name : b.mayHaveName q = .ok (q.name.all (b.name = ·)) := by
    unfold mayHaveName Body.recorded
    cases q.name <;> simp [recorded, Except.map]
  have tags : b.mayHaveTags q = .ok (q.tags.all b.tags.contains) := by
    unfold mayHaveTags Body.recorded
    cases q.tags <;> simp [recorded, Except.map]
  unfold mayMatch isKept
  rw [type, name, tags]
  -- Each comparison is made only if those before it came out true.
  simp only [bind, Except.bind]
  cases q.type.all fun wanted => wanted.isEmpty || lastSegment b.type = lastSegment wanted <;>
    cases q.name.all (b.name = ·) <;> rfl

/-- The pool keeps no body of another type than it takes for the wanted one. -/
theorem isLost_of_isKept {space : String} (kept : b.isKept q = true) : b.isLost q space = false := by
  unfold isKept at kept
  unfold isLost
  cases wants : q.type with
  | none => rfl
  | some wanted =>
    simp only [wants, Option.all_some, Bool.and_eq_true, Bool.or_eq_true, decide_eq_true_eq] at kept
    rcases kept.1.1 with empty | same
    · simp [empty]
    · simp [same]

@[simp] theorem entity_typeId (handle : Nat) : (b.entity handle).typeId = .ok b.type := by
  unfold entity
  cases b.visibility <;> rfl

@[simp] theorem entity_nameTag (handle : Nat) : (b.entity handle).nameTag = .ok b.name := by
  unfold entity
  cases b.visibility <;> rfl

@[simp] theorem entity_tags (handle : Nat) : (b.entity handle).tags = .ok b.tags := by
  unfold entity
  cases b.visibility <;> rfl

/-- A body that is dropped without being lost is rejected by its type, its name or its tags. -/
theorem meets_of_dropped {settings : Settings} (dropped : b.isKept q = false)
    (found : b.isLost q settings.defaultNamespace = false) (handle : Nat) (origin : Option Point) :
    (b.entity handle).meets q origin settings = .ok false := by
  let e := b.entity handle
  have type : e.hasType q settings.defaultNamespace = .ok _ :=
    (e.hasType_eq q _).trans (by rw [entity_typeId, Except.map])
  have name : e.hasName q = .ok _ := (e.hasName_eq q).trans (by rw [entity_nameTag, Except.map])
  have tags : e.hasTags q =
      .ok (q.tags.all b.tags.contains && !q.excludedTags.any b.tags.contains) := by
    rw [e.hasTags_eq q, entity_tags]
    split
    next unasked => simp [unasked]
    · rfl
  -- None of the first three checks can break off on a body, and one of them comes out false.
  have first : Check.all [e.hasType q settings.defaultNamespace, e.hasName q, e.hasTags q] =
      .ok false := by
    rw [type, name, tags]
    simp only [Check.all_cons, Check.all_nil, Check.and_ok, Except.ok.injEq]
    simp only [isKept, Bool.and_eq_false_iff] at dropped
    rcases dropped with (other | renamed) | untagged
    · cases wants : q.type with
      | none => simp [wants] at other
      | some wanted =>
        simp only [wants, Option.all_some, Bool.or_eq_false_iff, decide_eq_false_iff_not] at other
        simp only [isLost, wants, Option.any_some, other, Bool.not_false, Bool.true_and, ne_eq,
          not_false_eq_true, decide_true, Bool.and_true, decide_eq_false_iff_not] at found
        simp [other, found]
    · simp [renamed]
    · simp [untagged]
  change Check.all ([e.hasType q settings.defaultNamespace, e.hasName q, e.hasTags q] ++ _) = _
  rw [Check.all_append, first, Check.false_and]

end Body

/-! ### Types with and without blanks -/

namespace Body

theorem lastSegment_of_plain {typeId : String} (plain : ':' ∉ typeId.toList) :
    lastSegment typeId = typeId.toList := by
  have all : ∀ c ∈ typeId.toList.reverse, decide (c ≠ ':') = true := by
    intro c member
    simp only [decide_eq_true_eq]
    rintro rfl
    exact plain (List.mem_reverse.mp member)
  rw [lastSegment, List.takeWhile_eq_self_iff.mpr all, List.reverse_reverse]

/-- Completing a type takes the blanks away and leaves the part after the last colon. -/
theorem lastSegment_completeTypeId (space typeId : String) :
    lastSegment (completeTypeId space typeId) =
      lastSegment (String.ofList (Text.trim typeId.toList)) := by
  unfold completeTypeId
  simp only []
  split
  · rfl
  next unspaced =>
    have plain : ':' ∉ (String.ofList (Text.trim typeId.toList)).toList := by simpa using unspaced
    have tail : ∀ c ∈ (Text.trim typeId.toList).reverse, decide (c ≠ ':') = true := by
      intro c member
      simp only [decide_eq_true_eq]
      rintro rfl
      exact plain (by simpa using member)
    -- Whatever the namespace is, the last colon is the one that completing puts in.
    have shape : (space ++ ":" ++ String.ofList (Text.trim typeId.toList)).toList.reverse =
        (Text.trim typeId.toList).reverse ++ ':' :: space.toList.reverse := by simp
    rw [lastSegment_of_plain plain, lastSegment, shape, List.takeWhile_append_of_pos tail,
      List.takeWhile_cons_of_neg (by decide), List.append_nil, List.reverse_reverse,
      String.toList_ofList]

/-- Types without blanks around them are never taken for different where they are the same. -/
theorem isLost_of_trimmed {b : Body} {q : Query} (space : String)
    (own : Text.trim b.type.toList = b.type.toList)
    (asked : ∀ wanted, q.type = some wanted → Text.trim wanted.toList = wanted.toList) :
    b.isLost q space = false := by
  unfold isLost
  cases wants : q.type with
  | none => rfl
  | some wanted =>
    by_cases same : completeTypeId space b.type = completeTypeId space wanted
    -- Completed types that agree agree after the last colon, and there nothing was added.
    · have segments : lastSegment b.type = lastSegment wanted := by
        have completed := congrArg lastSegment same
        rwa [lastSegment_completeTypeId, lastSegment_completeTypeId, own, asked wanted wants,
          String.ofList_toList, String.ofList_toList] at completed
      simp [segments]
    · simp [same]

end Body

/-! ### The pool in memory -/

namespace World

/-- The entity that an entry of the pool shows. -/
def shown (entry : Nat × Body) : Entity := entry.2.entity entry.1

theorem filtered_eq (q : Query) {entries : List (Nat × Body)}
    (recorded : ∀ entry ∈ entries, entry.2.visibility ≠ .bare) :
    filtered q entries = .ok (entries.filter fun entry => entry.2.isKept q) := by
  induction entries with
  | nil => rfl
  | cons entry rest ih =>
    have head := Body.mayMatch_eq q (recorded entry (by simp))
    have tail := ih fun other member => recorded other (by simp [member])
    rw [filtered, head, tail]
    cases kept : entry.2.isKept q <;> simp [kept, bind, Except.bind, pure, Except.pure]

theorem answer_of_filtering (w : World) (recorded : ∀ entry ∈ w.pooled, entry.2.visibility ≠ .bare)
    (asked : PoolQuery) : { w with service := .filtering }.answer asked =
      .ok ((w.pooled.filter fun entry => entry.2.isKept asked.query).map shown) := by
  have kept := filtered_eq asked.query recorded
  unfold answer
  change (filtered asked.query w.pooled >>= _) = _
  rw [kept]
  rfl

end World

namespace Chooser

variable (c : Chooser)

/-- The body is in the pool and the choice does not get to see it. -/
def loses (b : Body) : Bool := b.isLost c.query c.settings.defaultNamespace

/-- A choice over the pool is a choice over the bodies that are not lost, notices included. -/
theorem choose_of_filtering (context : Context) (w : World)
    (recorded : ∀ entry ∈ w.pooled, entry.2.visibility ≠ .bare) :
    c.choose (context.withPool { w with service := .filtering }.answer) =
      c.choose (context.withPool fun _ =>
        .ok ((w.pooled.filter fun entry => !c.loses entry.2).map World.shown)) := by
  apply c.choose_withPool_congr
  intro origin
  refine ⟨_, _, w.answer_of_filtering recorded _, rfl, ?_⟩
  -- What the pool keeps is not lost, and what it drops without losing it is rejected anyway.
  have narrowed : (w.pooled.filter fun entry => entry.2.isKept c.query) =
      (w.pooled.filter fun entry => !c.loses entry.2).filter fun entry => entry.2.isKept c.query := by
    rw [List.filter_filter]
    apply List.filter_congr
    intro entry _
    cases kept : entry.2.isKept c.query with
    | true => simp [loses, Body.isLost_of_isKept c.query kept]
    | false => rfl
  change passing c.query origin c.settings context.host.scoreboard
    ((w.pooled.filter fun entry => entry.2.isKept c.query).map World.shown) = _
  rw [narrowed]
  apply passing_filter
  intro entry member dropped
  have found : c.loses entry.2 = false := by simpa using (List.mem_filter.mp member).2
  exact Entity.passes_of_meets_false
    (Body.meets_of_dropped c.query dropped found entry.1 origin) _

/-- Without a count, a choice from a pool of everyone is whoever passes. -/
theorem outcome_choose_uncounted (context : Context) (pooled : c.selector.symbol ≠ .self)
    (unsampled : c.selector.symbol ≠ .randomPlayer) (uncounted : c.query.count = none)
    (candidates : List Entity) :
    outcome (c.choose (context.withPool fun _ => .ok candidates)) =
      (c.query.originIn context).bind fun origin =>
        outcome (passing c.query origin c.settings context.host.scoreboard candidates) := by
  have size : c.selector.query.sampleSize c.selector.symbol c.settings = none := by
    simp [Query.sampleSize, unsampled]
  rw [choose, if_neg pooled, outcome_choosePool]
  change ((c.query.originIn context).bind fun origin =>
    (outcome (passing c.query origin c.settings context.host.scoreboard candidates)).bind _) = _
  congr 1
  funext origin
  have kept : c.arrange (context.withPool fun _ => .ok candidates) origin = .ok := by
    funext accepted
    unfold arrange
    rw [size, uncounted]
  rw [kept]
  cases outcome (passing c.query origin c.settings context.host.scoreboard candidates) <;> rfl

/-- A body with the type of a lost one is lost. -/
theorem loses_of_shown {entry other : Nat × Body} (same : World.shown entry = World.shown other) :
    c.loses entry.2 = c.loses other.2 := by
  have types := congrArg Entity.typeId same
  simp only [World.shown, Body.entity_typeId, Except.ok.injEq] at types
  unfold loses Body.isLost
  rw [types]

/-- Leaving the lost bodies out changes nothing exactly if none of them would be accepted. -/
theorem filter_without_lost_iff (entries : List (Nat × Body)) (accepts : Entity → Prop)
    [DecidablePred accepts] :
    ((entries.filter fun entry => !c.loses entry.2).map World.shown).filter (accepts ·) =
        (entries.map World.shown).filter (accepts ·) ↔
      ∀ entry ∈ entries, c.loses entry.2 = true →
        World.shown entry ∉ (entries.map World.shown).filter (accepts ·) := by
  constructor
  · intro same entry _ lost inside
    -- What is left in may show the same as a lost body, but then it is lost itself.
    rw [← same, List.mem_filter, List.mem_map] at inside
    obtain ⟨⟨other, kept, shown⟩, -⟩ := inside
    have found := (List.mem_filter.mp kept).2
    simp [c.loses_of_shown shown, lost] at found
  · intro apart
    rw [List.filter_map, List.filter_map, List.filter_filter]
    congr 1
    apply List.filter_congr
    intro entry member
    -- Only accepted bodies matter, and none of these is lost.
    by_cases accepted : accepts (World.shown entry)
    · have inside : World.shown entry ∈ (entries.map World.shown).filter (accepts ·) := by
        simpa [accepted] using ⟨entry.1, entry.2, member, rfl⟩
      have found : c.loses entry.2 = false := by
        by_contra lost
        exact apart entry member (by simpa using lost) inside
      simp [found]
    · simp [accepted]

/-- The filter of a pool in memory changes a choice exactly by the bodies whose type it takes for
another: it is as if these were missing. No body is lost unless its type or the wanted one has
blanks around it, and a choice without a count misses every lost body that it should hold. -/
theorem filtering_changes_by_lost (c : Chooser) (context : Context) (w : World)
    (recorded : ∀ entry ∈ w.pooled, entry.2.visibility ≠ .bare) :
    let filtering := c.choose (context.withPool { w with service := .filtering }.answer)
    let unfiltered := c.choose (context.withPool { w with service := .unfiltered }.answer)
    filtering = c.choose (context.withPool fun _ =>
      .ok ((w.pooled.filter fun entry => !c.loses entry.2).map World.shown)) ∧
    ((∀ entry ∈ w.pooled, c.loses entry.2 = false) → filtering = unfiltered) ∧
    (∀ entry ∈ w.pooled, Text.trim entry.2.type.toList = entry.2.type.toList →
      (∀ wanted, c.query.type = some wanted → Text.trim wanted.toList = wanted.toList) →
        c.loses entry.2 = false) ∧
    (c.selector.symbol ≠ .self → c.selector.symbol ≠ .randomPlayer → c.query.count = none →
      ∀ chosen, outcome unfiltered = .ok chosen →
        (outcome filtering = .ok chosen ↔
          ∀ entry ∈ w.pooled, c.loses entry.2 = true → World.shown entry ∉ chosen)) := by
  intro filtering unfiltered
  have missing : filtering = c.choose (context.withPool fun _ =>
      .ok ((w.pooled.filter fun entry => !c.loses entry.2).map World.shown)) :=
    c.choose_of_filtering context w recorded
  have whole : unfiltered = c.choose (context.withPool fun _ => .ok (w.pooled.map World.shown)) := rfl
  refine ⟨missing, ?_, ?_, ?_⟩
  · intro found
    have kept : w.pooled.filter (fun entry => !c.loses entry.2) = w.pooled :=
      List.filter_eq_self.mpr fun entry member => by simp [found entry member]
    rw [missing, whole, kept]
  · intro entry _ own asked
    exact Body.isLost_of_trimmed _ own asked
  · classical
    intro pooled unsampled uncounted chosen returned
    rw [whole, c.outcome_choose_uncounted context pooled unsampled uncounted, bind_eq_ok_iff]
      at returned
    obtain ⟨origin, resolved, passed⟩ := returned
    -- All candidates have settled over the whole pool, so those that are not lost settle too.
    have placed := c.placed_of_originIn context resolved
    have settled := settles_of_passing (c.demand context origin) placed passed
    have accepted := outcome_passing_of_settles (c.demand context origin) placed settled
    obtain rfl := Except.ok.inj (passed.symm.trans accepted)
    have settledKept : ∀ e ∈ (w.pooled.filter fun entry => !c.loses entry.2).map World.shown,
        e.Settles (c.demand context origin) := fun e member =>
      settled e (List.map_subset _ (List.filter_subset_self _) member)
    have acceptedKept := outcome_passing_of_settles (c.demand context origin) placed settledKept
    rw [missing, c.outcome_choose_uncounted context pooled unsampled uncounted, resolved,
      ← c.filter_without_lost_iff]
    exact (Eq.congr_left acceptedKept).trans (Iff.of_eq (Except.ok.injEq _ _))

/-- Asked for pigs with a blank after the type, the pool drops the pig that the checks accept. -/
theorem filtering_misses_pig :
    let c := ofText (some "@e[type=\"pig \"]") {}
    let w : World := { bodies := [{ id := "1", type := "pig" }], pool := [0] }
    let context : Context := { host := w.host }
    let pig := World.shown (0, { id := "1", type := "pig" })
    outcome (c.choose (context.withPool { w with service := .unfiltered }.answer)) = .ok [pig] ∧
      outcome (c.choose (context.withPool { w with service := .filtering }.answer)) ≠ .ok [pig] := by
  intro c w context pig
  have chosen : outcome (c.choose (context.withPool { w with service := .unfiltered }.answer)) =
    .ok [pig] := rfl
  have row := filtering_changes_by_lost c context w (by decide)
  refine ⟨chosen, ?_⟩
  rw [ne_eq, row.2.2.2 (by decide +kernel) (by decide +kernel) (by decide +kernel) [pig] chosen]
  intro apart
  exact apart (0, { id := "1", type := "pig" }) (by decide +kernel) (by decide +kernel) (by simp [pig])

end Chooser

end Targeting
