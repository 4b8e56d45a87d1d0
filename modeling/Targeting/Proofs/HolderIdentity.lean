import Targeting.World.Store

/-!
# Identities of score holders

An entity and a bare name get a scoreboard identity when one is first asked for,
and keep it. The identities of a world are told apart by their numbers, whatever
names they show: each is made with the next number of the world.

## Main results

`exists_asked`: what asking for an identity answers, and what it keeps.

`carries_make`: making an entity keeps the identities there are.
-/
namespace Targeting.World

/-- The identity that a holder has so far. -/
def held? (w : World) : Holder → Option Identity
  | .entity handle => (w.body? handle).bind (·.identity)
  | .named name => w.board.bind fun board => Keyed.get? name board.named

/-- Whether a holder can be given an identity: an entity that exists, or any name on a board. -/
def Knows (w : World) : Holder → Prop
  | .entity handle => handle < w.bodies.length
  | .named _ => w.board.isSome

/-- The objectives of the board, if there is one. -/
def objectives? (w : World) : Option (List (String × List (Identity × Int))) :=
  w.board.map (·.objectives)

/-- Which services the board offers, if there is one. -/
def service? (w : World) : Option BoardService := w.board.map (·.service)

/-- Identities have numbers that are used up, and different holders have different ones. -/
structure Numbered (w : World) : Prop where
  below : ∀ holder identity, w.held? holder = some identity → identity.number < w.next
  apart : ∀ holder other first second, w.held? holder = some first → w.held? other = some second →
    holder ≠ other → first.number ≠ second.number

/-- What a step keeps of the identities of a world. -/
structure Carries (w after : World) : Prop where
  numbered : w.Numbered → after.Numbered
  held : ∀ holder identity, w.held? holder = some identity → after.held? holder = some identity

variable {w middle after : World} {holder : Holder} {identity : Identity}

theorem numbered_empty : Numbered {} := by
  have none_held : ∀ holder, held? {} holder = none := by
    intro holder
    cases holder <;> rfl
  constructor <;> simp [none_held]

theorem Carries.refl (w : World) : Carries w w := ⟨id, fun _ _ => id⟩

theorem Carries.trans (first : Carries w middle) (second : Carries middle after) :
    Carries w after where
  numbered := second.numbered ∘ first.numbered
  held holder identity held := second.held holder identity (first.held holder identity held)

theorem carries_of_same (same : ∀ holder, after.held? holder = w.held? holder)
    (next : w.next ≤ after.next) : Carries w after where
  numbered numbered := by
    constructor
    · intro holder identity held
      exact Nat.lt_of_lt_of_le (numbered.below holder identity (same holder ▸ held)) next
    · intro holder other first second held stored
      exact numbered.apart holder other first second (same holder ▸ held) (same other ▸ stored)
  held holder identity held := (same holder).trans held

/-- The holder gets an identity with the next number, and no other holder is touched. -/
structure Gives (holder : Holder) (identity : Identity) (w after : World) : Prop where
  number : identity.number = w.next
  next : after.next = w.next + 1
  self : after.held? holder = some identity
  others : ∀ other, other ≠ holder → after.held? other = w.held? other

theorem carries_of_gives (missing : w.held? holder = none) (gives : Gives holder identity w after) :
    Carries w after where
  numbered numbered := by
    -- All other numbers are below the one that is given now.
    have old : ∀ other first, other ≠ holder → after.held? other = some first →
        first.number < w.next := fun other first different held =>
      numbered.below other first (gives.others other different ▸ held)
    constructor
    · intro other first held
      rw [gives.next]
      by_cases same : other = holder
      · rw [same, gives.self, Option.some.injEq] at held
        rw [← held, gives.number]
        exact Nat.lt_succ_self _
      · exact Nat.lt_succ_of_lt (old other first same held)
    · intro left right first second held stored different
      by_cases same : left = holder
      · have later := old right second (same ▸ different.symm) stored
        rw [same, gives.self, Option.some.injEq] at held
        rw [← held, gives.number]
        exact Nat.ne_of_gt later
      · by_cases alike : right = holder
        · have earlier := old left first same held
          rw [alike, gives.self, Option.some.injEq] at stored
          rw [← stored, gives.number]
          exact Nat.ne_of_lt earlier
        · exact numbered.apart left right first second (gives.others left same ▸ held)
            (gives.others right alike ▸ stored) different
  held other first held := by
    have different : other ≠ holder := by
      rintro rfl
      rw [missing] at held
      cases held
    rw [gives.others other different, held]

/-! ### Asking for an identity -/

theorem knows_of_held (held : w.held? holder = some identity) : w.Knows holder := by
  cases holder with
  | entity handle =>
    obtain ⟨body, found, -⟩ := Option.bind_eq_some_iff.mp held
    exact (List.getElem?_eq_some_iff.mp found).1
  | named name =>
    obtain ⟨board, found, -⟩ := Option.bind_eq_some_iff.mp held
    exact Option.isSome_of_eq_some found

theorem run_identityOf_of_held (held : w.held? holder = some identity) :
    (identityOf holder).run w = (some identity, w) := by
  cases holder with
  | entity handle =>
    obtain ⟨body, found, own⟩ := Option.bind_eq_some_iff.mp held
    simp [identityOf, ensureIdentity, found, own]
    rfl
  | named name =>
    obtain ⟨board, found, own⟩ := Option.bind_eq_some_iff.mp held
    simp [identityOf, namedIdentity, found, own]
    rfl

theorem run_identityOf_of_unknown (unknown : ¬w.Knows holder) :
    (identityOf holder).run w = (none, w) := by
  cases holder with
  | entity handle =>
    have missing : w.body? handle = none := List.getElem?_eq_none (Nat.not_lt.mp unknown)
    simp [identityOf, ensureIdentity, missing]
    rfl
  | named name =>
    have missing : w.board = none := by simpa [Knows] using unknown
    simp [identityOf, namedIdentity, missing]
    rfl

/-- The world in which an entity has been given an identity with the next number. -/
def nameEntity (w : World) (handle : Nat) (identity : Identity) : World :=
  { w with
    bodies := w.bodies.modify handle fun body => { body with identity := some identity }
    next := w.next + 1 }

theorem gives_nameEntity {handle : Nat} {body : Body} (found : w.body? handle = some body)
    (number : identity.number = w.next) :
    Gives (.entity handle) identity w (w.nameEntity handle identity) where
  number := number
  next := rfl
  self := by
    have stored : w.bodies[handle]? = some body := found
    simp [held?, nameEntity, body?, stored]
  others other different := by
    cases other with
    | entity second =>
      have apart : handle ≠ second := fun same => different (same ▸ rfl)
      simp [held?, nameEntity, body?, apart]
    | named name => rfl

/-- The world in which a bare name has been given an identity with the next number. -/
def nameBare (w : World) (board : Board) (name : String) (identity : Identity) : World :=
  { w with
    board := some { board with named := Keyed.put name identity board.named }
    next := w.next + 1 }

theorem gives_nameBare {board : Board} {name : String} (found : w.board = some board)
    (number : identity.number = w.next) :
    Gives (.named name) identity w (w.nameBare board name identity) where
  number := number
  next := rfl
  self := Keyed.get?_put_self name identity board.named
  others other different := by
    cases other with
    | entity handle => rfl
    | named second =>
      have apart : name ≠ second := fun same => different (same ▸ rfl)
      rw [held?, held?, found]
      exact Keyed.get?_put_of_ne apart identity board.named

/-- A holder who is known and has no identity is given one. -/
theorem run_identityOf_of_known (known : w.Knows holder) (missing : w.held? holder = none) :
    ∃ identity after, (identityOf holder).run w = (some identity, after) ∧
      Gives holder identity w after ∧ after.objectives? = w.objectives? ∧
        after.service? = w.service? := by
  cases holder with
  | entity handle =>
    obtain ⟨body, found⟩ : ∃ body, w.body? handle = some body :=
      ⟨_, List.getElem?_eq_getElem known⟩
    have own : body.identity = none := by simpa [held?, found] using missing
    refine ⟨⟨w.next, body.scoreName⟩, w.nameEntity handle ⟨w.next, body.scoreName⟩, ?_,
      gives_nameEntity found rfl, rfl, rfl⟩
    simp [identityOf, ensureIdentity, takeNumber, changeBody, found, own]
    rfl
  | named name =>
    obtain ⟨board, found⟩ : ∃ board, w.board = some board := Option.isSome_iff_exists.mp known
    have own : Keyed.get? name board.named = none := by simpa [held?, found] using missing
    refine ⟨⟨w.next, name⟩, w.nameBare board name ⟨w.next, name⟩, ?_,
      gives_nameBare found rfl, ?_, ?_⟩
    · simp [identityOf, namedIdentity, takeNumber, found, own]
      rfl
    · rw [objectives?, objectives?, found]
      rfl
    · rw [service?, service?, found]
      rfl

/-- Asking for an identity returns the one that the holder has from then on. -/
structure Asked (holder : Holder) (w after : World) : Prop where
  answer : (identityOf holder).run w = (after.held? holder, after)
  answers : (after.held? holder).isSome ↔ w.Knows holder
  carries : Carries w after
  objectives : after.objectives? = w.objectives?
  service : after.service? = w.service?

theorem exists_asked (w : World) (holder : Holder) : ∃ after, Asked holder w after := by
  by_cases known : w.Knows holder
  · cases holds : w.held? holder with
    | some identity =>
      exact ⟨w, by rw [holds, run_identityOf_of_held holds], by simp [holds, known],
        .refl w, rfl, rfl⟩
    | none =>
      obtain ⟨identity, after, run, gives, objectives, service⟩ :=
        run_identityOf_of_known known holds
      exact ⟨after, by rw [run, gives.self], by simp [gives.self, known],
        carries_of_gives holds gives, objectives, service⟩
  · have missing : w.held? holder = none :=
      Option.eq_none_iff_forall_ne_some.mpr fun identity held => known (knows_of_held held)
    exact ⟨w, by rw [missing, run_identityOf_of_unknown known], by simp [missing, known],
      .refl w, rfl, rfl⟩

/-! ### Making an entity -/

/-- The world with the body of a draft, before the body is given an identity. -/
def joined (w : World) (draft : Draft) : World :=
  { w with
    bodies := w.bodies ++ [{ draft.body with id := draft.id.getD (toString w.next) }]
    next := if draft.id.isNone then w.next + 1 else w.next }

/-- The draft does not come with an identity from elsewhere. -/
structure Fresh (draft : Draft) : Prop where
  bare : draft.body.identity = none
  unshared : ∀ other, draft.naming ≠ .shared other

variable {draft : Draft}

theorem carries_joined (fresh : Fresh draft) : Carries w (w.joined draft) := by
  apply carries_of_same
  · intro holder
    cases holder with
    | named name => rfl
    | entity handle =>
      -- Handles are places: only the one after the last gets a body, and that has no identity.
      rcases Nat.lt_trichotomy handle w.bodies.length with old | new | beyond
      · simp [held?, body?, joined, List.getElem?_append_left old]
      · simp [held?, body?, joined, new, fresh.bare]
      · have outside : ¬handle < w.bodies.length := Nat.lt_asymm beyond
        have further : handle - w.bodies.length ≠ 0 := Nat.sub_ne_zero_of_lt beyond
        simp [held?, body?, joined, List.getElem?_append, outside, further]
  · rw [joined]
    split <;> simp

/-- An entity that is made with an identity of its own is asked for it at once. -/
theorem run_make (fresh : Fresh draft) (w : World) :
    ((make draft).run w).2 =
      if draft.naming = .own then
        ((identityOf (.entity w.bodies.length)).run (w.joined draft)).2
      else w.joined draft := by
  obtain ⟨body, id, naming⟩ := draft
  cases naming with
  | none => cases id <;> rfl
  | own => cases id <;> rfl
  | shared other => exact absurd rfl (fresh.unshared other)

/-- Making an entity keeps the identities there are, and the board. -/
theorem carries_make (fresh : Fresh draft) (w : World) :
    Carries w ((make draft).run w).2 ∧ ((make draft).run w).2.objectives? = w.objectives? := by
  rw [run_make fresh]
  split
  next =>
    obtain ⟨after, asked⟩ := exists_asked (w.joined draft) (.entity w.bodies.length)
    rw [asked.answer]
    exact ⟨(carries_joined fresh).trans asked.carries, asked.objectives⟩
  next => exact ⟨carries_joined fresh, rfl⟩

end Targeting.World
