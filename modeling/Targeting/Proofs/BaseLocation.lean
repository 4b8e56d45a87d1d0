import Targeting.Proofs.Stages
import Targeting.World.Body

/-!
# What a choice sees of its context

A context says where a choice is made and by whom. A choice from the pool sees
of that the base location alone, and a missing base location as the origin of
the world. A query that measures nothing from an origin does not see even that.
A query that pins its origin has no use for the base location either, but asks
for it, and breaks off where the host fails to say it.

## Main result

`Chooser.base_is_all_that_shows`: two choices in the same world that see the
same of their contexts are the same, notices included, and when two choices
with a pinned origin are not.

## Proof strategy

The origin is all that a choice from the pool takes from a location or an
executor (`choosePool_congr`), so each part says when two origins agree, or
that one of them cannot be had (`choose_of_baseFails`).
-/
namespace Targeting

/-! ### The origin of a query -/

/-- A base location that does not fail is read, if only as a missing one. -/
theorem Context.exists_base {context : Context} (located : ∀ fault, ¬context.BaseFails fault) :
    ∃ base, context.base = .ok base := by
  cases answered : context.base with
  | ok base => exact ⟨base, rfl⟩
  | error fault => exact absurd ((context.base_eq_error_iff fault).mp answered) (located fault)

namespace Query

variable (q : Query) (context : Context)

/-- All three axes of the origin are given, none of them as an offset. -/
def PinsOrigin : Prop :=
  ∃ x y z, q.origin = some ⟨some ⟨x, false⟩, some ⟨y, false⟩, some ⟨z, false⟩⟩

/-- Nothing in the query is measured from an origin. -/
structure IsPlaceless : Prop where
  origin : q.origin = none
  volume : q.volume = none
  distance : q.distance.isOpen = true
  pitch : q.pitch.isOpen = true
  yaw : q.yaw.isOpen = true
  count : q.count = none

theorem IsPlaceless.needsOrigin {q : Query} (placeless : q.IsPlaceless) : q.needsOrigin = false := by
  simp [Query.needsOrigin, rotationIsOpen, placeless.origin, placeless.volume, placeless.distance,
    placeless.pitch, placeless.yaw, placeless.count]

theorem originIn_of_placeless (placeless : q.IsPlaceless) : q.originIn context = .ok none := by
  rw [originIn_eq, placeless.needsOrigin]
  rfl

theorem PinsOrigin.needsOrigin {q : Query} (pinned : q.PinsOrigin) : q.needsOrigin = true := by
  obtain ⟨x, y, z, given⟩ := pinned
  exact q.needsOrigin_of_origin given

/-- A pinned origin is the same wherever the base location is, as long as that can be read. -/
theorem exists_originIn_of_pinned (pinned : q.PinsOrigin) : ∃ origin, ∀ context : Context,
    (∀ fault, ¬context.BaseFails fault) → q.originIn context = .ok origin := by
  have needed := pinned.needsOrigin
  obtain ⟨x, y, z, given⟩ := pinned
  refine ⟨some ⟨x, y, z⟩, fun context located => ?_⟩
  obtain ⟨base, read⟩ := context.exists_base located
  rw [originIn_eq, if_pos needed, read, given]
  rfl

/-- A missing base location stands for the origin of the world. -/
theorem originIn_eq_of_base : q.originIn context =
    if q.needsOrigin = true then (context.base.map (·.getD {})).map fun base =>
      some ((q.origin.map (·.resolve (some base))).getD base)
    else .ok none := by
  rw [originIn_eq]
  cases context.base with
  | error fault => rfl
  | ok base =>
    cases q.origin with
    | none => rfl
    | some anchor => cases base <;> rfl

end Query

namespace Chooser

variable (c : Chooser)

/-- Of where a choice is made and by whom, the origin is all that matters. -/
theorem choosePool_congr {left right : Context} (host : left.host = right.host)
    (picks : left.picks = right.picks) (origin : c.query.originIn left = c.query.originIn right) :
    c.choosePool left = c.choosePool right := by
  unfold choosePool
  simp only [origin, host, picks]

/-- The anchor of a query is the same whatever the symbol makes of it. -/
theorem pinsOrigin_query (pinned : c.selector.query.PinsOrigin) : c.query.PinsOrigin := by
  obtain ⟨type, count, shaped⟩ := c.selector.query.forSymbol_eq c.selector.symbol c.settings
  rw [query, shaped]
  exact pinned

/-- An origin that is needed is asked for first, whether or not the base location goes into it. -/
theorem choose_of_baseFails (pooled : c.selector.symbol ≠ .self) {context : Context} {fault : Fault}
    (needed : c.query.needsOrigin = true) (failed : context.BaseFails fault) :
    c.choose context = throw fault := by
  have unresolved : c.query.originIn context = .error fault :=
    (c.query.originIn_eq_error_iff context fault).mpr ⟨needed, failed⟩
  rw [choose, if_neg pooled, choosePool, unresolved]
  rfl

/-- Two choices from the pool of the same world, with the same picks. If the query pins its origin, a
choice whose base location cannot be read raises the fault of the host, and any other is the same as
one elsewhere unless the base location there fails with a fault that it does not raise itself. If
nothing of the query is measured from an origin (a random choice never counts from one), or if the
base locations are the same, a missing one being the origin of the world, the choices are the same. -/
theorem base_is_all_that_shows (pooled : c.selector.symbol ≠ .self) {left right : Context}
    (host : left.host = right.host) (picks : left.picks = right.picks) :
    (c.selector.query.PinsOrigin →
        (∀ fault, left.BaseFails fault → c.choose left = throw fault) ∧
        ((∀ fault, ¬left.BaseFails fault) →
          (c.choose left = c.choose right ↔
            ∀ fault, right.BaseFails fault → c.choose left = throw fault))) ∧
      (c.query.IsPlaceless → c.choose left = c.choose right) ∧
      (c.selector.symbol = .randomPlayer → c.query.count = none) ∧
      (left.base.map (·.getD {}) = right.base.map (·.getD {}) → c.choose left = c.choose right) := by
  have agree (origin : c.query.originIn left = c.query.originIn right) :
      c.choose left = c.choose right := by
    rw [choose, choose, if_neg pooled, if_neg pooled]
    exact c.choosePool_congr host picks origin
  refine ⟨fun pinned => ?_, ?_, c.count_of_random, ?_⟩
  · have shaped := c.pinsOrigin_query pinned
    have raises {context : Context} {fault : Fault} (failed : context.BaseFails fault) :
        c.choose context = throw fault := c.choose_of_baseFails pooled shaped.needsOrigin failed
    refine ⟨fun fault => raises, fun here => ⟨fun same fault failed => ?_, fun same => ?_⟩⟩
    · rw [same, raises failed]
    -- The other base location fails, and then both choices raise its fault, or it can be read too.
    · by_cases there : ∃ fault, right.BaseFails fault
      · obtain ⟨fault, failed⟩ := there
        rw [same fault failed, raises failed]
      · obtain ⟨origin, resolved⟩ := c.query.exists_originIn_of_pinned shaped
        apply agree
        rw [resolved left here, resolved right (not_exists.mp there)]
  · intro placeless
    apply agree
    rw [Query.originIn_of_placeless _ _ placeless, Query.originIn_of_placeless _ _ placeless]
  · intro base
    apply agree
    rw [Query.originIn_eq_of_base, Query.originIn_eq_of_base, base]

/-- With a pinned origin the pig is chosen from anywhere, but an executor whose location fails keeps it
from being chosen, although the location is of no use. A random choice by tag does not ask for the
location, and for the nearest player a missing one is the origin of the world. -/
theorem base_shows_of_lost_executor :
    let pig := ({ id := "1", type := "minecraft:pig", tags := ["a"] } : Body).entity 0
    let host : Host := { pool := fun _ => .ok [pig], scoreboard := none }
    let here : Context := { host, location := some ⟨50.0, 0.0, 0.0⟩ }
    let there : Context := { host, executor := some pig }
    let lost : Context := { host, executor := some { pig with location := .error ⟨"lost"⟩ } }
    let pinned := ofText (some "@e[x=1,y=2,z=3]") {}
    let tagged := ofText (some "@r[tag=a,c=2]") {}
    let nearest := ofText (some "@p[r=4]") {}
    (outcome (pinned.choose here)).map (·.map (·.handle)) = .ok [0] ∧
      pinned.choose here = pinned.choose there ∧ pinned.choose lost = throw ⟨"lost"⟩ ∧
      pinned.choose here ≠ pinned.choose lost ∧ tagged.choose here = tagged.choose lost ∧
      nearest.choose { host } = nearest.choose { host, location := some {} } := by
  intro pig host here there lost pinned tagged nearest
  have everyone : pinned.selector.symbol ≠ .self := by decide +kernel
  have random : tagged.selector.symbol ≠ .self := by decide +kernel
  have player : nearest.selector.symbol ≠ .self := by decide +kernel
  have origin : pinned.selector.query.PinsOrigin := ⟨1.0, 2.0, 3.0, by decide +kernel⟩
  have placeless : tagged.query.IsPlaceless := by constructor <;> decide +kernel
  have fails : lost.BaseFails ⟨"lost"⟩ := ⟨rfl, _, rfl, rfl⟩
  have located (fault : Fault) : ¬here.BaseFails fault := by simp [Context.BaseFails, here]
  have known (fault : Fault) : ¬there.BaseFails fault := by
    rintro ⟨-, e, executor, failed⟩
    cases executor
    cases failed
  have chosen : (outcome (pinned.choose here)).map (·.map (·.handle)) = .ok [0] := by decide +kernel
  have silent : pinned.choose here ≠ throw ⟨"lost"⟩ := by
    intro raised
    rw [raised] at chosen
    cases chosen
  obtain ⟨-, same⟩ := (@base_is_all_that_shows pinned everyone here there rfl rfl).1 origin
  obtain ⟨-, apart⟩ := (@base_is_all_that_shows pinned everyone here lost rfl rfl).1 origin
  obtain ⟨raises, -⟩ := (@base_is_all_that_shows pinned everyone lost here rfl rfl).1 origin
  refine ⟨chosen, ?_, raises _ fails, ?_, ?_, ?_⟩
  · exact (same located).mpr fun fault failed => absurd failed (known fault)
  · exact fun equal => silent ((apart located).mp equal _ fails)
  · exact (base_is_all_that_shows tagged random rfl rfl).2.1 placeless
  · exact (base_is_all_that_shows nearest player rfl rfl).2.2.2 rfl

end Chooser

end Targeting
