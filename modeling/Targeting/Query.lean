import Targeting.Bounds
import Targeting.Space

/-!
# Queries

What a selector asks of an entity. Every part that is absent or empty asks
nothing.
-/
namespace Targeting

/-- The letter of a selector: which entities it starts from. -/
inductive Symbol where
  | everyone
  | players
  | nearestPlayer
  | randomPlayer
  | self
deriving DecidableEq, Repr

namespace Symbol

def letter : Symbol → Char
  | .everyone => 'e'
  | .players => 'a'
  | .nearestPlayer => 'p'
  | .randomPlayer => 'r'
  | .self => 's'

def text (symbol : Symbol) : String := String.ofList ['@', symbol.letter]

def ofLetter? (c : Char) : Option Symbol :=
  [everyone, players, nearestPlayer, randomPlayer, self].find? (·.letter = c)

theorem ofLetter?_letter (symbol : Symbol) : ofLetter? symbol.letter = some symbol := by
  cases symbol <;> rfl

end Symbol

inductive GameMode where
  | survival
  | creative
  | adventure
  | spectator
deriving DecidableEq, Repr

def GameMode.name : GameMode → String
  | .survival => "survival"
  | .creative => "creative"
  | .adventure => "adventure"
  | .spectator => "spectator"

inductive Proximity where
  | closest
  | farthest
deriving DecidableEq, Repr

def Proximity.name : Proximity → String
  | .closest => "closest"
  | .farthest => "farthest"

/-- How many entities to keep, and from which end of their order by distance. -/
structure CountLimit where
  proximity : Proximity
  size : Nat
deriving DecidableEq, Repr

/-- A positive number keeps the closest, a negative one the farthest, zero limits nothing. -/
def CountLimit.ofSigned? (n : Int) : Option CountLimit :=
  if 0 < n then some ⟨.closest, n.toNat⟩
  else if n < 0 then some ⟨.farthest, (-n).toNat⟩
  else none

theorem CountLimit.ofSigned?_eq_none_iff (n : Int) : ofSigned? n = none ↔ n = 0 := by
  simp only [ofSigned?]
  split
  · simp; omega
  · split
    · simp; omega
    · simp; omega

theorem CountLimit.size_pos_of_ofSigned? {n : Int} {limit : CountLimit}
    (signed : ofSigned? n = some limit) : 0 < limit.size := by
  simp only [ofSigned?] at signed
  split at signed
  · cases signed
    simp only
    omega
  · split at signed
    · cases signed
      simp only
      omega
    · cases signed

structure ScoreFilter where
  objective : String
  range : IntRange := {}
  negated : Bool := false
deriving DecidableEq, Repr

def ScoreFilter.accepts (f : ScoreFilter) (score : Int) : Bool :=
  f.range.contains score != f.negated

/-- One requirement on the items of an entity. An item pattern with a colon is an id, any other a
tag. A damage of -1 accepts every damage. -/
structure ItemCondition where
  item : Option String := none
  quantity : IntRange := ⟨some 1, none⟩
  damage : Option Int := none
  location : Option String := none
  slot : Option IntRange := none
deriving DecidableEq, Repr

structure Query where
  type : Option String := none
  excludedTypes : List String := []
  name : Option String := none
  excludedNames : List String := []
  tags : List String := []
  excludedTags : List String := []
  families : List String := []
  excludedFamilies : List String := []
  gameMode : Option GameMode := none
  excludedGameModes : List GameMode := []
  level : IntRange := {}
  origin : Option Anchor := none
  volume : Option Point := none
  distance : FloatRange := {}
  pitch : FloatRange := {}
  yaw : FloatRange := {}
  count : Option CountLimit := none
  scores : List ScoreFilter := []
  items : List ItemCondition := []
deriving DecidableEq, Repr

namespace Query

def rotationIsOpen (q : Query) : Bool := q.pitch.isOpen && q.yaw.isOpen

def acceptsRotation (q : Query) (r : Rotation) : Bool :=
  q.pitch.contains r.pitch && q.yaw.contains r.yaw

/-- Whether some part of the query is measured from an origin. -/
def needsOrigin (q : Query) : Bool :=
  q.origin.isSome || q.volume.isSome || !q.distance.isOpen || !q.rotationIsOpen || q.count.isSome

end Query

end Targeting
