/-!
# Binary numbers

The exact value of a double: a sign, a whole mantissa and a power of two.
-/
namespace Targeting.Number

/-- The number `mantissa * 2 ^ exponent`, negated if `negative`. -/
structure Binary where
  negative : Bool
  mantissa : Nat
  exponent : Int
deriving DecidableEq, Repr

def Binary.ofFloat? (x : Float) : Option Binary :=
  let bits := x.toBits.toNat
  let fraction : Nat := bits % Nat.pow 2 52
  let biased : Nat := bits / Nat.pow 2 52 % Nat.pow 2 11
  let negative := bits / Nat.pow 2 63 == 1
  -- The greatest exponent is that of infinities and of what is no number; the least one has no
  -- hidden bit.
  if biased = 2047 then none
  else if biased = 0 then some ⟨negative, fraction, -1074⟩
  else some ⟨negative, fraction + Nat.pow 2 52, (biased : Int) - 1075⟩

namespace Binary

/-- The magnitude without its fraction. -/
def wholePart (b : Binary) : Nat :=
  if 0 ≤ b.exponent then b.mantissa * Nat.pow 2 b.exponent.toNat
  else b.mantissa / Nat.pow 2 (-b.exponent).toNat

def isWhole (b : Binary) : Bool :=
  0 ≤ b.exponent || b.mantissa % Nat.pow 2 (-b.exponent).toNat == 0

def truncate (b : Binary) : Int :=
  if b.negative then -(b.wholePart : Int) else b.wholePart

def floor (b : Binary) : Int :=
  if b.negative && !b.isWhole then b.truncate - 1 else b.truncate

end Binary

def isFinite (x : Float) : Bool := (Binary.ofFloat? x).isSome

def isWhole (x : Float) : Bool := (Binary.ofFloat? x).any (·.isWhole)

/-- The integer next to a finite double toward zero. -/
def truncate? (x : Float) : Option Int := (Binary.ofFloat? x).map (·.truncate)

/-- The largest integer not above a finite double. -/
def floor? (x : Float) : Option Int := (Binary.ofFloat? x).map (·.floor)

end Targeting.Number
