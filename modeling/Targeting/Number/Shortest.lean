import Targeting.Number.Binary

/-!
# Shortest decimals

The text of a double with the fewest digits that read back as the same double,
and of those the nearest to it. The value is compared with its two neighbours
on the grids of 1, 2, … 17 significant digits, in exact integer arithmetic.
-/
namespace Targeting.Number

/-- The positive rational `numerator / denominator`. -/
structure Ratio where
  numerator : Nat
  denominator : Nat

namespace Ratio

/-- The ratio `n * 2 ^ exponent`. -/
def scaled (n : Nat) (exponent : Int) : Ratio :=
  if 0 ≤ exponent then ⟨n * Nat.pow 2 exponent.toNat, 1⟩
  else ⟨n, Nat.pow 2 (-exponent).toNat⟩

def shift (r : Ratio) (power : Int) : Ratio :=
  if 0 ≤ power then ⟨r.numerator * Nat.pow 10 power.toNat, r.denominator⟩
  else ⟨r.numerator, r.denominator * Nat.pow 10 (-power).toNat⟩

def floor (r : Ratio) : Nat := r.numerator / r.denominator

/-- How `r` stands to the integer `n`. -/
def compareNat (r : Ratio) (n : Nat) : Ordering := compare r.numerator (n * r.denominator)

end Ratio

/-- The reals that round to a double: its bounds and whether these belong to it. -/
structure RoundingInterval where
  value : Ratio
  low : Ratio
  high : Ratio
  closed : Bool

/-- The interval of `mantissa * 2 ^ exponent`. Below a power of two the neighbour is nearer. -/
def RoundingInterval.of (mantissa : Nat) (exponent : Int) : RoundingInterval :=
  let below := if mantissa = Nat.pow 2 52 ∧ -1074 < exponent then 1 else 2
  { value := .scaled (4 * mantissa) (exponent - 2)
    low := .scaled (4 * mantissa - below) (exponent - 2)
    high := .scaled (4 * mantissa + 2) (exponent - 2)
    closed := mantissa % 2 == 0 }

/-- Whether `n` units of the grid `10 ^ grid` lie in the interval. -/
def RoundingInterval.admits (i : RoundingInterval) (grid : Int) (n : Nat) : Bool :=
  let low := (i.low.shift (-grid)).compareNat n
  let high := (i.high.shift (-grid)).compareNat n
  if i.closed then low.isLE && high.isGE else low.isLT && high.isGT

/-- The exponent of the power of ten just above a positive value. -/
def decimalMagnitude (value : Ratio) : Int :=
  let whole := value.floor
  if 0 < whole then (Nat.toDigits 10 whole).length
  else
    -- No positive double begins so far behind the point.
    let zeros : Nat := ((List.range 330).find? fun (k : Nat) => 0 < (value.shift (k + 1)).floor).getD 330
    Int.negOfNat zeros

/-- The admitted neighbour of the value on one grid: the nearer of two, an even one on a tie. -/
def RoundingInterval.onGrid? (i : RoundingInterval) (grid : Int) : Option Nat :=
  let value := i.value.shift (-grid)
  let down := value.floor
  match i.admits grid down && 0 < down, i.admits grid (down + 1) with
  | true, false => some down
  | false, true => some (down + 1)
  | false, false => none
  | true, true =>
    match compare (2 * value.numerator) ((2 * down + 1) * value.denominator) with
    | .lt => some down
    | .gt => some (down + 1)
    | .eq => some (if down % 2 = 0 then down else down + 1)

/-- Decimal digits without trailing zeros, standing for `0.digits * 10 ^ point`. -/
structure ShortestDigits where
  digits : List Char
  point : Int
deriving DecidableEq, Repr

def shortestDigits (b : Binary) : ShortestDigits :=
  let interval := RoundingInterval.of b.mantissa b.exponent
  let magnitude := decimalMagnitude interval.value
  -- The coarsest grid with an admitted number wins; one of 17 digits always has one.
  let hit := (List.range 17).findSome? fun (k : Nat) =>
    let grid : Int := magnitude - (k + 1)
    (interval.onGrid? grid).map fun n => (n, grid)
  let (n, grid) := hit.getD (0, 0)
  let digits := Nat.toDigits 10 n
  { digits := (digits.reverse.dropWhile (· = '0')).reverse
    point := digits.length + grid }

/-- How a decimal is laid out: the exponents written without a power of ten, and the least
number of digits of a written exponent. -/
structure DecimalLayout where
  lowest : Int
  highest : Int
  exponentDigits : Nat

/-- Digits with a point among or after them; a whole number ends in `.0`. -/
def positional (d : ShortestDigits) : List Char :=
  if d.point ≤ 0 then '0' :: '.' :: List.replicate (-d.point).toNat '0' ++ d.digits
  else
    let whole := d.digits.take d.point.toNat
    let fraction := d.digits.drop d.point.toNat
    whole ++ List.replicate (d.point.toNat - whole.length) '0' ++ '.' ::
      (if fraction.isEmpty then ['0'] else fraction)

/-- One digit, the others after a point, and a signed exponent. -/
def scientific (layout : DecimalLayout) (d : ShortestDigits) : List Char :=
  let exponent := d.point - 1
  let written := Nat.toDigits 10 exponent.natAbs
  let mantissa :=
    match d.digits with
    | first :: second :: rest => first :: '.' :: second :: rest
    | short => short
  mantissa ++ 'e' :: (if exponent < 0 then '-' else '+') ::
    (List.replicate (layout.exponentDigits - written.length) '0' ++ written)

def DecimalLayout.text (layout : DecimalLayout) (x : Float) : String :=
  match Binary.ofFloat? x with
  | none => if x.isNaN then "nan" else if x < 0 then "-inf" else "inf"
  | some b =>
    let magnitude :=
      if b.mantissa = 0 then ['0', '.', '0']
      else
        let d := shortestDigits b
        if layout.lowest ≤ d.point - 1 ∧ d.point - 1 ≤ layout.highest then positional d
        else scientific layout d
    String.ofList (if b.negative then '-' :: magnitude else magnitude)

end Targeting.Number
