/-!
# Space

Points, view directions, the origin that a selector may pin, and the box that
spans from it.
-/
namespace Targeting

/-- A point or an extent in world space. -/
structure Point where
  x : Float := 0.0
  y : Float := 0.0
  z : Float := 0.0
deriving DecidableEq, Repr

inductive Axis where
  | x
  | y
  | z
deriving DecidableEq, Repr

namespace Point

instance : Add Point where
  add a b := ⟨a.x + b.x, a.y + b.y, a.z + b.z⟩

instance : Sub Point where
  sub a b := ⟨a.x - b.x, a.y - b.y, a.z - b.z⟩

def distanceSquared (a b : Point) : Float :=
  let d := a - b
  d.x * d.x + d.y * d.y + d.z * d.z

def set (p : Point) (axis : Axis) (value : Float) : Point :=
  match axis with
  | .x => { p with x := value }
  | .y => { p with y := value }
  | .z => { p with z := value }

end Point

/-- A view direction in degrees: pitch is vertical, yaw horizontal. -/
structure Rotation where
  pitch : Float := 0.0
  yaw : Float := 0.0
deriving DecidableEq, Repr

/-- One axis of an origin: a value by itself, or an offset from the base. -/
structure Coordinate where
  value : Float := 0.0
  relative : Bool := false
deriving DecidableEq, Repr

def Coordinate.resolve (c : Coordinate) (base : Float) : Float :=
  if c.relative then base + c.value else c.value

/-- An origin of which some axes are given. -/
structure Anchor where
  x : Option Coordinate := none
  y : Option Coordinate := none
  z : Option Coordinate := none
deriving DecidableEq, Repr

namespace Anchor

def set (a : Anchor) (axis : Axis) (value : Coordinate) : Anchor :=
  match axis with
  | .x => { a with x := some value }
  | .y => { a with y := some value }
  | .z => { a with z := some value }

/-- Axes that were not given are those of the base, which is the world origin if absent. -/
def resolve (a : Anchor) (base : Option Point) : Point :=
  let base := base.getD {}
  let fill (given : Option Coordinate) (own : Float) := (given.map (·.resolve own)).getD own
  ⟨fill a.x base.x, fill a.y base.y, fill a.z base.z⟩

end Anchor

/-- Whether a value lies between `start` and `start + extent` in either direction, the upper end
excluded. An extent of zero spans one unit. -/
def spans (start extent value : Float) : Bool :=
  let finish := start + extent
  let low := if finish < start then finish else start
  let high := if extent == 0.0 then low + 1.0 else if start < finish then finish else start
  low ≤ value && value < high

/-- Whether a position lies in the box from `origin` to `origin + extent`. -/
def withinBox (position origin extent : Point) : Bool :=
  spans origin.x extent.x position.x && spans origin.y extent.y position.y
    && spans origin.z extent.z position.z

end Targeting
