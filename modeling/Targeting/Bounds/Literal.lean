import Targeting.Bounds
import Targeting.Number.Integer

/-!
# Range literals

`N..M`, `N..` and `..M` spell bounds and a bare `N` spells the range of that
one number. The numbers are whole, with at most a minus sign.
-/
namespace Targeting.IntRange

open Text Number

def bound? : List Char → Option Int
  | '-' :: digits => signed? true digits
  | digits => signed? false digits

/-- What stands before and after the first two points in a row. -/
def splitPoints? : List Char → Option (List Char × List Char)
  | [] => none
  | '.' :: '.' :: rest => some ([], rest)
  | c :: rest => (splitPoints? rest).map fun (before, after) => (c :: before, after)

def optionalBound? (cs : List Char) : Option (Option Int) :=
  if cs.isEmpty then some none else (bound? cs).map some

def parse? (cs : List Char) : Option IntRange :=
  let text := trim cs
  match splitPoints? text with
  | none => (bound? text).map Bounds.exactly
  | some (before, after) => do
    let low ← optionalBound? before
    let high ← optionalBound? after
    return ⟨low, high⟩

end Targeting.IntRange
