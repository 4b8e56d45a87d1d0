/-!
# Sampling by picks

A random choice without replacement whose randomness is given as a list of
picks. The i-th draw takes pick number i, starting over after the last one, and
removes the item at that place of what is left, counted around.
-/
namespace Targeting.Evaluation

variable {α : Type}

/-- The pick of the i-th draw; without picks it is always zero. -/
def pickAt (picks : List Int) (i : Nat) : Int := picks.getD (i % picks.length) 0

/-- Draws `count` items, from draw number `i` on. -/
def drawFrom (picks : List Int) (i : Nat) : Nat → List α → List α
  | 0, _ => []
  | count + 1, items =>
    let place := (pickAt picks i % items.length).toNat
    match items[place]? with
    | none => []
    | some item => item :: drawFrom picks (i + 1) count (items.eraseIdx place)

def sample (picks : List Int) (count : Nat) (items : List α) : List α :=
  drawFrom picks 0 (min count items.length) items

end Targeting.Evaluation
