/-!
# Order by key

Sorting by a floating-point key, smallest first. A leading run that already
rises, or strictly falls and is turned around, is kept; each further item goes
into the sorted part by bisection, after the items with an equal key. Items
with equal keys thus keep their order, and keys that compare with nothing still
end in a definite place.
-/
namespace Targeting.Evaluation

variable {α : Type}

abbrev KeyedItem (α : Type) := Float × α

/-- Where a key goes among the positions from `low` to `high`, both included, of a sorted list. -/
def bisect (key : Float) (sorted : Array (KeyedItem α)) (low high : Nat) : Nat :=
  if _within : low < high then
    let middle := (low + high) / 2
    match sorted[middle]? with
    | none => low
    | some item =>
      -- Equal keys go to the right of each other, and so do keys that compare with nothing.
      if key < item.1 then bisect key sorted low middle else bisect key sorted (middle + 1) high
  else low
termination_by high - low
decreasing_by
  · omega
  · omega

def insertSorted (sorted : List (KeyedItem α)) (item : KeyedItem α) : List (KeyedItem α) :=
  sorted.insertIdx (bisect item.1 sorted.toArray 0 sorted.length) item

/-- How many further items keep falling below the one before. -/
def fallingRun (last : Float) : List (KeyedItem α) → Nat
  | [] => 0
  | item :: rest => if item.1 < last then fallingRun item.1 rest + 1 else 0

/-- How many further items stay at or above the one before. -/
def risingRun (last : Float) : List (KeyedItem α) → Nat
  | [] => 0
  | item :: rest => if item.1 < last then 0 else risingRun item.1 rest + 1

/-- The sorted leading run, and the items after it. -/
def leadingRun (items : List (KeyedItem α)) : List (KeyedItem α) × List (KeyedItem α) :=
  match items with
  | [] => ([], [])
  | [item] => ([item], [])
  | first :: second :: rest =>
    if second.1 < first.1 then
      let length := fallingRun second.1 rest + 2
      ((items.take length).reverse, items.drop length)
    else
      let length := risingRun second.1 rest + 2
      (items.take length, items.drop length)

def sortUp (items : List (KeyedItem α)) : List (KeyedItem α) :=
  -- The items behind the run are inserted into it one by one.
  let (run, rest) := leadingRun items
  rest.foldl insertSorted run

/-- The items by falling key; equal keys keep their order here too. -/
def sortDown (items : List (KeyedItem α)) : List (KeyedItem α) := (sortUp items.reverse).reverse

end Targeting.Evaluation
