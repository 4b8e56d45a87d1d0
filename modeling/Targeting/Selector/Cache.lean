import Targeting.Selector.Reading

/-!
# The selector cache

Selectors that have been read, most recently used first. A text is looked up
exactly as given, blanks included; when the cache is full the selector that was
not used for the longest time is forgotten.
-/
namespace Targeting.Selector

structure Cache where
  entries : List (String × Selector) := []

namespace Cache

def capacity : Nat := 256

/-- The entry of a text moved to the front, where it is if the text is new. -/
def touch (cache : Cache) (text : String) (selector : Selector) : Cache :=
  { entries := ((text, selector) :: Keyed.remove text cache.entries).take capacity }

/-- The selector of a text, read only if the cache does not hold it. -/
def fetch (cache : Cache) (given : Option String) : Logged (Selector × Cache) :=
  let text := given.getD ""
  match Keyed.get? text cache.entries with
  | some selector => pure (selector, cache.touch text selector)
  | none => do
    let selector ← read (some text)
    return (selector, cache.touch text selector)

end Cache

end Targeting.Selector
