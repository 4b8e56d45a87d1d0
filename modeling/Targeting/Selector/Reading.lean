import Targeting.Argument.Reading
import Targeting.Selector.Shape

/-!
# Selectors

A selector is read once and may then choose entities any number of times. A
text without the shape of a selector reads as everyone.
-/
namespace Targeting

/-- A symbol with its query, and the trimmed text they were read from. -/
structure Selector where
  symbol : Symbol := .everyone
  query : Query := {}
  source : String := ""
deriving DecidableEq, Repr

namespace Selector

/-- Reads a selector; no text reads as the empty one. -/
def read (given : Option String) : Logged Selector :=
  let text := Text.trim (given.getD "").toList
  let source := String.ofList text
  match shape? text with
  | none => do
    Logged.note (.fellBack source)
    return { source }
  | some { symbol, arguments := none } => pure { symbol, source }
  | some { symbol, arguments := some [] } => pure { symbol, source }
  | some { symbol, arguments := some arguments } => do
    let query ← Query.read arguments source
    return { symbol, query, source }

end Selector

end Targeting
