import Targeting.Query

/-!
# Selector shapes

A selector is an at sign with one of five letters, the same with an argument
list in brackets, or a bracketed list alone. One line feed may follow.
-/
namespace Targeting.Selector

/-- A selector taken apart. The arguments are absent when there are no brackets. -/
structure Shape where
  symbol : Symbol := .everyone
  arguments : Option (List Char) := none
deriving DecidableEq, Repr

/-- The text between an opened bracket and the closing one at the end. -/
def insideBrackets? (rest : List Char) : Option (List Char) :=
  if rest.getLast? = some ']' then some rest.dropLast else none

/-- The shape of a text, without regard to a line feed after it. -/
def exactShape? (text : List Char) : Option Shape :=
  match text with
  | ['@', letter] => (Symbol.ofLetter? letter).map fun symbol => { symbol }
  | '@' :: letter :: '[' :: rest => do
    let symbol ← Symbol.ofLetter? letter
    let arguments ← insideBrackets? rest
    return { symbol, arguments := some arguments }
  | '[' :: rest => (insideBrackets? rest).map fun arguments => { arguments := some arguments }
  | _ => none

def dropLineFeed (text : List Char) : List Char :=
  if text.getLast? = some '\n' then text.dropLast else text

def shape? (text : List Char) : Option Shape := exactShape? (dropLineFeed text)

end Targeting.Selector
