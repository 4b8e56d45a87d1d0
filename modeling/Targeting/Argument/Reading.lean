import Targeting.Argument.Constraint

/-!
# Reading arguments

An argument list becomes a query, token by token. A token that is no assignment
and one whose constraint is refused are reported and left out; reading never
fails.
-/
namespace Targeting.Query

open Argument

/-- Adds the constraint of one token, if it has one. `context` names the list in reports. -/
def addToken (context : String) (q : Query) (token : List Char) : Logged Query :=
  let (key, value) := splitAssignment token
  if key.isEmpty then do
    Logged.note (.malformedArgument (String.ofList token) context)
    return q
  else do
    match ← (Constraint.ofArgument key value).run with
    | .ok constraint => return q.add constraint
    | .error error =>
      Logged.note (.skippedArgument (String.ofList token) context error)
      return q

/-- The query of an argument list. Reports name the selector, or the list itself without one. -/
def read (arguments : List Char) (selector : String) : Logged Query :=
  let context := if selector.isEmpty then String.ofList arguments else selector
  (Argument.split arguments).foldlM (addToken context) {}

end Targeting.Query
