import Targeting.Argument.Error
import Targeting.Log.Level
import Targeting.Resolution
import Targeting.Json.Display
import Targeting.Text.Quoted

/-!
# Notices

What the library reports while it works. A notice states what happened; its
level, its topic and its wording follow from that.
-/
namespace Targeting

/-- The part of the library that reports. -/
inductive Topic where
  | arguments
  | items
  | filters
  | evaluation
  | messages
deriving DecidableEq, Repr

def Topic.name : Topic → String
  | .arguments => "selector.parser"
  | .items => "selector.item_conditions"
  | .filters => "selector.filters"
  | .evaluation => "selector.executor"
  | .messages => "rawtext.formatter"

inductive Notice where
  | fellBack (selector : String)
  | malformedArgument (token context : String)
  | skippedArgument (token context : String) (error : ArgumentError)
  | zeroCount
  | malformedScore (entry : String)
  | openScore (entry : String)
  | unknownItemFields (names : List String)
  | scoreUnavailable (entity : String) (error : ResolutionError)
  | choseNothing (selector : Option String) (error : ResolutionError)
  | selectorFailed (selector : String) (failure : Failure)
  | holderFailed (holder : String) (failure : Failure)
  | scoreFailed (holder objective : String) (failure : Failure)
  | scoreboardMissing (holder : String)
deriving DecidableEq, Repr

namespace Notice

def topic : Notice → Topic
  | .fellBack _ => .arguments
  | .malformedArgument _ _ => .arguments
  | .skippedArgument _ _ _ => .arguments
  | .zeroCount => .arguments
  | .malformedScore _ => .arguments
  | .openScore _ => .arguments
  | .unknownItemFields _ => .items
  | .scoreUnavailable _ _ => .filters
  | .choseNothing _ _ => .evaluation
  | .selectorFailed _ _ => .messages
  | .holderFailed _ _ => .messages
  | .scoreFailed _ _ _ => .messages
  | .scoreboardMissing _ => .messages

/-- Details of an evaluation are for debugging; everything skipped or failed is a warning. -/
def level : Notice → Log.Level
  | .zeroCount => .debug
  | .unknownItemFields _ => .debug
  | .scoreUnavailable _ _ => .debug
  | _ => .warning

def message : Notice → String
  | .fellBack selector => "Invalid selector: " ++ selector ++ "; falling back to @e"
  | .malformedArgument token context =>
    "Invalid selector argument " ++ Text.quoted token ++ " in " ++ context
  | .skippedArgument token context error =>
    "Skipping selector argument " ++ Text.quoted token ++ " in " ++ context ++ ": " ++ error.message
  | .zeroCount => "Ignoring c=0"
  | .malformedScore entry => "Skipping malformed score entry: " ++ entry
  | .openScore entry => "Skipping score entry without a usable range: " ++ entry
  | .unknownItemFields names => "Ignoring unknown hasitem fields: " ++ ", ".intercalate names
  | .scoreUnavailable entity error => "Score filter failed for " ++ entity ++ ": " ++ error.message
  | .choseNothing selector error =>
    "Selector " ++ selector.getD absentWord ++ " resolved to nothing: " ++ error.message
  | .selectorFailed selector failure =>
    "Error resolving selector " ++ selector ++ ": " ++ failure.message
  | .holderFailed holder failure =>
    "Error resolving score holder " ++ holder ++ ": " ++ failure.message
  | .scoreFailed holder objective failure =>
    "Error retrieving score for " ++ holder ++ " on " ++ objective ++ ": " ++ failure.message
  | .scoreboardMissing holder => "No scoreboard to resolve score of " ++ holder

end Notice

end Targeting
