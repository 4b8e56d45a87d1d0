import Targeting.Argument.Error
import Targeting.Json.Value
import Targeting.Resolution

/-!
# Error reports

The common form in which errors are handed to callers: a kind with a fixed
code, a message, the text or name that the error is about, and details.
-/
namespace Targeting

inductive ErrorKind where
  | general (code : Option String)
  | shape
  | argument
  | resolution
  | configuration
deriving DecidableEq, Repr

def ErrorKind.code : ErrorKind → Option String
  | .general code => code
  | .shape => some "SYNTAX_ERROR"
  | .argument => some "ARGUMENT_ERROR"
  | .resolution => some "RESOLUTION_ERROR"
  | .configuration => some "CONFIGURATION_ERROR"

structure ErrorReport where
  kind : ErrorKind
  message : String
  subject : Option String := none
  details : List (String × Json) := []

namespace ErrorReport

def ofShape (text : String) : ErrorReport :=
  { kind := .shape, message := "Invalid selector: " ++ text, subject := some text }

def ofArgument (error : ArgumentError) : ErrorReport :=
  { kind := .argument, message := error.message, subject := error.subject }

/-- A settings file that gives no settings; the details name its path. -/
def ofLoading (message path : String) : ErrorReport :=
  { kind := .configuration, message, details := [("path", .text path)] }

end ErrorReport

end Targeting
