/-!
# Argument errors

Why one argument of a selector is refused.
-/
namespace Targeting

inductive ArgumentError where
  | unknownKey (key : String)
  | notANumber (key value : String)
  | notAnInteger (key value : String)
  | unknownGameMode (value : String)
  | scoresShape (value : String)
  | itemsShape (value : String)
  | itemsGrammar (value : String)
  | nestedField (field : String)
  | infiniteField
  | undefinedField
deriving DecidableEq, Repr

namespace ArgumentError

def message : ArgumentError → String
  | .unknownKey key => "Unsupported selector argument: " ++ key
  | .notANumber key value => "'" ++ key ++ "' expects a number, got: " ++ value
  | .notAnInteger key value => "'" ++ key ++ "' expects an integer, got: " ++ value
  | .unknownGameMode value => "Unknown game mode: " ++ value
  | .scoresShape _ => "scores value must be '\x7bobjective=range,...\x7d'"
  | .itemsShape _ => "hasitem value must be \"\x7b...\x7d\" or \"[\x7b...\x7d]\""
  | .itemsGrammar _ => "Invalid hasitem value:"
  | .nestedField field => "hasitem field '" ++ field ++ "' must be a scalar"
  | .infiniteField => "cannot convert float infinity to integer"
  | .undefinedField => "cannot convert float NaN to integer"

/-- The text that was refused, where the error is about one text. -/
def subject : ArgumentError → Option String
  | .unknownKey key => some key
  | .notANumber _ value => some value
  | .notAnInteger _ value => some value
  | .unknownGameMode value => some value
  | .scoresShape value => some value
  | .itemsShape value => some value
  | .itemsGrammar value => some value
  | .nestedField _ => none
  | .infiniteField => none
  | .undefinedField => none

end ArgumentError

end Targeting
