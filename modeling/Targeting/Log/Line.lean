import Targeting.Log.Calendar
import Targeting.Log.Notice
import Targeting.Number.Binary

/-!
# Log lines

A log line shows the time, the level, the importance and the message, with bars
between them. The importance is given with the record or follows from its
level.
-/
namespace Targeting.Log

structure Record where
  weight : Int
  message : String
  importance : Option Json := none

def Record.ofNotice (notice : Notice) : Record :=
  { weight := notice.level.weight, message := notice.message }

def padded (width : Nat) (text : String) : String :=
  text ++ String.ofList (List.replicate (width - text.length) ' ')

namespace Record

def importanceText (record : Record) : String :=
  match record.importance with
  | none | some .null => toString (importanceOf (weightName record.weight))
  | some given => given.display

def body (record : Record) : String :=
  padded 8 (weightName record.weight) ++ " | " ++ record.importanceText ++ " | " ++ record.message

/-- The line of a record that was made at a time in seconds. -/
def line (record : Record) (seconds : Int) : String :=
  (DateTime.ofSeconds seconds).text ++ " | " ++ record.body

end Record

end Targeting.Log
