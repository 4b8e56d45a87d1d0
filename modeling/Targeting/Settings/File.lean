import Targeting.Error
import Targeting.Settings.Reading

/-!
# Settings files

A settings file holds one json object in UTF-8. Whatever keeps it from being read is raised as a
fault where it is met. Validating a file catches faults by their class and answers a verdict;
loading one answers its settings, or raises a report of why there are none.

A message goes on with words that come with the fault. They are not made here.
-/
namespace Targeting

/-- What stands at the path of a settings file. -/
inductive SettingsFile where
  | missing
  /-- Behind a directory that may not be searched. -/
  | hidden
  | directory
  /-- Something that may not be opened. -/
  | locked
  | content (bytes : ByteArray)

inductive LoadFault where
  | inaccessible
  | notUnicode
  | malformed
  | oversizedNumber (digits : Nat)
  | invalid (errors : List FieldError)
deriving DecidableEq, Repr

/-- The classes by which faults are caught. -/
inductive FaultClass where
  | json
  | value
  | system
deriving DecidableEq, Repr

namespace LoadFault

/-- A fault of json is also one of a value. -/
def classes : LoadFault → List FaultClass
  | .inaccessible => [.system]
  | .notUnicode => [.value]
  | .malformed => [.json, .value]
  | .oversizedNumber _ => [.value]
  | .invalid _ => [.value]

def ofJson : Json.ReadFault → LoadFault
  | .malformed => .malformed
  | .tooManyDigits digits => .oversizedNumber digits

end LoadFault

/-- What validation says of a file. -/
structure Verdict where
  valid : Bool
  message : Option String
  settings : Option Settings
deriving DecidableEq, Repr

namespace Verdict

def accepted (settings : Settings) : Verdict := ⟨true, none, some settings⟩

def refused (message : String) : Verdict := ⟨false, some message, none⟩

/-- The message, if there is one with any text. -/
def reason (v : Verdict) : String :=
  match v.message with
  | some message => if message.isEmpty then "Invalid configuration" else message
  | none => "Invalid configuration"

end Verdict

namespace SettingsFile

def isThere : SettingsFile → Except LoadFault Bool
  | .missing => return false
  | .hidden => throw .inaccessible
  | .directory | .locked | .content _ => return true

/-- Opens the file and reads all of it. -/
def bytes : SettingsFile → Except LoadFault ByteArray
  | .content bytes => return bytes
  | .missing | .hidden | .directory | .locked => throw .inaccessible

def decode (bytes : ByteArray) : Except LoadFault String :=
  match String.fromUTF8? bytes with
  | some text => .ok text
  | none => .error .notUnicode

/-- The verdict on the value that a file was read as. -/
def judge : Json → Except LoadFault Verdict
  | .object fields => ((Settings.read fields).mapError .invalid).map .accepted
  | _ => .ok (.refused "Configuration root must be a JSON object")

/-- The verdict on a file, with no fault caught. -/
def examine (path : String) (file : SettingsFile) : Except LoadFault Verdict := do
  if !(← file.isThere) then return .refused ("Configuration file not found: " ++ path)
  let text ← decode (← file.bytes)
  judge (← (Json.parse text).mapError .ofJson)

/-- What is caught, and how the message of the verdict begins. The first that fits is taken. -/
def handlers : List (FaultClass × String) :=
  [(.json, "Invalid JSON: "),
   (.value, "Validation error: "),
   (.system, "Unreadable configuration: ")]

/-- A fault that no handler fits is raised again. -/
def handle (words : LoadFault → String) (fault : LoadFault) : Except LoadFault Verdict :=
  match handlers.find? fun handler => handler.1 ∈ fault.classes with
  | some (_, heading) => return .refused (heading ++ words fault)
  | none => throw fault

def validate (words : LoadFault → String) (path : String) (file : SettingsFile) :
    Except LoadFault Verdict :=
  tryCatch (file.examine path) (handle words)

end SettingsFile

/-- What loading settings raises. -/
inductive LoadError where
  | reported (report : ErrorReport)
  /-- A fault that validation did not catch. -/
  | escaped (fault : LoadFault)

/-- The settings of the file at a path, or the defaults without a path. -/
def Settings.load (words : LoadFault → String) :
    Option (String × SettingsFile) → Except LoadError Settings
  | none => return {}
  | some (path, file) => do
    let verdict ← (file.validate words path).mapError .escaped
    match verdict.valid, verdict.settings with
    | true, some settings => return settings
    | _, _ => throw (.reported (.ofLoading verdict.reason path))

end Targeting
