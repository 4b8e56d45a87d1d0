import Targeting.Text.Blank

/-!
# Log levels

The five named levels, their weights and their importance.
-/
namespace Targeting.Log

open Text

inductive Level where
  | debug
  | info
  | warning
  | error
  | critical
deriving DecidableEq, Repr

namespace Level

def all : List Level := [debug, info, warning, error, critical]

def name : Level → String
  | .debug => "DEBUG"
  | .info => "INFO"
  | .warning => "WARNING"
  | .error => "ERROR"
  | .critical => "CRITICAL"

def weight : Level → Int
  | .debug => 10
  | .info => 20
  | .warning => 30
  | .error => 40
  | .critical => 50

/-- Importance runs from 0 to 10. -/
def importance : Level → Nat
  | .debug => 2
  | .info => 4
  | .warning => 6
  | .error => 8
  | .critical => 10

/-- Upper case as far as a level name can tell: the dotless i is an I. -/
def upperChar (c : Char) : Char := if c = 'ı' then 'I' else c.toUpper

/-- The level of a name in any letter case, blanks around it aside. -/
def ofName? (name : String) : Option Level :=
  let plain := String.ofList ((trim name.toList).map upperChar)
  all.find? (·.name = plain)

end Level

/-- The name of a weight; weights without a level are numbered. -/
def weightName (weight : Int) : String :=
  match Level.all.find? (·.weight = weight) with
  | some level => level.name
  | none => if weight = 0 then "NOTSET" else "Level " ++ toString weight

/-- The importance of a level name; a name that is none counts as `INFO`. -/
def importanceOf (name : String) : Nat := ((Level.ofName? name).getD .info).importance

end Targeting.Log
