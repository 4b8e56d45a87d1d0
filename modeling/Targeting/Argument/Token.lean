import Targeting.Text.Blank

/-!
# Argument tokens

The text between the brackets of a selector is split at its level commas: those
where as many braces and brackets have been closed as opened. Braces and
brackets are counted apart and may go below zero; nothing is ever refused here.
-/
namespace Targeting.Argument

open Text

/-- How many braces and brackets are open. -/
structure Depth where
  braces : Int := 0
  brackets : Int := 0
deriving DecidableEq, Repr

namespace Depth

def isLevel (d : Depth) : Bool := d.braces = 0 && d.brackets = 0

def step (d : Depth) (c : Char) : Depth :=
  match c with
  | '{' => { d with braces := d.braces + 1 }
  | '}' => { d with braces := d.braces - 1 }
  | '[' => { d with brackets := d.brackets + 1 }
  | ']' => { d with brackets := d.brackets - 1 }
  | _ => d

def after (d : Depth) (cs : List Char) : Depth := cs.foldl step d

end Depth

/-- The stretches between level commas, blanks included. There is always at least one. -/
def pieces (depth : Depth) : List Char → List (List Char)
  | [] => [[]]
  | c :: rest =>
    if c = ',' && depth.isLevel then [] :: pieces depth rest
    else match pieces (depth.step c) rest with
      -- Never so, as there is always a piece.
      | [] => [[c]]
      | first :: others => (c :: first) :: others

/-- The tokens of an argument list: trimmed pieces, without the empty ones. -/
def split (text : List Char) : List (List Char) :=
  ((pieces {} text).map trim).filter fun token => !token.isEmpty

/-- The key and the value around the first equals sign; both are empty if there is none. -/
def splitAssignment (token : List Char) : List Char × List Char :=
  match token.dropWhile (· ≠ '=') with
  | [] => ([], [])
  | _ :: value => (trim (token.takeWhile (· ≠ '=')), trim value)

/-- The text without the double quotes around it, if both are there. -/
def unquote (cs : List Char) : List Char :=
  match cs with
  | '"' :: rest => if rest.getLast? = some '"' then rest.dropLast else cs
  | _ => cs

/-- Whether a value is negated, and the value without its exclamation mark and quotes. -/
def splitNegation (cs : List Char) : Bool × List Char :=
  match unquote cs with
  | '!' :: rest => (true, unquote (trim rest))
  | value => (false, value)

theorem pieces_ne_nil (depth : Depth) (text : List Char) : pieces depth text ≠ [] := by
  cases text with
  | nil => simp [pieces]
  | cons c rest =>
    unfold pieces
    split
    · simp
    · split <;> simp

end Targeting.Argument
