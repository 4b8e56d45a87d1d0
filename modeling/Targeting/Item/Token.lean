import Targeting.Text.Blank

/-!
# Item tokens

The lexical level of item conditions. A word is a run of characters that may
hold spaces and tabs inside and double quotes anywhere but at the start of a
part; a string runs to the first double quote that is not escaped, on one line.
Between tokens only ASCII blanks may stand.
-/
namespace Targeting.Item

open Text

inductive Token where
  | openBrace
  | closeBrace
  | openBracket
  | closeBracket
  | equals
  | comma
  | word (text : List Char)
  | quoted (raw : List Char)
deriving DecidableEq, Repr

def isGap (c : Char) : Bool := c = ' ' || c = '\t' || c = '\x0c' || c = '\r' || c = '\n'

def mark? (c : Char) : Option Token :=
  match c with
  | '{' => some .openBrace
  | '}' => some .closeBrace
  | '[' => some .openBracket
  | ']' => some .closeBracket
  | '=' => some .equals
  | ',' => some .comma
  | _ => none

def isWordChar (c : Char) : Bool := (mark? c).isNone && !isBlank c

def isWordStart (c : Char) : Bool := isWordChar c && c ≠ '"'

/-- Blanks that may join two parts of one word. -/
def isJoint (c : Char) : Bool := c = ' ' || c = '\t'

/-- Whether another part of a word follows after some joints. -/
def partFollows (cs : List Char) : Bool :=
  match cs.dropWhile isJoint with
  | [] => false
  | c :: _ => isWordStart c

/-- The rest of a word that has begun, and what follows the word. -/
def wordRest : List Char → List Char × List Char
  | [] => ([], [])
  | c :: cs =>
    if isWordChar c || (isJoint c && partFollows cs) then
      let (word, tail) := wordRest cs
      (c :: word, tail)
    else ([], c :: cs)

/-- The raw content of a string that has been opened, and what follows its closing quote.
`escaped` says that an odd number of backslashes has just been read. -/
def stringRest? (escaped : Bool) : List Char → Option (List Char × List Char)
  | [] => none
  | c :: cs =>
    if c = '"' && !escaped then some ([], cs)
    else if c = '\n' then none
    else (stringRest? (c = '\\' && !escaped) cs).map fun (raw, tail) => (c :: raw, tail)

theorem wordRest_length_le (cs : List Char) : (wordRest cs).2.length ≤ cs.length := by
  induction cs with
  | nil => simp [wordRest]
  | cons c cs ih =>
    unfold wordRest
    split
    · simp only [List.length_cons]
      omega
    · simp

theorem stringRest?_length_lt {escaped : Bool} {cs raw tail : List Char}
    (found : stringRest? escaped cs = some (raw, tail)) : tail.length < cs.length := by
  induction cs generalizing escaped raw tail with
  | nil => simp [stringRest?] at found
  | cons c cs ih =>
    unfold stringRest? at found
    split at found
    · cases found
      simp
    · split at found
      · simp at found
      · obtain ⟨⟨inner, rest⟩, hit, same⟩ := Option.map_eq_some_iff.mp found
        cases same
        have shorter := ih hit
        simp only [List.length_cons]
        omega

/-- The tokens of a text, if it consists of tokens and gaps. -/
def tokens? (cs : List Char) : Option (List Token) :=
  match cs with
  | [] => some []
  | c :: rest =>
    if isGap c then tokens? rest
    else match mark? c with
      | some mark => (tokens? rest).map (mark :: ·)
      | none =>
        -- A quote at the start of a word always opens a string.
        if c = '"' then
          match _closed : stringRest? false rest with
          | none => none
          | some (raw, tail) => (tokens? tail).map (.quoted raw :: ·)
        else if isWordStart c then
          (tokens? (wordRest rest).2).map (.word (c :: (wordRest rest).1) :: ·)
        else none
termination_by cs.length
decreasing_by
  · simp
  · simp
  · have shorter := stringRest?_length_lt _closed
    simp only [List.length_cons]
    omega
  · have shorter := wordRest_length_le rest
    simp only [List.length_cons]
    omega

end Targeting.Item
