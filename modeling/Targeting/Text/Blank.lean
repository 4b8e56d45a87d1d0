import Targeting.Text.Interval

/-!
# Blanks

Two classes of separating characters. A *space* has the Unicode property
White_Space. A *blank* is a space or one of the four information separators
U+001C to U+001F. Words and argument tokens are trimmed of blanks; number
literals are trimmed of spaces only.
-/
namespace Targeting.Text

def spaceTable : Intervals :=
  [(0x9, 0xD), (0x20, 0x20), (0x85, 0x85), (0xA0, 0xA0), (0x1680, 0x1680), (0x2000, 0x200A),
   (0x2028, 0x2029), (0x202F, 0x202F), (0x205F, 0x205F), (0x3000, 0x3000)]

def isSpace (c : Char) : Bool := spaceTable.holds c

/-- A space or an information separator. -/
def isBlank (c : Char) : Bool := isSpace c || (0x1C ≤ c.toNat && c.toNat ≤ 0x1F)

/-- The text without the characters of a class at either end. -/
def trimWith (class? : Char → Bool) (cs : List Char) : List Char :=
  ((cs.dropWhile class?).reverse.dropWhile class?).reverse

def trim (cs : List Char) : List Char := trimWith isBlank cs

def trimSpaces (cs : List Char) : List Char := trimWith isSpace cs

theorem isBlank_of_isSpace {c : Char} (space : isSpace c = true) : isBlank c = true := by
  simp [isBlank, space]

@[simp] theorem trim_nil : trim [] = [] := rfl

end Targeting.Text
