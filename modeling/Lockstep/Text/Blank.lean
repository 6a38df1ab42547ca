/-!
# Blanks

A blank is a character with the Unicode property `White_Space`. `trim` takes the blanks off both
ends of a text and leaves those inside.
-/

namespace Lockstep.Text

/-- The property `White_Space`. -/
def isBlank (c : Char) : Bool :=
  let n := c.toNat
  (0x9 ≤ n && n ≤ 0xD) || n == 0x20 || n == 0x85 || n == 0xA0 || n == 0x1680 ||
    (0x2000 ≤ n && n ≤ 0x200A) || n == 0x2028 || n == 0x2029 || n == 0x202F || n == 0x205F ||
    n == 0x3000

/-- The text without the characters at its end that pass the test. -/
def dropTrailing (p : Char → Bool) (s : List Char) : List Char := (s.reverse.dropWhile p).reverse

/-- The text without blanks at its beginning. -/
def trimStart (s : List Char) : List Char := s.dropWhile isBlank

/-- The text without blanks at its end. -/
def trimEnd (s : List Char) : List Char := dropTrailing isBlank s

/-- The text without blanks at either end. -/
def trim (s : List Char) : List Char := trimEnd (trimStart s)

end Lockstep.Text
