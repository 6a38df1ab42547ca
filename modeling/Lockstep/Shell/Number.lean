import Lockstep.Shell.Command

/-!
# Integers in texts

An integer may have blanks and a sign in front. Where the base is left open, `0x` begins a number to
the base sixteen, `0b` one to the base two, and `0` one to the base eight. What follows the digits is
handed back. A word has 64 bits; what does not fit into it is left to those who ask.
-/

namespace Lockstep.Shell

/-- The number of values of a word. -/
def wordCount : Int := 18446744073709551616

/-- The largest integer of a word with a sign. -/
def largest : Int := 9223372036854775807

/-- The smallest integer of a word with a sign. -/
def smallest : Int := -9223372036854775808

/-- The integer of a word with a sign that is the same modulo the number of words. -/
def wrap (n : Int) : Int := Int.bmod n 18446744073709551616

/-- The word that an integer is as one without a sign. -/
def word (n : Int) : Nat := (n % wordCount).toNat

/-- Blanks in front of numbers. -/
def isSpace (c : Char) : Bool := c == ' ' || (9 ≤ c.toNat && c.toNat ≤ 13)

/-- A digit below eight. -/
def isOctal (c : Char) : Bool := '0' ≤ c && c ≤ '7'

/-- A digit below two. -/
def isBinary (c : Char) : Bool := c == '0' || c == '1'

/-- A digit to the base sixteen. -/
def isHexadecimal (c : Char) : Bool :=
  c.isDigit || ('a' ≤ c && c ≤ 'f') || ('A' ≤ c && c ≤ 'F')

/-- The value of a digit. -/
def digitValue (c : Char) : Nat :=
  if c.isDigit then c.toNat - 48 else c.toLower.toNat - 87

/-- The number that digits to a base stand for. -/
def digitsValue (base : Nat) (digits : Text) : Nat :=
  digits.foldl (fun n d => n * base + digitValue d) 0

/-- An integer at the front of a text. -/
structure Leading where
  value : Int
  /-- What follows it; all of the text if there is none. -/
  rest : Text
  /-- Whether there is an integer. -/
  isThere : Bool

/-- The digits at the front of a text with their base, and what follows them. -/
def leadingDigits (openBase : Bool) (t : Text) : Nat × Text × Text :=
  let octal := t.takeWhile isOctal
  let decimal := t.takeWhile Char.isDigit
  match openBase, t with
  | true, '0' :: x :: d :: rest =>
    if (x == 'x' || x == 'X') && isHexadecimal d then
      let digits := (d :: rest).takeWhile isHexadecimal
      (16, digits, (d :: rest).drop digits.length)
    else if (x == 'b' || x == 'B') && isBinary d then
      let digits := (d :: rest).takeWhile isBinary
      (2, digits, (d :: rest).drop digits.length)
    else (8, octal, t.drop octal.length)
  | true, '0' :: _ => (8, octal, t.drop octal.length)
  | _, _ => (10, decimal, t.drop decimal.length)

/-- The integer that a text begins with. -/
def leadingInteger (openBase : Bool) (t : Text) : Leading :=
  let body := t.dropWhile isSpace
  let (negative, body) :=
    match body with
    | '-' :: rest => (true, rest)
    | '+' :: rest => (false, rest)
    | _ => (false, body)
  let (base, digits, rest) := leadingDigits openBase body
  if digits.isEmpty then ⟨0, t, false⟩
  else
    let n : Int := digitsValue base digits
    ⟨if negative then -n else n, rest, true⟩

/-- The integer that a whole text is, blanks aside; a blank text is zero where the base is open. -/
def integer? (openBase : Bool) (t : Text) : Option Int :=
  let found := leadingInteger openBase t
  let isFit := smallest ≤ found.value && found.value ≤ largest
  if isFit && (found.isThere || openBase) && found.rest.all isSpace then some found.value else none

/-- The largest number that counts something. -/
def largestCount : Nat := 2147483647

/-- The number that an argument of a command is. -/
def count? (t : Text) : Option Nat :=
  match integer? false t with
  | some n => if 0 ≤ n && n ≤ largestCount then some n.toNat else none
  | none => none

end Lockstep.Shell
