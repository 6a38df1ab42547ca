import Lockstep.Text.Unprintable

/-!
# Quotations

Texts of unknown content are shown between double quotes, so that nothing in them is invisible or
ends the quotation: the quote and the backslash get a backslash, tab, line feed, carriage return
and NUL their letter, and every other character that a reader cannot see its number.
-/

namespace Lockstep.Quoted

/-- The number in lower case hexadecimal digits, without leading zeros. -/
def hex (n : Nat) : List Char := Nat.toDigits 16 n

/-- One character inside a quotation. -/
def escape (c : Char) : List Char :=
  if c = '"' then ['\\', '"']
  else if c = '\\' then ['\\', '\\']
  else if c = '\t' then ['\\', 't']
  else if c = '\n' then ['\\', 'n']
  else if c = '\r' then ['\\', 'r']
  else if c = '\x00' then ['\\', '0']
  else if Unprintable.holds c then ['\\', 'u', '\x7b'] ++ hex c.toNat ++ ['\x7d']
  else [c]

/-- The text between double quotes. -/
def quote (s : String) : String :=
  String.ofList ('"' :: (s.toList.flatMap escape ++ ['"']))

end Lockstep.Quoted
