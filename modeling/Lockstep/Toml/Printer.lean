import Lockstep.Decimal.Numeral
import Lockstep.Text.Hexadecimal
import Lockstep.Toml.Text

/-!
# Writing TOML strings

A string is written in the plainest form that shows it as it is: between double quotes, between
single quotes, over several lines between three double quotes, between three single quotes. Where
none of these does, it is written between double quotes with escapes, over several lines if it has
any.
-/

namespace Lockstep.Toml

/-- A control character that cannot stand for itself in any form. -/
def isControl (c : Char) : Bool := !isStringChar c && c ≠ '\n'

/-- The longest run of a character. -/
def longestRun (c : Char) (s : List Char) : Nat :=
  let step (runs : Nat × Nat) (d : Char) : Nat × Nat :=
    let now := if d = c then runs.1 + 1 else 0
    (now, max now runs.2)
  (s.foldl step (0, 0)).2

/-- The form in which a string is written. -/
def formFor (s : List Char) : Form :=
  let controls := s.any isControl
  let lines := s.contains '\n'
  let backslash := s.contains '\\'
  if !controls && !backslash && !s.contains '"' && !lines then .basic
  else if !controls && !s.contains '\'' && !lines then .literal
  else if !controls && !backslash && longestRun '"' s ≤ 2 then .longBasic
  else if !controls && longestRun '\'' s ≤ 2 then .longLiteral
  else if lines then .longBasic
  else .basic

/-- A character with a backslash. -/
def escape (c : Char) : List Char :=
  if c = '"' then ['\\', '"']
  else if c = '\\' then ['\\', '\\']
  else if c = '\x08' then ['\\', 'b']
  else if c = '\t' then ['\\', 't']
  else if c = '\n' then ['\\', 'n']
  else if c = '\x0c' then ['\\', 'f']
  else if c = '\r' then ['\\', 'r']
  else
    ['\\', 'u', '0', '0', Hexadecimal.upperDigit (c.toNat / 16),
      Hexadecimal.upperDigit (c.toNat % 16)]

/-- Text between double quotes; `run` is how many quotes stand for themselves just before it. -/
def escapeAll (long : Bool) (run : Nat) : List Char → List Char
  | [] => []
  | c :: rest =>
    if c = '"' then
      if long && run < 2 then c :: escapeAll long (run + 1) rest
      else escape c ++ escapeAll long 0 rest
    else if c = '\n' && long then c :: escapeAll long 0 rest
    else if c = '\\' || c = '\t' || !isStringChar c then escape c ++ escapeAll long 0 rest
    else c :: escapeAll long 0 rest

/-- A string as a value. -/
def renderString (s : List Char) : List Char :=
  let f := formFor s
  let quotes := List.replicate (if f.long then 3 else 1) f.quote
  let first := if f.long && s.contains '\n' then ['\n'] else []
  let body := if f.escapes then escapeAll f.long 0 s else s
  quotes ++ first ++ body ++ quotes

/-- A key with its value on a line. -/
def renderPair (key : String) (value : List Char) : List Char :=
  key.toList ++ " = ".toList ++ value ++ ['\n']

end Lockstep.Toml
