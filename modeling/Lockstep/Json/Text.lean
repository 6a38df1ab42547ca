import Lockstep.Json.Fault
import Lockstep.Text.Hexadecimal

/-!
# Strings of JSON texts

Between its quotes a string holds any character but a quote, a backslash and the controls below
U+0020, which are written with a backslash. An escape by number names one unit of sixteen bits;
a character above U+FFFF takes two, and neither of the two may stand alone. The reader is a
machine that takes one character at a time.
-/

namespace Lockstep.Json

/-- The character of a letter after a backslash. -/
def shortEscape? (c : Char) : Option Char :=
  if c = '"' ∨ c = '\\' ∨ c = '/' then some c
  else if c = 'b' then some '\x08'
  else if c = 'f' then some '\x0c'
  else if c = 'n' then some '\n'
  else if c = 'r' then some '\r'
  else if c = 't' then some '\t'
  else none

/-- What has been read of an escape. -/
inductive EscapeState where
  /-- No escape is open. -/
  | plain
  /-- A backslash has been read. -/
  | opened
  /-- `owed` digits of a unit are to come; `high` is the unit before it that waits for its pair. -/
  | digits (high : Option Nat) (owed : Nat) (value : Nat)
  /-- A unit that begins a pair has been read; a backslash must come. -/
  | paired (high : Nat)
  /-- Its backslash has been read; a `u` must come. -/
  | pairedOpened (high : Nat)
  deriving Repr, DecidableEq

/-- Whether the unit begins a pair. -/
def isHigh (unit : Nat) : Bool := 0xD800 ≤ unit && unit ≤ 0xDBFF

/-- Whether the unit ends a pair. -/
def isLow (unit : Nat) : Bool := 0xDC00 ≤ unit && unit ≤ 0xDFFF

/-- The character of a pair. -/
def ofPair (high low : Nat) : Char :=
  Char.ofNat ((high - 0xD800) * 0x400 + (low - 0xDC00) + 0x10000)

/--
Reads on in a string; `done` holds its characters so far, last first. The digits of a unit are
four bytes, whatever they are: a fault in them lies after the fourth, or at the end of the text.
-/
def readString (state : EscapeState) (done : List Char) :
    List Char → Except Fault (List Char × List Char)
  | [] => .error (.before .endInString [])
  | c :: rest =>
    match state with
    | .plain =>
      if c = '"' then .ok (done.reverse, rest)
      else if c = '\\' then readString .opened done rest
      else if c.toNat < 0x20 then .error (.first .controlCharacter (c :: rest))
      else readString .plain (c :: done) rest
    | .opened =>
      if c = 'u' then readString (.digits none 4 0) done rest
      else
        match shortEscape? c with
        | some d => readString .plain (d :: done) rest
        | none => .error (.first .badEscape (c :: rest))
    | .digits high owed value =>
      match Hexadecimal.value? c with
      | none =>
        let left := Utf8.size (c :: rest)
        .error (if left < owed then ⟨.endInString, 0⟩ else ⟨.badEscape, left - owed⟩)
      | some d =>
        let unit := value * 16 + d
        if owed > 1 then readString (.digits high (owed - 1) unit) done rest
        else
          match high with
          | none =>
            if isLow unit then .error (.before .loneSurrogate rest)
            else if isHigh unit then readString (.paired unit) done rest
            else readString .plain (Char.ofNat unit :: done) rest
          | some first =>
            if isLow unit then readString .plain (ofPair first unit :: done) rest
            else .error (.before .loneSurrogate rest)
    | .paired high =>
      if c = '\\' then readString (.pairedOpened high) done rest
      else .error (.first .endOfEscape (c :: rest))
    | .pairedOpened high =>
      if c = 'u' then readString (.digits (some high) 4 0) done rest
      else .error (.first .endOfEscape (c :: rest))

/-- A character between the quotes of a string. -/
def escape (c : Char) : List Char :=
  if c = '"' then ['\\', '"']
  else if c = '\\' then ['\\', '\\']
  else if c = '\x08' then ['\\', 'b']
  else if c = '\x0c' then ['\\', 'f']
  else if c = '\n' then ['\\', 'n']
  else if c = '\r' then ['\\', 'r']
  else if c = '\t' then ['\\', 't']
  else if c.toNat < 0x20 then
    ['\\', 'u', '0', '0', Hexadecimal.digit (c.toNat / 16), Hexadecimal.digit (c.toNat % 16)]
  else [c]

/-- A text as a JSON string. -/
def renderString (s : List Char) : List Char := '"' :: (s.flatMap escape ++ ['"'])

end Lockstep.Json
