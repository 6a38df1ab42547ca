import Lockstep.Text.Hexadecimal
import Lockstep.Toml.Fault

/-!
# Strings of TOML documents

A string stands between quotes of one kind. Double quotes allow escapes with a backslash, single
quotes do not; three quotes instead of one allow line feeds and up to two quotes in a row. The
reader is a machine that takes one character at a time, the same for all four forms.
-/

namespace Lockstep.Toml

/-- A form of strings. -/
structure Form where
  quote : Char
  /-- Whether a backslash begins an escape. -/
  escapes : Bool
  /-- Whether the string stands between three quotes, so that it may have lines. -/
  long : Bool
  deriving Repr, DecidableEq

namespace Form

/-- One line with escapes. -/
def basic : Form := ⟨'"', true, false⟩

/-- One line as it is. -/
def literal : Form := ⟨'\'', false, false⟩

/-- Several lines with escapes. -/
def longBasic : Form := ⟨'"', true, true⟩

/-- Several lines as they are. -/
def longLiteral : Form := ⟨'\'', false, true⟩

end Form

/-- A character that may stand for itself: a tab, or none of the ASCII controls. -/
def isStringChar (c : Char) : Bool := c = '\t' || (c.toNat ≥ 0x20 && c.toNat ≠ 0x7F)

/-- A space or a tab. -/
def isSpace (c : Char) : Bool := c = ' ' || c = '\t'

/-- The character of a letter after a backslash. -/
def shortEscape? (c : Char) : Option Char :=
  if c = '"' ∨ c = '\\' then some c
  else if c = 'b' then some '\x08'
  else if c = 't' then some '\t'
  else if c = 'n' then some '\n'
  else if c = 'f' then some '\x0c'
  else if c = 'r' then some '\r'
  else none

/-- Whether the number is that of a character. -/
def isScalar (n : Nat) : Bool := n < 0xD800 || (0xDFFF < n && n < 0x110000)

/-- How far the reader of a string has come. -/
inductive StringState where
  | plain
  /-- A backslash has been read. -/
  | opened
  /-- So many digits of a number are to come. -/
  | digits (owed value : Nat)
  /-- A backslash at the end of a line: blanks are left out, and line feeds once one was read. -/
  | folding (crossed : Bool)
  /-- So many quotes in a row have been read. -/
  | quotes (count : Nat)
  deriving Repr, DecidableEq

/-- What a character does to the reader of a string. -/
inductive Move where
  /-- Adds characters to the string. -/
  | go (state : StringState) (text : List Char)
  /-- Ends the string, after some quotes that belong to it. -/
  | stop (text : List Char)
  /-- Shows that the string has ended before it. -/
  | ended (text : List Char)
  | refused (flaw : Flaw)

namespace Form

/-- A character where nothing is open. -/
def stepPlain (f : Form) (c : Char) : Move :=
  if c = f.quote then if f.long then .go (.quotes 1) [] else .stop []
  else if f.escapes && c = '\\' then .go .opened []
  else if c = '\n' then if f.long then .go .plain [c] else .refused .unexpected
  else if isStringChar c then .go .plain [c]
  else .refused .unexpected

/-- A character after a backslash. -/
def stepOpened (f : Form) (c : Char) : Move :=
  if c = 'u' then .go (.digits 4 0) []
  else if c = 'U' then .go (.digits 8 0) []
  else
    match shortEscape? c with
    | some d => .go .plain [d]
    | none =>
      if f.long && isSpace c then .go (.folding false) []
      else if f.long && c = '\n' then .go (.folding true) []
      else .refused .unexpected

/-- A digit of the number of a character. -/
def stepDigits (owed value : Nat) (c : Char) : Move :=
  match Hexadecimal.value? c with
  | none => .refused .unexpected
  | some d =>
    let value := value * 16 + d
    if owed > 1 then .go (.digits (owed - 1) value) []
    else if isScalar value then .go .plain [Char.ofNat value]
    else .refused .impossible

/-- A move after some characters that belong to the string. -/
def after (text : List Char) : Move → Move
  | .go state more => .go state (text ++ more)
  | move => move

/-- What a character does. -/
def step (f : Form) (state : StringState) (c : Char) : Move :=
  match state with
  | .plain => f.stepPlain c
  | .opened => f.stepOpened c
  | .digits owed value => stepDigits owed value c
  | .folding crossed =>
    if isSpace c then .go (.folding crossed) []
    else if c = '\n' then .go (.folding true) []
    else if crossed then f.stepPlain c
    else .refused .unexpected
  | .quotes count =>
    if c = f.quote then
      if count = 4 then .stop [c, c] else .go (.quotes (count + 1)) []
    else if count ≥ 3 then .ended (List.replicate (count - 3) f.quote)
    else after (List.replicate count f.quote) (f.stepPlain c)

/-- Reads on in a string; `done` holds its characters so far, last first. -/
def readOn (f : Form) (state : StringState) (done : List Char) :
    List Char → Reading (List Char)
  | [] =>
    match state with
    | .quotes count =>
      if count ≥ 3 then .ok (done.reverse ++ List.replicate (count - 3) f.quote, [])
      else refuse [] .unexpected
    | _ => refuse [] .unexpected
  | c :: rest =>
    match f.step state c with
    | .go state text => f.readOn state (text.reverse ++ done) rest
    | .stop text => .ok (done.reverse ++ text, rest)
    | .ended text => .ok (done.reverse ++ text, c :: rest)
    | .refused flaw => refuse (c :: rest) flaw

/-- Reads a string whose opening quotes have been read; a long one may begin with a line feed. -/
def read (f : Form) (s : List Char) : Reading (List Char) :=
  match s with
  | '\n' :: rest => if f.long then f.readOn .plain [] rest else f.readOn .plain [] s
  | _ => f.readOn .plain [] s

end Form

/-- Reads a string of any form, if one begins here. -/
def readString? : List Char → Option (Reading (List Char))
  | '"' :: '"' :: '"' :: rest => some (Form.longBasic.read rest)
  | '"' :: rest => some (Form.basic.read rest)
  | '\'' :: '\'' :: '\'' :: rest => some (Form.longLiteral.read rest)
  | '\'' :: rest => some (Form.literal.read rest)
  | _ => none

end Lockstep.Toml
