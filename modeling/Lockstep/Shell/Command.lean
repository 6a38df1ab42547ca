import Lockstep.Text.Utf8

/-!
# Shell commands

The commands of the shell language as trees. The shell works on bytes; each is written as the
character of the same number, so that the language can be read off the patterns. A command that
can complain knows the line on which it began.
-/

namespace Lockstep.Shell

/-- Bytes, each as the character of its number. -/
abbrev Text := List Char

/-- Bytes as characters. -/
def ofBytes (bytes : Bytes) : Text := bytes.map fun b => Char.ofNat b.toNat

/-- Characters that stand for bytes as bytes. -/
def toBytes (text : Text) : Bytes := text.map fun c => UInt8.ofNat c.toNat

/-- A string as the bytes of its characters. -/
def ofString (s : String) : Text := ofBytes (utf8 s)

/-- The string that bytes spell. -/
def asString (text : Text) : String := String.ofList (Utf8.decodeLossy (toBytes text))

/-- What a redirection does with its descriptor. -/
inductive Direction where
  | read
  | write
  /-- Writes to a file that may be there already, whatever the options say. -/
  | overwrite
  | append
  | readWrite
  /-- Makes the descriptor the same as another one. -/
  | duplicate
  /-- Reads the text of a here-document. -/
  | here
  deriving Repr, DecidableEq

mutual

/-- What is done with the value of a parameter. -/
inductive Modifier where
  | plain
  /-- Its length. -/
  | length
  /-- A word instead of it (`-`, `=`, `?`), or where it is set (`+`), or one that means nothing. -/
  | instead (operator : Char) (orEmpty : Bool) (word : List Part)
  /-- The value without a matching part at one end. -/
  | strip (atEnd longest : Bool) (pattern : List Part)
  /-- No modifier of the language. -/
  | bad

/-- A piece of a word. -/
inductive Part where
  | plain (text : Text)
  /-- Text that stands for itself. Without characters it marks quotes, which make a field. -/
  | quoted (text : Text)
  | parameter (inQuotes : Bool) (name : Text) (modifier : Modifier)
  | command (inQuotes : Bool) (body : Command)
  | arithmetic (inQuotes : Bool) (source : List Part)

/-- A descriptor that is to lead elsewhere. -/
inductive Redirection where
  | mk (descriptor : Nat) (direction : Direction) (target : List Part)

/-- A command of the shell language. -/
inductive Command where
  | simple (line : Nat) (assignments : List (Text × List Part)) (words : List (List Part))
      (redirections : List Redirection)
  | pipeline (commands : List Command)
  | negated (body : Command)
  | both (left right : Command)
  | either (left right : Command)
  | sequence (left right : Command)
  | background (body : Command)
  | subshell (line : Nat) (body : Command)
  | redirected (line : Nat) (body : Command) (redirections : List Redirection)
  | branch (condition body : Command) (otherwise : Command)
  | loop (stopsOn : Bool) (condition body : Command)
  | each (line : Nat) (name : Text) (words : List (List Part)) (body : Command)
  | choose (line : Nat) (word : List Part) (arms : List (List (List Part) × Command))
  | define (name : Text) (body : Command)
  | nothing

end

/-- A word before it is expanded. -/
abbrev Word := List Part

namespace Redirection

/-- The descriptor that is led elsewhere. -/
def descriptor : Redirection → Nat
  | .mk n _ _ => n

/-- What happens to the descriptor. -/
def direction : Redirection → Direction
  | .mk _ d _ => d

/-- The word after the operator, or the text of a here-document. -/
def target : Redirection → Word
  | .mk _ _ w => w

end Redirection

/-- The text of a word that is neither quoted nor expanded. -/
def Word.bare? : Word → Option Text
  | [.plain t] => some t
  | _ => none

/-- A letter or an underscore. -/
def isNameStart (c : Char) : Bool := c.isAlpha || c == '_'

/-- A letter, a digit or an underscore. -/
def isNameChar (c : Char) : Bool := c.isAlphanum || c == '_'

/-- Whether the text may name a variable. -/
def isName (text : Text) : Bool :=
  match text with
  | c :: rest => isNameStart c && rest.all isNameChar
  | [] => false

/-- The name and the value of a word that is an assignment. -/
def Word.assignment? : Word → Option (Text × Word)
  | .plain t :: rest =>
    let name := t.takeWhile isNameChar
    match t.dropWhile isNameChar with
    | '=' :: value =>
      if isName name then some (name, if value.isEmpty then rest else .plain value :: rest)
      else none
    | _ => none
  | _ => none

/-- A natural number that a text of digits stands for. -/
def natural? (t : Text) : Option Nat :=
  if t.isEmpty || !t.all Char.isDigit then none
  else some (t.foldl (fun n d => n * 10 + (d.toNat - 48)) 0)

end Lockstep.Shell
