import Lockstep.Text.Utf8
import Lockstep.Toml.Value

/-!
# Faults of TOML documents

A fault has a place in the text and a message. It is shown with the line in which it begins, and
with marks under the characters that are at fault. Columns count characters; the marks count
bytes, and there is always one of them.
-/

namespace Lockstep.Toml

/-- Why a text is no document. -/
inductive Flaw where
  /-- The text does not go on as a document can. -/
  | unexpected
  /-- A number that does not fit in 64 bits. -/
  | outOfRange
  /-- No such character, day or time. -/
  | impossible
  /-- Too many values inside each other. -/
  | tooDeep
  /-- A name that has its value already. -/
  | duplicateKey (name : String)
  deriving Repr, DecidableEq

/-- The flaw in words. -/
def Flaw.message : Flaw → String
  | .unexpected => "invalid document"
  | .outOfRange => "number is out of range"
  | .impossible => "value is out of range"
  | .tooDeep => "recursion limit"
  | .duplicateKey name => s!"duplicate key \x60{name}\x60"

/-- A flaw, and how many characters were left where it begins. -/
structure Fault where
  left : Nat
  flaw : Flaw
  deriving Repr, DecidableEq

/-- What is read from a text, and the rest of the text. -/
abbrev Reading (α : Type) := Except Fault (α × List Char)

/-- A flaw at the beginning of what is left. -/
def refuse {α : Type} (rest : List Char) (flaw : Flaw) : Except Fault α :=
  .error ⟨rest.length, flaw⟩

/-- The text with a line feed for each carriage return and line feed. -/
def joinBreaks : List Char → List Char
  | [] => []
  | '\r' :: '\n' :: rest => '\n' :: joinBreaks rest
  | c :: rest => c :: joinBreaks rest

/-- The last line of a text, without what is before it. -/
def lastLine (text : List Char) : List Char := (text.reverse.takeWhile (· ≠ '\n')).reverse

/-- The characters of a text, a carriage return and line feed together. -/
def cells : List Char → List (List Char)
  | [] => []
  | '\r' :: '\n' :: rest => ['\r', '\n'] :: cells rest
  | c :: rest => [c] :: cells rest

/--
A message under the line of a document that it is about. The marks go no further than the line
would if it began at the column where they begin.
-/
def excerpt (document : List Char) (span : Span) (message : String) : String :=
  let text := cells document
  let before := (text.take (text.length - span.start)).flatten
  let marked := ((text.drop (text.length - span.start)).take (span.start - span.stop)).flatten
  let number := before.count '\n' + 1
  let column := (lastLine before).length
  let line := ((String.ofList document).splitOn "\n").getD (number - 1) ""
  let marks := max 1 (min (Utf8.size marked) ((utf8 line).length - column))
  let margin := "".pushn ' ' ((toString number).length + 1)
  s!"TOML parse error at line {number}, column {column + 1}\n" ++
    s!"{margin}|\n" ++
    s!"{number} | {line}\n" ++
    s!"{margin}|" ++ "".pushn ' ' (column + 1) ++ "".pushn '^' marks ++ "\n" ++
    s!"{message}\n"

/-- A fault as it is shown. -/
def Fault.render (document : List Char) (f : Fault) : String :=
  excerpt document ⟨f.left, f.left⟩ f.flaw.message

end Lockstep.Toml
