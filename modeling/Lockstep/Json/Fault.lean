import Lockstep.Text.Utf8

/-!
# Faults of JSON texts

A fault has a cause and a place. The reader knows the place by what is left of the text, so a
fault carries the number of bytes that stand after it; line and column are counted from the whole
text when the fault is shown.
-/

namespace Lockstep.Json

/-- Why a text is not a JSON value. -/
inductive Cause where
  | endInValue
  | endInList
  | endInObject
  | endInString
  | expectedValue
  | expectedWord
  | expectedColon
  | expectedCommaOrBrace
  | expectedCommaOrBracket
  | keyNotString
  | trailingComma
  | trailingCharacters
  | badNumber
  | numberOutOfRange
  | badEscape
  | controlCharacter
  | loneSurrogate
  | endOfEscape
  | tooDeep
  deriving Repr, DecidableEq

/-- The cause in words. -/
def Cause.message : Cause → String
  | .endInValue => "EOF while parsing a value"
  | .endInList => "EOF while parsing a list"
  | .endInObject => "EOF while parsing an object"
  | .endInString => "EOF while parsing a string"
  | .expectedValue => "expected value"
  | .expectedWord => "expected ident"
  | .expectedColon => "expected `:`"
  | .expectedCommaOrBrace => "expected `,` or `\x7d`"
  | .expectedCommaOrBracket => "expected `,` or `]`"
  | .keyNotString => "key must be a string"
  | .trailingComma => "trailing comma"
  | .trailingCharacters => "trailing characters"
  | .badNumber => "invalid number"
  | .numberOutOfRange => "number out of range"
  | .badEscape => "invalid escape"
  | .controlCharacter => "control character (\\u0000-\\u001F) found while parsing a string"
  | .loneSurrogate => "lone leading surrogate in hex escape"
  | .endOfEscape => "unexpected end of hex escape"
  | .tooDeep => "recursion limit exceeded"

/-- Why a text is no JSON value, and where. -/
structure Fault where
  cause : Cause
  /-- How many bytes of the text stand after the place of the fault. -/
  unread : Nat
  deriving Repr, DecidableEq

/-- A fault at the beginning of the rest. -/
def Fault.before (cause : Cause) (rest : List Char) : Fault := ⟨cause, Utf8.size rest⟩

/-- A fault of the first byte of the rest, whose place is after this byte; or of the end. -/
def Fault.first (cause : Cause) (rest : List Char) : Fault := ⟨cause, Utf8.size rest - 1⟩

/-- The line of a place in a text, counted from one, and the bytes of this line before it. -/
def lineAndColumn (text : List Char) (unread : Nat) : Nat × Nat :=
  let bytes := Utf8.encode text
  let before := bytes.take (bytes.length - unread)
  (before.count 10 + 1, (before.reverse.takeWhile (· ≠ 10)).length)

/-- The fault of a text in words. -/
def Fault.message (text : List Char) (f : Fault) : String :=
  let (line, column) := lineAndColumn text f.unread
  s!"{f.cause.message} at line {line} column {column}"

end Lockstep.Json
