import Lockstep.Json.Numeral
import Lockstep.Json.Text

/-!
# Reading JSON texts

A text is one value with blanks around it. Arrays and objects nest at most `maxDepth` deep. Each
function takes a text and gives what it has read and the rest; its first argument bounds the
number of calls, and twice the length of the text is always enough, since of two calls in a row
one takes a character.
-/

namespace Lockstep.Json

/-- Blanks of JSON texts. -/
def isBlank (c : Char) : Bool := c == ' ' || c == '\t' || c == '\n' || c == '\r'

/-- The text from its first character that is no blank. -/
def skipBlanks (s : List Char) : List Char := s.dropWhile isBlank

/-- How deep arrays and objects may nest. -/
def maxDepth : Nat := 127

/-- Takes the given word off the front. -/
def readWord : List Char → List Char → Except Fault (List Char)
  | [], s => .ok s
  | _ :: _, [] => .error (.first .endInValue [])
  | w :: word, c :: rest =>
    if c = w then readWord word rest else .error (.first .expectedWord (c :: rest))

/-- Takes the colon after a key. -/
def readColon (s : List Char) : Except Fault (List Char) :=
  match skipBlanks s with
  | [] => .error (.first .endInObject [])
  | ':' :: rest => .ok rest
  | other => .error (.first .expectedColon other)

mutual

/-- Reads a value; arrays and objects may nest `depth` deep in it. -/
def readValue (fuel depth : Nat) (s : List Char) : Except Fault (Value × List Char) :=
  match fuel with
  | 0 => .error (.before .tooDeep s)
  | fuel + 1 =>
    match skipBlanks s with
    | [] => .error (.first .endInValue [])
    | 'n' :: rest => do return (.null, ← readWord "ull".toList rest)
    | 't' :: rest => do return (.bool true, ← readWord "rue".toList rest)
    | 'f' :: rest => do return (.bool false, ← readWord "alse".toList rest)
    | '"' :: rest => do
      let (text, rest) ← readString .plain [] rest
      return (.string (String.ofList text), rest)
    | '-' :: rest => do
      let (n, rest) ← readNumber true rest
      return (.number n, rest)
    | '[' :: rest =>
      match depth with
      | 0 => .error (.first .tooDeep ('[' :: rest))
      | depth + 1 => do
        let (items, rest) ← readItems fuel depth true rest
        return (.array items, rest)
    | '\x7b' :: rest =>
      match depth with
      | 0 => .error (.first .tooDeep ('\x7b' :: rest))
      | depth + 1 => do
        let (members, rest) ← readMembers fuel depth true rest
        return (.object members, rest)
    | c :: rest =>
      if Decimal.isDigit c then do
        let (n, rest) ← readNumber false (c :: rest)
        return (.number n, rest)
      else .error (.first .expectedValue (c :: rest))

/-- Reads the items of an array up to its bracket; the first one has no comma before it. -/
def readItems (fuel depth : Nat) (isFirst : Bool) (s : List Char) :
    Except Fault (List Value × List Char) :=
  match fuel with
  | 0 => .error (.before .tooDeep s)
  | fuel + 1 =>
    let item (s : List Char) : Except Fault (List Value × List Char) := do
      let (value, s) ← readValue fuel depth s
      let (values, s) ← readItems fuel depth false s
      return (value :: values, s)
    match skipBlanks s with
    | [] => .error (.first .endInList [])
    | ']' :: rest => .ok ([], rest)
    | c :: rest =>
      if isFirst then item (c :: rest)
      else if c = ',' then
        match skipBlanks rest with
        | [] => .error (.first .endInValue [])
        | ']' :: other => .error (.first .trailingComma (']' :: other))
        | other => item other
      else .error (.first .expectedCommaOrBracket (c :: rest))

/-- Reads the members of an object up to its brace; the first one has no comma before it. -/
def readMembers (fuel depth : Nat) (isFirst : Bool) (s : List Char) :
    Except Fault (List (String × Value) × List Char) :=
  match fuel with
  | 0 => .error (.before .tooDeep s)
  | fuel + 1 =>
    let entry (s : List Char) : Except Fault (List (String × Value) × List Char) :=
      match s with
      | '"' :: rest => do
        let (key, s) ← readString .plain [] rest
        let s ← readColon s
        let (value, s) ← readValue fuel depth s
        let (members, s) ← readMembers fuel depth false s
        return ((String.ofList key, value) :: members, s)
      | other => .error (.first .keyNotString other)
    match skipBlanks s with
    | [] => .error (.first .endInObject [])
    | '\x7d' :: rest => .ok ([], rest)
    | c :: rest =>
      if isFirst then entry (c :: rest)
      else if c = ',' then
        match skipBlanks rest with
        | [] => .error (.first .endInValue [])
        | '\x7d' :: other => .error (.first .trailingComma ('\x7d' :: other))
        | other => entry other
      else .error (.first .expectedCommaOrBrace (c :: rest))

end

/-- The value that a text spells. -/
def parse (text : List Char) : Except Fault Value := do
  let (value, rest) ← readValue (2 * text.length + 2) maxDepth text
  match skipBlanks rest with
  | [] => return value
  | other => throw (.first .trailingCharacters other)

end Lockstep.Json
