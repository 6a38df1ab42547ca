import Lockstep.Toml.Moment
import Lockstep.Toml.Numeral
import Lockstep.Toml.Table
import Lockstep.Toml.Text

/-!
# Reading TOML documents

A document is read line by line: blank lines and comments, headers, and keys with values. An array
may go over several lines, a table between braces may not. Values stand inside each other up to a
fixed depth, by which the reader of values recurs; its loops recur by how much text is left.
-/

namespace Lockstep.Toml

/-- How deep values may stand inside each other. -/
def maxDepth : Nat := 79

/-- How many keys a path may have. -/
def maxPath : Nat := 79

/-- A character of a key without quotes. -/
def isBareChar (c : Char) : Bool :=
  let n := c.toNat
  (48 ≤ n && n ≤ 57) || (65 ≤ n && n ≤ 90) || (97 ≤ n && n ≤ 122) || c = '-' || c = '_'

/-- The text after its spaces and tabs. -/
def dropSpaces (s : List Char) : List Char := s.dropWhile isSpace

/-- The text after a comment, which ends before what cannot stand in one. -/
def dropComment (s : List Char) : List Char :=
  match s with
  | '#' :: rest => rest.dropWhile isStringChar
  | _ => s

/-- The text after spaces, line feeds and comments. -/
def dropBreaks : Nat → List Char → List Char
  | 0, s => s
  | fuel + 1, s =>
    match dropSpaces s with
    | '\n' :: rest => dropBreaks fuel rest
    | '#' :: rest => dropBreaks fuel (dropComment ('#' :: rest))
    | s => s

/-- The text after the rest of a line on which nothing more stands. -/
def endLine (s : List Char) : Except Fault (List Char) :=
  match dropComment (dropSpaces s) with
  | [] => .ok []
  | '\n' :: rest => .ok rest
  | s => refuse s .unexpected

/-- One key of a path. -/
def readKey (s : List Char) : Reading Key :=
  let key (name rest : List Char) : Key := ⟨String.ofList name, ⟨s.length, rest.length⟩⟩
  match s with
  | '"' :: rest =>
    match Form.basic.read rest with
    | .error fault => .error fault
    | .ok (name, rest) => .ok (key name rest, rest)
  | '\'' :: rest =>
    match Form.literal.read rest with
    | .error fault => .error fault
    | .ok (name, rest) => .ok (key name rest, rest)
  | _ =>
    let name := s.takeWhile isBareChar
    let rest := s.dropWhile isBareChar
    if name.isEmpty then refuse s .unexpected else .ok (key name rest, rest)

/-- Keys with dots between them: those before the last one, and the last one. -/
def readPath : Nat → List Char → Reading (List Key × Key)
  | 0, s => refuse s .tooDeep
  | fuel + 1, s =>
    match readKey (dropSpaces s) with
    | .error fault => .error fault
    | .ok (k, rest) =>
      match dropSpaces rest with
      | '.' :: rest =>
        match readPath fuel rest with
        | .error fault => .error fault
        | .ok ((path, last), rest) => .ok ((k :: path, last), rest)
      | rest => .ok (([], k), rest)

/-- The text after an equals sign and the spaces behind it. -/
def equals (s : List Char) : Except Fault (List Char) :=
  match s with
  | '=' :: rest => .ok (dropSpaces rest)
  | _ => refuse s .unexpected

/-- Keys and the value that they lead to. -/
def readPair (value : List Char → Reading Value) (s : List Char) :
    Reading ((List Key × Key) × Value) :=
  match readPath maxPath s with
  | .error fault => .error fault
  | .ok (path, rest) =>
    match equals rest with
    | .error fault => .error fault
    | .ok rest =>
      match value rest with
      | .error fault => .error fault
      | .ok (v, rest) => .ok ((path, v), rest)

/-- The items of an array whose bracket has been read. -/
def readItems (value : List Char → Reading Value) : Nat → List Char → Reading (List Value)
  | 0, s => refuse s .unexpected
  | fuel + 1, s =>
    match dropBreaks s.length s with
    | ']' :: rest => .ok ([], rest)
    | s =>
      match value s with
      | .error fault => .error fault
      | .ok (v, rest) =>
        match dropBreaks rest.length rest with
        | ',' :: rest =>
          match readItems value fuel rest with
          | .error fault => .error fault
          | .ok (items, rest) => .ok (v :: items, rest)
        | ']' :: rest => .ok ([v], rest)
        | rest => refuse rest .unexpected

/-- The pairs of a table between braces, of which there is at least one. -/
def readPairs (value : List Char → Reading Value) :
    Nat → List Char → Reading (List ((List Key × Key) × Value))
  | 0, s => refuse s .unexpected
  | fuel + 1, s =>
    match readPair value s with
    | .error fault => .error fault
    | .ok (pair, rest) =>
      match dropSpaces rest with
      | ',' :: rest =>
        match readPairs value fuel rest with
        | .error fault => .error fault
        | .ok (pairs, rest) => .ok (pair :: pairs, rest)
      | '\x7d' :: rest => .ok ([pair], rest)
      | rest => refuse rest .unexpected

/-- The table of pairs, which is written at `span`. -/
def tableOf (span : Span) (pairs : List ((List Key × Key) × Value)) : Except Fault Value :=
  let add (t : Value) (pair : (List Key × Key) × Value) : Except Fault Value :=
    t.insert pair.1.1 pair.1.2 pair.2
  match pairs.foldlM add (.table none .braces []) with
  | .error fault => .error fault
  | .ok t => .ok (.table (some span) .braces t.entries)

/-- A table whose brace has been read; `start` is the text at the brace. -/
def readTable (value : List Char → Reading Value) (start s : List Char) : Reading Value :=
  let pairs : Reading (List ((List Key × Key) × Value)) :=
    match dropSpaces s with
    | '\x7d' :: rest => .ok ([], rest)
    | s => readPairs value s.length s
  match pairs with
  | .error fault => .error fault
  | .ok (pairs, rest) =>
    match tableOf ⟨start.length, rest.length⟩ pairs with
    | .error fault => .error fault
    | .ok t => .ok (t, rest)

/-- A value that no other stands in. -/
def readSimple (s : List Char) : Reading Value :=
  match readString? s with
  | some (.error fault) => .error fault
  | some (.ok (text, rest)) => .ok (.string ⟨s.length, rest.length⟩ (String.ofList text), rest)
  | none =>
    match s with
    | 't' :: 'r' :: 'u' :: 'e' :: rest => .ok (.boolean ⟨s.length, rest.length⟩ true, rest)
    | 'f' :: 'a' :: 'l' :: 's' :: 'e' :: rest => .ok (.boolean ⟨s.length, rest.length⟩ false, rest)
    | _ => (readMoment? s).getD (readNumber s)

/-- Reads a value in which others stand up to the given depth. -/
def readValue : Nat → List Char → Reading Value
  | 0, s => readSimple s
  | depth + 1, s =>
    match s with
    | '[' :: rest =>
      match readItems (readValue depth) rest.length rest with
      | .error fault => .error fault
      | .ok (items, left) => .ok (.array ⟨s.length, left.length⟩ items, left)
    | '\x7b' :: rest => readTable (readValue depth) s rest
    | _ => readSimple s

/-- A header whose brackets have been read: its keys, and the text after its closing brackets. -/
def readHeader (closing : List Char) (s : List Char) : Reading (List Key × Key) :=
  match readPath maxPath s with
  | .error fault => .error fault
  | .ok (path, rest) =>
    if closing.isPrefixOf rest then .ok (path, rest.drop closing.length)
    else refuse rest .unexpected

/-- One line with something on it. -/
def readEntry (d : Draft) (s : List Char) : Except Fault (Draft × List Char) := do
  match s with
  | '[' :: '[' :: rest =>
    let ((path, k), rest) ← readHeader [']', ']'] rest
    let left ← endLine rest
    let d ← d.openRepeated path k ⟨s.length, rest.length⟩
    return (d, left)
  | '[' :: rest =>
    let ((path, k), rest) ← readHeader [']'] rest
    let left ← endLine rest
    let d ← d.openTable path k ⟨s.length, rest.length⟩
    return (d, left)
  | _ =>
    let (((path, k), v), rest) ← readPair (readValue maxDepth) s
    let left ← endLine rest
    let d ← d.add path k v
    return (d, left)

/-- Reads line after line. -/
def readEntries : Nat → Draft → List Char → Except Fault Draft
  | 0, d, _ => .ok d
  | fuel + 1, d, s =>
    match dropBreaks s.length s with
    | [] => .ok d
    | s =>
      match readEntry d s with
      | .error fault => .error fault
      | .ok (d, rest) => readEntries fuel d rest

/-- The text without a byte order mark at its beginning. -/
def dropMark (s : List Char) : List Char :=
  match s with
  | '\uFEFF' :: rest => rest
  | _ => s

/-- The table that a document is. -/
def parse (document : List Char) : Except Fault Value := do
  let text := dropMark (joinBreaks document)
  let d ← readEntries (text.length + 1) .start text
  d.close

end Lockstep.Toml
