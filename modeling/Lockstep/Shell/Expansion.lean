import Lockstep.Shell.Arithmetic
import Lockstep.Shell.Field

/-!
# Expansion of words

Parameters, commands and arithmetic are put into a word, and what they gave may be split into
fields, which become the names of files where they are patterns. Commands are run by a function
that is handed in.
-/

namespace Lockstep.Shell

/-- What a word is expanded for. -/
structure Purpose where
  /-- Whether it becomes fields. -/
  fields : Bool
  /-- Whether quotes are around it. -/
  quoted : Bool
  /-- Whether its own text may be split, as in the word after a parameter. -/
  splits : Bool
  /-- Whether it is the value of an assignment, or one after a name. -/
  assigns : Bool
  deriving Repr, DecidableEq

namespace Purpose

/-- Fields, such as the arguments of a command. -/
def list : Purpose := ⟨true, false, false, false⟩

/-- A text. -/
def text : Purpose := ⟨false, false, false, false⟩

/-- The value of a variable. -/
def value : Purpose := ⟨false, false, false, true⟩

/-- The text of a here-document. -/
def document : Purpose := ⟨false, true, false, false⟩

end Purpose

/-- The letters of the options in the order of their listing, with their names. The last two have
no letter of their own. -/
def optionNames : List (Char × String) :=
  [('e', "errexit"), ('f', "noglob"), ('I', "ignoreeof"), ('i', "interactive"), ('m', "monitor"),
    ('n', "noexec"), ('s', "stdin"), ('x', "xtrace"), ('v', "verbose"), ('V', "vi"), ('E', "emacs"),
    ('C', "noclobber"), ('a', "allexport"), ('b', "notify"), ('u', "nounset"), ('p', "privileged"),
    ('L', "nolog"), ('D', "debug")]

/-- The options that have letters, by these. -/
def optionLetters : Text := (optionNames.map (·.1)).take 16

/-- The separators of fields. -/
def separators (s : State) : Text := (s.valueOf? "IFS").getD [' ', '\t', '\n']

/-- The home directories of accounts. -/
def homes : List (String × String) :=
  [("root", "/root"), ("daemon", "/usr/sbin"), ("bin", "/bin"), ("sys", "/dev"), ("sync", "/bin"),
    ("games", "/usr/games"), ("man", "/var/cache/man"), ("lp", "/var/spool/lpd"),
    ("mail", "/var/mail"), ("news", "/var/spool/news"), ("uucp", "/var/spool/uucp"),
    ("proxy", "/bin"), ("www-data", "/var/www"), ("backup", "/var/backups"), ("list", "/var/list"),
    ("irc", "/run/ircd"), ("_apt", "/nonexistent"), ("nobody", "/nonexistent")]

/-- The home directory of an account, one's own if it has no name. -/
def home? (s : State) (account : Text) : Option Text :=
  if account.isEmpty then s.valueOf? "HOME"
  else (homes.find? fun h => h.1.toList == account).map (·.2.toList)

/--
The pieces of text in which tildes may stand for directories: at its beginning, and in the value of
an assignment after each colon and the first sign of equality. `isLast` says that nothing follows
the text, `may` that a tilde means something here, and `equals` that this sign is to come.
-/
def expandTildes (fuel : Nat) (s : State) (region : Region) (assigns isLast may equals : Bool)
    (t : Text) : List Piece :=
  match fuel with
  | 0 => []
  | fuel + 1 =>
    let plain (u : Text) : List Piece := if u.isEmpty then [] else [⟨region, cellsOf false u⟩]
    let isHead (c : Char) : Bool := assigns && (c == ':' || (equals && c == '='))
    let account := t.tail.takeWhile fun c => c ≠ '/' && !(assigns && c == ':')
    let after := t.tail.drop account.length
    let home :=
      if may && t.head? == some '~' && (isLast || !after.isEmpty) then home? s account else none
    match home with
    | some home =>
      let rest := expandTildes fuel s region assigns isLast false equals after
      ⟨.fixed, cellsOf true home⟩ :: rest
    | none =>
      let head := t.takeWhile fun c => !isHead c
      match t.drop head.length with
      | [] => plain t
      | c :: rest =>
        plain (head ++ [c]) ++
          expandTildes fuel s region assigns isLast true (equals && c ≠ '=') rest

/-- The pieces of plain text; `isFirst` and `isLast` say where in its word it stands. -/
def plainPieces (s : State) (p : Purpose) (isFirst isLast : Bool) (t : Text) : List Piece :=
  let region : Region := if p.splits && !p.quoted then .split else .fixed
  expandTildes (t.length + 1) s region p.assigns isLast isFirst isFirst t

/-- All arguments, with what comes between two of them. -/
def argumentCells (s : State) (p : Purpose) (isList : Bool) : List Cell :=
  let between : List Cell :=
    if p.fields && (isList || !p.quoted) then
      if p.quoted || (s.valueOf? "IFS").isSome then [border] else [.char ' ' false]
    else cellsOf p.quoted ((separators s).take 1)
  between.intercalate (s.arguments.map (cellsOf p.quoted))

/-- The value of a parameter, if it is set. -/
def parameter? (s : State) (p : Purpose) (name : Text) : Option (List Cell) :=
  let text (t : Text) : Option (List Cell) := some (cellsOf p.quoted t)
  match name with
  | ['?'] => text (ofString s!"{s.status}")
  | ['#'] => text (ofString s!"{s.arguments.length}")
  | ['$'] => text (ofString s!"{s.number}")
  | ['!'] => s.background.bind fun n => text (ofString s!"{n}")
  | ['-'] => text (optionLetters.reverse.filter s.option)
  | ['@'] => some (argumentCells s p true)
  | ['*'] => some (argumentCells s p false)
  | _ =>
    match natural? name with
    | some 0 => text s.name
    | some (n + 1) => s.arguments[n]?.bind text
    | none => (s.value? name).bind text

/-- Where the value of a parameter may be split. -/
def parameterRegion (s : State) (p : Purpose) (name : Text) : Region :=
  if !p.quoted then .split
  else if name == ['@'] && !s.arguments.isEmpty then .listed
  else .fixed

/-- The text without line feeds at its end. -/
def dropLineFeeds (t : Text) : Text := (t.reverse.dropWhile (· == '\n')).reverse

/-- The output of a command as it is put into a word. -/
def outputText (t : Text) : Text := (dropLineFeeds t).filter (· ≠ '\x00')

/-- The value of an arithmetic expression. -/
def arithmetic (source : Text) : Run Text := do
  match Arithmetic.evaluate source (← get) with
  | .ok (value, s) =>
    set s
    return ofString s!"{value}"
  | .error .overflow => throw (.killed 8)
  | .error flaw => fail (flaw.message source)

mutual

/-- The pieces of a part of a word. -/
def expandPart (fuel : Nat) (run : Command → Run Text) (p : Purpose) (isFirst isLast : Bool)
    (part : Part) : Run (List Piece) := do
  match fuel with
  | 0 => return []
  | fuel + 1 =>
    let inserted (quoted : Bool) (t : Text) : List Piece :=
      [⟨if quoted then .fixed else .split, cellsOf quoted t⟩]
    match part with
    | .plain t => return plainPieces (← get) p isFirst isLast t
    | .quoted t => return [⟨.fixed, .mark :: cellsOf true t⟩]
    | .command inQuotes body =>
      let output ← run body
      return inserted (inQuotes || p.quoted) (outputText output)
    | .arithmetic inQuotes source =>
      let pieces ← expandParts fuel run .text false source
      let value ← arithmetic (pieceText pieces)
      return inserted (inQuotes || p.quoted) value
    | .parameter inQuotes name modifier =>
      expandParameter fuel run { p with quoted := inQuotes || p.quoted } name modifier

/-- The pieces of the parts of a word; `isFirst` says that they begin it. -/
def expandParts (fuel : Nat) (run : Command → Run Text) (p : Purpose) (isFirst : Bool) :
    List Part → Run (List Piece)
  | [] => return []
  | part :: rest => do
    match fuel with
    | 0 => return []
    | fuel + 1 =>
      let pieces ← expandPart fuel run p isFirst rest.isEmpty part
      return pieces ++ (← expandParts fuel run p false rest)

/-- The pieces of a parameter. -/
def expandParameter (fuel : Nat) (run : Command → Run Text) (p : Purpose) (name : Text)
    (modifier : Modifier) : Run (List Piece) := do
  match fuel with
  | 0 => return []
  | fuel + 1 =>
    let s ← get
    let value := parameter? s p name
    let as (cells : List Cell) : List Piece := [⟨parameterRegion s p name, cells⟩]
    let given (orEmpty : Bool) : Option (List Cell) :=
      value.bind fun cells => if orEmpty && cells.isEmpty then none else some cells
    let unset {α : Type} : Run α := fail s!"{asString name}: parameter not set"
    let wordText (word : Word) : Run Text := do
      return pieceText (← expandParts fuel run .text true word)
    let wordPieces (word : Word) : Run (List Piece) :=
      expandParts fuel run { p with splits := true } true word
    match modifier with
    | .bad => fail "Bad substitution"
    | .plain =>
      match value with
      | some cells => return as cells
      | none => if s.option 'u' then unset else return []
    | .length =>
      match value with
      | some cells => return as (cellsOf p.quoted (ofString s!"{cells.length}"))
      | none => if s.option 'u' then unset else return as (cellsOf p.quoted ['0'])
    | .strip atEnd longest word =>
      match value with
      | some cells =>
        let pattern := piecePattern (← expandParts fuel run .text true word)
        return as (stripMatch atEnd longest pattern cells)
      | none => if s.option 'u' then unset else return []
    | .instead '\x7d' orEmpty _ =>
      match given orEmpty with
      | some cells => return as cells
      | none => if s.option 'u' then unset else return as (value.getD [])
    | .instead '+' orEmpty word =>
      match given orEmpty with
      | some _ => wordPieces word
      | none => return as []
    | .instead '=' orEmpty word =>
      match given orEmpty with
      | some cells => return as cells
      | none =>
        assign name (← wordText word)
        return as ((parameter? (← get) p name).getD [])
    | .instead '?' orEmpty word =>
      match given orEmpty with
      | some cells => return as cells
      | none =>
        if !word.isEmpty then fail s!"{asString name}: {asString (← wordText word)}"
        else if orEmpty then fail s!"{asString name}: parameter not set or null"
        else unset
    | .instead _ orEmpty word =>
      match given orEmpty with
      | some cells => return as cells
      | none => wordPieces word

end

/-- The text of a word. -/
def expandText (fuel : Nat) (run : Command → Run Text) (p : Purpose) (w : Word) : Run Text :=
  return pieceText (← expandParts fuel run p true w)

/-- The fields of a word. -/
def expandFields (fuel : Nat) (run : Command → Run Text) (w : Word) : Run (List Text) := do
  let pieces ← expandParts fuel run .list true w
  let s ← get
  let fields := splitFields (separators s) none pieces
  return fields.flatMap fun field =>
    if s.option 'f' then [textOf field] else fieldPaths s.tree field

/-- The fields of words, one after another. -/
def expandWords (fuel : Nat) (run : Command → Run Text) : List Word → Run (List Text)
  | [] => return []
  | w :: rest => do
    let fields ← expandFields fuel run w
    return fields ++ (← expandWords fuel run rest)

end Lockstep.Shell
