import Lockstep.Shell.Token

/-!
# Words of the shell language

A word is read to the first character that ends it where it is not quoted. What a character means
depends on what it stands between: double quotes leave the dollar sign, the backquote and some
backslashes their meaning, single quotes leave none, and braces of a parameter hold a word of
their own, which is read as the text around it is, except that the pattern that is to be cut off is
read as if no quotes were around it. The reader of commands hands in how commands are read.
-/

namespace Lockstep.Shell

/-- What a run of text is read between. -/
inductive Frame where
  /-- Up to the end of a word. -/
  | word
  /-- Up to a double quote, perhaps within the braces of a parameter. -/
  | quotes (inBraces : Bool)
  /-- Up to the brace that ends a parameter. -/
  | braces
  /-- Up to the end of a here-document. -/
  | document
  /-- Up to two parentheses that end an arithmetic expression. -/
  | arithmetic
  deriving Repr, DecidableEq

/-- How a run of text is read. -/
structure Setting where
  frame : Frame
  /-- Whether characters stand for themselves as they do in double quotes. -/
  quoted : Bool
  /-- Whether a here-document is around the text. -/
  inDocument : Bool
  deriving Repr, DecidableEq

namespace Setting

/-- Outside of any quotes. -/
def word : Setting := ⟨.word, false, false⟩

/-- Whether braces of a parameter are around the text. -/
def isBraced (k : Setting) : Bool := k.frame == .braces || k.frame == .quotes true

/-- Whether a backslash takes away the meaning of a character in quotes. -/
def escapes (k : Setting) (c : Char) : Bool :=
  c == '\\' || c == '\x60' || c == '$' || (c == '"' && (!k.inDocument || k.isBraced)) ||
    (c == '\x7d' && k.isBraced)

/-- What is wrong where the text ends too early. -/
def fault? (k : Setting) : Option String :=
  match k.frame with
  | .word | .document => none
  | .arithmetic => some "Missing '))'"
  | .braces | .quotes _ =>
    let quoted := k.quoted && !k.inDocument
    some (if quoted then "Unterminated quoted string" else "Missing '\x7d'")

/-- Text in its setting as a part of a word. -/
def part (k : Setting) (text : Text) : Part := if k.quoted then .quoted text else .plain text

end Setting

/-- How commands are read within a word. -/
structure Nested where
  /-- Commands up to a closing parenthesis. -/
  enclosed : Reader Command
  /-- The commands that a text begins with. -/
  leading : Reader Command

/-- What follows the name of a parameter in braces. -/
inductive Operation where
  /-- The brace that ends it. -/
  | none
  | length
  | instead (operator : Char) (orEmpty : Bool)
  | strip (atEnd longest : Bool)
  | bad
  deriving Repr, DecidableEq

/-- The modifier that an operation makes of the word after it. -/
def Operation.modifier (o : Operation) (word : Word) : Modifier :=
  match o with
  | .none => .plain
  | .length => .length
  | .instead operator orEmpty => .instead operator orEmpty word
  | .strip atEnd longest => .strip atEnd longest word
  | .bad => .bad

/-- Takes the next character. -/
def next : Reader (Option Char) := do
  let c ← peek
  skip
  return c

/-- Takes the name of a variable or the digits of an argument. -/
def takeName (fuel : Nat) : Reader Text := do
  match ← peek with
  | some c => takeAll fuel (if c.isDigit then Char.isDigit else isNameChar) []
  | none => return []

/-- The operation that a character begins, which has been taken. -/
def readOperation (c : Option Char) : Reader Operation := do
  match c with
  | some ':' =>
    match ← next with
    | some d => return if "-+?=\x7d".toList.contains d then .instead d true else .bad
    | none => return .bad
  | some '\x7d' => return .none
  | some '%' => return .strip true (← takeIf '%')
  | some '#' => return .strip false (← takeIf '#')
  | some d => return if "-+?=".toList.contains d then .instead d false else .bad
  | none => return .bad

/-- Reads the name of a parameter in braces and the operation that follows it. -/
def readHead (fuel : Nat) : Reader (Text × Operation) := do
  match ← peek with
  | none | some '\x7d' => return ([], .bad)
  | some c =>
    if isNameStart c || c.isDigit then
      let name ← takeName fuel
      return (name, ← readOperation (← next))
    skip
    if c ≠ '#' then
      if !isSpecial c then return ([], .bad)
      return ([c], ← readOperation (← next))
    match ← peek with
    | none => return (['#'], .bad)
    | some d =>
      if isNameChar d then
        let name ← takeName fuel
        return (name, if (← peek) == some '\x7d' then .length else .bad)
      skip
      if d == '\x7d' || (← peek) != some '\x7d' then return (['#'], ← readOperation (some d))
      return if isSpecial d then ([d], .length) else ([], .bad)

/-- Takes text up to a single quote. -/
def takeSingle (fuel : Nat) (fault : String) (done : Text) : Reader Text := do
  match fuel, (← get).rest with
  | fuel + 1, c :: _ =>
    skip
    if c == '\'' then return done.reverse
    takeSingle fuel fault (c :: done)
  | _, _ => misprint fault

/-- Takes text up to a backquote, and the backslashes out of it that shield a character. -/
def takeBackquoted (fuel : Nat) (quoted : Bool) (done : Text) : Reader Text := do
  match fuel, ← peek with
  | fuel + 1, some c =>
    skip
    if c == '\x60' then return done.reverse
    if c ≠ '\\' then return ← takeBackquoted fuel quoted (c :: done)
    match (← get).rest with
    | [] => takeBackquoted fuel quoted ('\\' :: done)
    | d :: _ =>
      skip
      let isShielded := d == '\\' || d == '\x60' || d == '$' || (quoted && d == '"')
      takeBackquoted fuel quoted (if isShielded then d :: done else d :: '\\' :: done)
  | _, _ => misprint "EOF in backquote substitution"

/-- Reads the commands of a text in the middle of another one. -/
def readAside (nested : Nested) (text : Text) : Reader Command := do
  let r ← get
  set (Reading.start r.line r.aliases text)
  let command ← nested.leading
  set r
  return command

/-- The parts with a run of text after them; all is last first. -/
def close (k : Setting) (text : Text) (done : List Part) : List Part :=
  if text.isEmpty then done else k.part text.reverse :: done

/-- The word of parts with a run of text after them; all is last first. -/
def finish (k : Setting) (text : Text) (done : List Part) : Word := (close k text done).reverse

/-- Whether the text of double quotes is nothing but all arguments. -/
def isAllArguments : Word → Bool
  | [.parameter _ ['@'] .plain] => true
  | _ => false

mutual

/--
Reads parts after others, which come last first. `inner` says whether a double quote within braces
is open, `depth` counts open parentheses, and `text` is the run of text that is being read, the
last character first.
-/
def readParts (nested : Nested) (fuel : Nat) (k : Setting) (inner : Bool) (depth : Nat)
    (text : Text) (done : List Part) : Reader Word := do
  match fuel with
  | 0 => misprint "end of file unexpected"
  | fuel + 1 =>
    let go (text : Text) (done : List Part) : Reader Word :=
      readParts nested fuel k inner depth text done
    match ← peek with
    | none =>
      match k.fault? with
      | some fault => misprint fault
      | none => return finish k text done
    | some c =>
      if k.frame == .word && isMeta c then return finish k text done
      skip
      match c with
      | '\\' =>
        match (← get).rest with
        | [] => go [] (.quoted ['\\'] :: close k text done)
        | d :: _ =>
          skip
          if !k.quoted then go [] (.quoted [d] :: close k text done)
          else if k.escapes d then go (d :: text) done
          else go (d :: '\\' :: text) done
      | '\'' =>
        if k.quoted then go (c :: text) done
        else
          let fault := if k.inDocument then "Missing '\x7d'" else "Unterminated quoted string"
          let single ← takeSingle fuel fault []
          go [] (.quoted single :: close k text done)
      | '"' =>
        match k.frame with
        | .quotes _ => return finish k text done
        | .document | .arithmetic => go (c :: text) done
        | _ =>
          if k.quoted then readParts nested fuel k (!inner) depth text done
          else
            let inside := ⟨.quotes (k.frame == .braces), true, k.inDocument⟩
            let parts ← readParts nested fuel inside false 0 [] []
            let marked := if isAllArguments parts then parts else .quoted [] :: parts
            go [] (marked.reverse ++ close k text done)
      | '\x60' =>
        if (← get).checks.delimiter then go (c :: text) done
        else
          let source ← takeBackquoted fuel k.quoted []
          let body ← readAside nested source
          go [] (.command k.quoted body :: close k text done)
      | '$' =>
        match ← readDollar nested fuel k with
        | some part => go [] (part :: close k text done)
        | none => go (c :: text) done
      | '\x7d' =>
        if k.frame == .braces && !inner then return finish k text done
        go (c :: text) done
      | '(' =>
        let depth := if k.frame == .arithmetic then depth + 1 else depth
        readParts nested fuel k inner depth (c :: text) done
      | ')' =>
        if k.frame == .arithmetic && depth = 0 then
          if ← takeIf ')' then return finish k text done
          go (c :: text) done
        else readParts nested fuel k inner (depth - 1) (c :: text) done
      | _ => go (c :: text) done

/-- Reads what a dollar sign begins; nothing if it stands for itself. -/
def readDollar (nested : Nested) (fuel : Nat) (k : Setting) : Reader (Option Part) := do
  match fuel, ← peek with
  | fuel + 1, some c =>
    if (← get).checks.delimiter then return none
    if c == '(' then
      skip
      if ← takeIf '(' then
        let source ← readParts nested fuel ⟨.arithmetic, true, false⟩ false 0 [] []
        return some (.arithmetic k.quoted source)
      return some (.command k.quoted (← nested.enclosed))
    if isNameStart c then
      return some (.parameter k.quoted (← takeName fuel) .plain)
    if c.isDigit || isSpecial c then
      skip
      return some (.parameter k.quoted [c] .plain)
    if c ≠ '\x7b' then return none
    skip
    let (name, operation) ← readHead fuel
    if operation == .none then return some (.parameter k.quoted name .plain)
    let quoted :=
      match operation with
      | .strip _ _ => false
      | _ => k.quoted
    let word ← readParts nested fuel ⟨.braces, quoted, k.inDocument⟩ false 0 [] []
    return some (.parameter k.quoted name (operation.modifier word))
  | _, _ => return none

end

/-- Reads a word. -/
def readWord (nested : Nested) (fuel : Nat) : Reader Word :=
  readParts nested fuel .word false 0 [] []

/-- The parts of a here-document. -/
def documentParts (nested : Nested) (fuel line : Nat) (aliases : List (Text × Text))
    (text : Text) : Except Misprint Word :=
  let k : Setting := ⟨.document, true, true⟩
  (·.1) <$> (readParts nested fuel k false 0 [] []).run (Reading.start line aliases text)

end Lockstep.Shell
