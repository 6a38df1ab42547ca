import Lockstep.Shell.Word

/-!
# The grammar of the shell language

Commands are read by descent, one token at a time. Which tokens may come decides what is looked
for: keywords only where a command may begin or one of them is due, aliases there and after
assignments. Where a token does not fit it is named, and the one that had to come where only one
could. A text is read one complete command at a time, so that a command can change how the next one
is read.
-/

namespace Lockstep.Shell

/-- Commands of the shell that no function can stand for; a mistake in their use ends the shell. -/
def specialNames : List String :=
  [":", ".", "break", "continue", "eval", "exec", "exit", "export", "local", "readonly", "return",
    "set", "shift", "times", "trap", "unset"]

/-- Where a list of commands ends. -/
inductive Extent where
  /-- At the end of a line. -/
  | line
  /-- Before a token that ends it. There is at least one command. -/
  | body
  /-- Before a token that ends it. There need be no command. -/
  | optional
  deriving Repr, DecidableEq

/-- Takes the next token as it stands. -/
def takeToken (nested : Nested) (fuel : Nat) : Reader Token := do
  skipBlanks fuel
  let r ← get
  let left := if r.opened.isEmpty then 0 else r.rest.length
  let around := r.opened.filter fun a => left > a.stop
  set { r with around := around.flatMap Opened.names }
  match ← takeOperator? with
  | some t => return t
  | none =>
    let w ← readWord nested fuel
    let c ← peek
    if c == some '<' || c == some '>' then
      if w.isEmpty then return ← takeRedirection none
      match w.bare? with
      | some [d] => if d.isDigit then return ← takeRedirection (natural? [d])
      | _ => pure ()
    modify fun r => { r with word := w }
    return .word w

/-- The last token once more if it was kept, or else the next one. -/
def nextToken (nested : Nested) (fuel : Nat) : Reader Token := do
  let r ← get
  if r.kept then
    set { r with kept := false }
    return r.token
  takeToken nested fuel

/-- Finds out what the next token is taken for. -/
def identify (nested : Nested) (fuel : Nat) (checks : Checks) : Reader Token := do
  match fuel with
  | 0 => misprint "end of file unexpected"
  | fuel + 1 =>
    let t ← nextToken nested fuel
    let goesOn ← closeAliases
    match t with
    | .newline => if checks.newlines then identify nested fuel checks else return t
    | .word w =>
      match w.bare? with
      | none => return t
      | some name =>
        if checks.keywords then
          if let some k := keyword? name then return .keyword k
        if checks.aliases || goesOn then
          if ← openAlias name then
            return ← identify nested fuel { checks with aliases := true }
        return t
    | _ => return t

/-- Reads a token. -/
def readToken (nested : Nested) (fuel : Nat) : Reader Token := do
  let checks := (← get).checks
  let t ← identify nested fuel checks
  modify fun r => { r with token := t, kept := false, checks := .none }
  return t

/-- The lines of a here-document up to its delimiter, and what follows them. The backslash at the
end of a line joins it to the next one if `joins` says so. -/
def takeDocument (fuel : Nat) (delimiter : Text) (joins dropsTabs : Bool) (lines : Nat)
    (done text : Text) : Text × Text × Nat :=
  match fuel, text with
  | 0, _ | _, [] => (done.reverse, [], lines)
  | fuel + 1, _ =>
    let text := if dropsTabs then text.dropWhile (· == '\t') else text
    let line := text.takeWhile (· ≠ '\n')
    let rest := text.drop (line.length + 1)
    if line == delimiter then (done.reverse, rest, lines + 1)
    else
      let backslashes := (line.reverse.takeWhile (· == '\\')).length
      if joins && backslashes % 2 = 1 && line.length < text.length then
        let joined := rest.takeWhile (· ≠ '\n')
        let after := rest.drop joined.length
        let whole := line ++ '\n' :: joined ++ after.take 1
        let done := whole.reverse ++ done
        takeDocument fuel delimiter joins dropsTabs (lines + 2) done (after.drop 1)
      else
        let whole := if line.length < text.length then line ++ ['\n'] else line
        takeDocument fuel delimiter joins dropsTabs (lines + 1) (whole.reverse ++ done) rest

/-- The text of the parts of a word that stand for themselves. -/
def literalText (w : Word) : Text :=
  w.flatMap fun
    | .plain t | .quoted t => t
    | _ => []

/-- Reads the text of a here-document, which begins behind the line and the documents before. -/
def readDocument (nested : Nested) (fuel : Nat) (delimiter : Word) (dropsTabs : Bool) :
    Reader Word := do
  let r ← get
  let (text, before) :=
    match r.resume with
    | some found => found
    | none => ((r.rest.dropWhile (· ≠ '\n')).tail, 0)
  let expands := delimiter.all fun
    | .quoted _ => false
    | _ => true
  let (body, rest, lines) :=
    takeDocument (text.length + 1) (literalText delimiter) expands dropsTabs 0 [] text
  set { r with resume := some (rest, before + lines) }
  if !expands then return [.quoted body]
  match documentParts nested fuel (r.line + 1 + before) r.aliases body with
  | .ok parts => return parts
  | .error fault => throw fault

/-- What the operator of a redirection does. -/
def directionOf (operator : String) : Direction :=
  if operator = ">" then .write
  else if operator = ">|" then .overwrite
  else if operator = ">>" then .append
  else if operator = "<" then .read
  else if operator = "<>" then .readWrite
  else if operator = "<<" || operator = "<<-" then .here
  else .duplicate

/-- Reads the target of a redirection. -/
def readRedirection (nested : Nested) (fuel : Nat) (descriptor : Option Nat) (operator : String) :
    Reader Redirection := do
  let direction := directionOf operator
  look { Checks.none with delimiter := direction == .here }
  match ← readToken nested fuel with
  | .word w =>
    let target ← match direction with
      | .here => readDocument nested fuel w (operator == "<<-")
      | _ => pure w
    return .mk (descriptor.getD (if operator.startsWith ">" then 1 else 0)) direction target
  | _ => unexpected none

/-- Reads redirections after others, which come last first. -/
def readRedirections (nested : Nested) (fuel : Nat) (done : List Redirection) :
    Reader (List Redirection) := do
  match fuel with
  | 0 => return done.reverse
  | fuel + 1 =>
    match ← readToken nested fuel with
    | .redirect d o =>
      let r ← readRedirection nested fuel d o
      readRedirections nested fuel (r :: done)
    | _ =>
      keep
      return done.reverse

/-- Reads words up to another token. -/
def readWords (nested : Nested) (fuel : Nat) (done : List Word) : Reader (List Word) := do
  match fuel with
  | 0 => return done.reverse
  | fuel + 1 =>
    match ← readToken nested fuel with
    | .word w => readWords nested fuel (w :: done)
    | _ => return done.reverse

/-- Reads the patterns of an arm; the first one has been read. The token after them comes last. -/
def readPatterns (nested : Nested) (fuel : Nat) (done : List Word) : Reader (List Word) := do
  match fuel with
  | 0 => return done.reverse
  | fuel + 1 =>
    let done := (← get).word :: done
    if (← readToken nested fuel).isOperator "|" then
      let _ ← readToken nested fuel
      readPatterns nested fuel done
    else return done.reverse

/-- Reads a keyword that has to come. -/
def expectKeyword (nested : Nested) (fuel : Nat) (k : String) : Reader Unit := do
  if !(← readToken nested fuel).isKeyword k then unexpected (some s!"\"{k}\"")

/-- Reads an operator that has to come. -/
def expectOperator (nested : Nested) (fuel : Nat) (o : String) : Reader Unit := do
  if !(← readToken nested fuel).isOperator o then unexpected (some s!"\"{o}\"")

/-- What has been read of a command of words; all is last first. -/
structure Simple where
  line : Nat
  assignments : List (Text × Word)
  words : List Word
  redirections : List Redirection

/-- The command that has been read. -/
def Simple.command (c : Simple) : Command :=
  .simple c.line c.assignments.reverse c.words.reverse c.redirections.reverse

/-- The name of the function that a word and parentheses begin. -/
def functionName (w : Word) : Reader Text := do
  match w.bare? with
  | some name =>
    if isName name && !specialNames.contains (asString name) then return name
    misprint "Bad function name"
  | none => misprint "Bad function name"

mutual

/-- How commands are read within words. -/
def nestedIn (fuel : Nat) : Nested :=
  match fuel with
  | 0 => ⟨misprint "end of file unexpected", misprint "end of file unexpected"⟩
  | fuel + 1 =>
    let list : Reader Command := readList fuel .optional none
    ⟨do
      let body ← list
      expectOperator (nestedIn fuel) fuel ")"
      return body,
      list⟩

/-- Reads a list of commands, of which some may have been read before. -/
def readList (fuel : Nat) (extent : Extent) (before : Option Command) : Reader Command := do
  match fuel with
  | 0 => misprint "end of file unexpected"
  | fuel + 1 =>
    look (if extent == .line then .command else .below)
    match ← readToken (nestedIn fuel) fuel with
    | .newline => return before.getD .nothing
    | .finish =>
      keep
      return before.getD .nothing
    | first =>
      keep
      let mayEnd := extent == .optional || (before.isSome && extent ≠ .line)
      if mayEnd && first.endsList then return before.getD .nothing
      let left ← readPipeline fuel
      let command ← readJoined fuel left
      let t ← readToken (nestedIn fuel) fuel
      let command := if t.isOperator "&" then .background command else command
      let whole :=
        match before with
        | some b => .sequence b command
        | none => command
      match t with
      | .finish =>
        keep
        return whole
      | .newline =>
        keep
        readList fuel extent (some whole)
      | .operator "&" | .operator ";" => readList fuel extent (some whole)
      | _ =>
        if extent == .line then unexpected none
        keep
        return whole

/-- Reads what depends on the commands before. -/
def readJoined (fuel : Nat) (left : Command) : Reader Command := do
  match fuel with
  | 0 => misprint "end of file unexpected"
  | fuel + 1 =>
    match ← readToken (nestedIn fuel) fuel with
    | .operator "&&" =>
      look .below
      let right ← readPipeline fuel
      readJoined fuel (.both left right)
    | .operator "||" =>
      look .below
      let right ← readPipeline fuel
      readJoined fuel (.either left right)
    | _ =>
      keep
      return left

/-- Reads commands that are joined by pipes. -/
def readPipeline (fuel : Nat) : Reader Command := do
  match fuel with
  | 0 => misprint "end of file unexpected"
  | fuel + 1 =>
    let negated := (← readToken (nestedIn fuel) fuel).isKeyword "!"
    if negated then look .command else keep
    let first ← readCommand fuel
    let commands ← readPipes fuel [first]
    let pipeline :=
      match commands with
      | [only] => only
      | _ => .pipeline commands
    return if negated then .negated pipeline else pipeline

/-- Reads the commands of a pipeline after others, which come last first. -/
def readPipes (fuel : Nat) (done : List Command) : Reader (List Command) := do
  match fuel with
  | 0 => misprint "end of file unexpected"
  | fuel + 1 =>
    if (← readToken (nestedIn fuel) fuel).isOperator "|" then
      look .below
      let command ← readCommand fuel
      readPipes fuel (command :: done)
    else
      keep
      return done.reverse

/-- Reads a branch after its first keyword, up to the last one. -/
def readBranch (fuel : Nat) : Reader Command := do
  match fuel with
  | 0 => misprint "end of file unexpected"
  | fuel + 1 =>
    let condition ← readList fuel .body none
    expectKeyword (nestedIn fuel) fuel "then"
    let body ← readList fuel .body none
    match ← readToken (nestedIn fuel) fuel with
    | .keyword "elif" => return .branch condition body (← readBranch fuel)
    | .keyword "else" =>
      let otherwise ← readList fuel .body none
      expectKeyword (nestedIn fuel) fuel "fi"
      return .branch condition body otherwise
    | _ =>
      keep
      expectKeyword (nestedIn fuel) fuel "fi"
      return .branch condition body .nothing

/-- Reads the body of a loop. -/
def readBody (fuel : Nat) : Reader Command := do
  match fuel with
  | 0 => misprint "end of file unexpected"
  | fuel + 1 =>
    expectKeyword (nestedIn fuel) fuel "do"
    let body ← readList fuel .body none
    expectKeyword (nestedIn fuel) fuel "done"
    return body

/-- Reads a loop over words after its first keyword. -/
def readEach (fuel line : Nat) : Reader Command := do
  match fuel with
  | 0 => misprint "end of file unexpected"
  | fuel + 1 =>
    let name :=
      match ← readToken (nestedIn fuel) fuel with
      | .word w => w.bare?.getD []
      | _ => []
    if !isName name then misprint "Bad for loop variable"
    look .below
    let t ← readToken (nestedIn fuel) fuel
    let words ←
      if t.isKeyword "in" then
        let words ← readWords (nestedIn fuel) fuel []
        match (← get).token with
        | .newline | .operator ";" => pure words
        | _ => unexpected none
      else
        if !t.isOperator ";" then keep
        pure [[.parameter true ['@'] .plain]]
    look .below
    return .each line name words (← readBody fuel)

/-- Reads the arms of a choice. -/
def readArms (fuel : Nat) : Reader (List (List Word × Command)) := do
  match fuel with
  | 0 => misprint "end of file unexpected"
  | fuel + 1 =>
    let checks : Checks := ⟨true, true, false, false⟩
    look checks
    let t ← readToken (nestedIn fuel) fuel
    if t.isKeyword "esac" then return []
    if t.isOperator "(" then discard (readToken (nestedIn fuel) fuel)
    let patterns ← readPatterns (nestedIn fuel) fuel []
    if !(← get).token.isOperator ")" then unexpected (some "\")\"")
    let body ← readList fuel .optional none
    look checks
    let t ← readToken (nestedIn fuel) fuel
    if t.isKeyword "esac" then return [(patterns, body)]
    if !t.isOperator ";;" then unexpected (some "\";;\"")
    return (patterns, body) :: (← readArms fuel)

/-- Reads a command of words, or the definition of a function. -/
def readSimple (fuel : Nat) (aliases : Bool) (c : Simple) : Reader Command := do
  match fuel with
  | 0 => misprint "end of file unexpected"
  | fuel + 1 =>
    look { Checks.none with aliases := aliases }
    match ← readToken (nestedIn fuel) fuel with
    | .word w =>
      match if aliases then w.assignment? else none with
      | some a => readSimple fuel aliases { c with assignments := a :: c.assignments }
      | none => readSimple fuel false { c with words := w :: c.words }
    | .redirect d o =>
      let r ← readRedirection (nestedIn fuel) fuel d o
      readSimple fuel aliases { c with redirections := r :: c.redirections }
    | t =>
      match c with
      | ⟨_, [], [w], []⟩ =>
        if t.isOperator "(" then
          expectOperator (nestedIn fuel) fuel ")"
          let name ← functionName w
          look .below
          return .define name (← readCommand fuel)
        keep
        return c.command
      | _ =>
        keep
        return c.command

/-- Reads one command. -/
def readCommand (fuel : Nat) : Reader Command := do
  match fuel with
  | 0 => misprint "end of file unexpected"
  | fuel + 1 =>
    let line := (← get).line
    let compound (body : Command) : Reader Command := do
      look .command
      let redirections ← readRedirections (nestedIn fuel) fuel []
      return if redirections.isEmpty then body else .redirected line body redirections
    match ← readToken (nestedIn fuel) fuel with
    | .keyword "if" => compound (← readBranch fuel)
    | .keyword "while" =>
      let condition ← readList fuel .body none
      compound (.loop false condition (← readBody fuel))
    | .keyword "until" =>
      let condition ← readList fuel .body none
      compound (.loop true condition (← readBody fuel))
    | .keyword "for" => compound (← readEach fuel line)
    | .keyword "case" =>
      match ← readToken (nestedIn fuel) fuel with
      | .word w =>
        look .below
        expectKeyword (nestedIn fuel) fuel "in"
        compound (.choose line w (← readArms fuel))
      | _ => unexpected (some "word")
    | .keyword "\x7b" =>
      let body ← readList fuel .body none
      expectKeyword (nestedIn fuel) fuel "\x7d"
      compound body
    | .operator "(" =>
      let body ← readList fuel .body none
      expectOperator (nestedIn fuel) fuel ")"
      compound (.subshell line body)
    | .word _ | .redirect _ _ =>
      keep
      readSimple fuel true ⟨(← get).line, [], [], []⟩
    | _ => unexpected none

end

/-- Reads the commands of a line; none where the text has ended. -/
def readComplete (fuel : Nat) : Reader (Option Command) := do
  modify fun r => { r with kept := false, checks := .none }
  let command ← readList fuel .line none
  match (← get).token, command with
  | .finish, .nothing => return none
  | _, _ => return some command

end Lockstep.Shell
