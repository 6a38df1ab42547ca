import Lockstep.Shell.Command

/-!
# Tokens of the shell language

A text is read from its front: blanks, comments and lines that a backslash joins are passed over,
and what stands next is an operator, a line feed, a redirection, a word, or the end. Which words
have a meaning of their own depends on where they stand, so the reader of commands says for each
token what is to be looked for. The text of an alias is put in front of the text that is left.
-/

namespace Lockstep.Shell

/-- A token of a text. -/
inductive Token where
  | finish
  | newline
  | operator (text : String)
  /-- The word after it is the target. -/
  | redirect (descriptor : Option Nat) (operator : String)
  | word (w : Word)
  /-- A word with a meaning in the language. -/
  | keyword (text : String)

namespace Token

/-- The token in a message. -/
def describe : Token → String
  | .finish => "end of file"
  | .newline => "newline"
  | .operator o => s!"\"{o}\""
  | .redirect _ _ => "redirection"
  | .word _ => "word"
  | .keyword k => s!"\"{k}\""

/-- Whether the token is the operator. -/
def isOperator (o : String) : Token → Bool
  | .operator p => p == o
  | _ => false

/-- Whether the token is the keyword. -/
def isKeyword (k : String) : Token → Bool
  | .keyword l => l == k
  | _ => false

/-- Whether a list of commands ends at the token. -/
def endsList : Token → Bool
  | .finish => true
  | .operator o => o == ")" || o == ";;"
  | .keyword k => ["then", "elif", "else", "fi", "do", "done", "esac", "\x7d"].contains k
  | _ => false

end Token

/-- Words that have a meaning where a command may begin. -/
def keywords : List String :=
  ["if", "then", "elif", "else", "fi", "while", "until", "do", "done", "for", "case", "esac",
    "in", "\x7b", "\x7d", "!"]

/-- Whether a word is a keyword, if it is not quoted. -/
def keyword? (t : Text) : Option String := keywords.find? fun k => k.toList == t

/-- What is looked for before a token is taken for what it is. -/
structure Checks where
  /-- Line feeds are passed over. -/
  newlines : Bool
  keywords : Bool
  aliases : Bool
  /-- A word ends a here-document, so that nothing is put into it. -/
  delimiter : Bool
  deriving Repr, DecidableEq

/-- Nothing is looked for. -/
def Checks.none : Checks := ⟨false, false, false, false⟩

/-- A command may come. -/
def Checks.command : Checks := ⟨false, true, true, false⟩

/-- A command may come on a line below. -/
def Checks.below : Checks := ⟨true, true, true, false⟩

/-- An alias whose text is being read. -/
structure Opened where
  /-- Its name, and the names of the aliases in whose texts it stood. -/
  names : List Text
  /-- How much text is left where its text ends. -/
  stop : Nat
  /-- Whether its text ends in a blank, so that the next word may be an alias too. -/
  goesOn : Bool

/-- A text that is being read. -/
structure Reading where
  rest : Text
  line : Nat
  /-- Where reading goes on after the end of the line, behind its here-documents. -/
  resume : Option (Text × Nat)
  aliases : List (Text × Text)
  opened : List Opened
  /-- The last token. -/
  token : Token
  /-- The names of the aliases in whose texts the last token began. -/
  around : List Text
  /-- The last word, whatever was taken for it. -/
  word : Word
  /-- Whether the last token is to be read once more. -/
  kept : Bool
  checks : Checks

/-- A mistake in a text, on a line. -/
structure Misprint where
  line : Nat
  message : String

/-- Reads from a text. -/
abbrev Reader := StateT Reading (Except Misprint)

/-- A text that has not been read from. -/
def Reading.start (line : Nat) (aliases : List (Text × Text)) (text : Text) : Reading :=
  ⟨text, line, none, aliases, [], .finish, [], [], false, .none⟩

/-- Reports a mistake on the line that is being read. -/
def misprint {α : Type} (message : String) : Reader α := do
  throw ⟨(← get).line, message⟩

/-- The text after pairs of a backslash and a line feed, of which there are some more now. -/
def dropJoints (count : Nat) : Text → Text × Nat
  | '\\' :: '\n' :: rest => dropJoints (count + 1) rest
  | text => (text, count)

/-- Passes over pairs of a backslash and a line feed. -/
def Reading.join (r : Reading) : Reading :=
  let (rest, count) := dropJoints 0 r.rest
  { r with rest := rest, line := r.line + count }

/-- Passes over one character. A line with here-documents ends behind them. -/
def Reading.advance (r : Reading) : Reading :=
  match r.rest with
  | [] => r
  | '\n' :: rest =>
    match r.resume with
    | some (text, lines) => { r with rest := text, line := r.line + 1 + lines, resume := none }
    | none => { r with rest := rest, line := r.line + 1 }
  | _ :: rest => { r with rest := rest }

/-- The next character; lines that a backslash joins are one. -/
def peek : Reader (Option Char) := do
  modify Reading.join
  return (← get).rest.head?

/-- Passes over the next character. -/
def skip : Reader Unit := modify Reading.advance

/-- Takes the next character if it is the given one. -/
def takeIf (c : Char) : Reader Bool := do
  if (← peek) == some c then
    skip
    return true
  return false

/-- Takes characters that pass a test. -/
def takeAll (fuel : Nat) (p : Char → Bool) (done : Text) : Reader Text := do
  match fuel, ← peek with
  | fuel + 1, some c =>
    if p c then
      skip
      takeAll fuel p (c :: done)
    else return done.reverse
  | _, _ => return done.reverse

/-- Passes over blanks, and over a comment up to the end of its line. -/
def skipBlanks (fuel : Nat) : Reader Unit := do
  match fuel, ← peek with
  | fuel + 1, some c =>
    if c == ' ' || c == '\t' then
      skip
      skipBlanks fuel
    else if c == '#' then modify fun r => { r with rest := r.rest.dropWhile (· ≠ '\n') }
  | _, _ => return ()

/-- Characters that end a word where they are not quoted. -/
def isMeta (c : Char) : Bool := " \t\n;&|<>()".toList.contains c

/-- The parameters that are named by one special character, digits aside. -/
def isSpecial (c : Char) : Bool := "@*#?-$!".toList.contains c

/-- Takes a second character to an operator if it comes next. -/
def takeDouble (c : Char) : Reader Token := do
  if ← takeIf c then return .operator (String.ofList [c, c])
  return .operator (String.ofList [c])

/-- Takes the operator that comes next, if one does. -/
def takeOperator? : Reader (Option Token) := do
  match ← peek with
  | none => return some .finish
  | some '\n' =>
    skip
    return some .newline
  | some c =>
    if c == '&' || c == '|' || c == ';' then
      skip
      some <$> takeDouble c
    else if c == '(' || c == ')' then
      skip
      return some (.operator (String.ofList [c]))
    else return none

/-- Takes the operator of a redirection. -/
def takeRedirection (descriptor : Option Nat) : Reader Token := do
  if ← takeIf '>' then
    if ← takeIf '>' then return .redirect descriptor ">>"
    if ← takeIf '|' then return .redirect descriptor ">|"
    if ← takeIf '&' then return .redirect descriptor ">&"
    return .redirect descriptor ">"
  skip
  if ← takeIf '<' then
    if ← takeIf '-' then return .redirect descriptor "<<-"
    return .redirect descriptor "<<"
  if ← takeIf '&' then return .redirect descriptor "<&"
  if ← takeIf '>' then return .redirect descriptor "<>"
  return .redirect descriptor "<"

/-- Forgets aliases whose text has been read; whether the next word may be an alias because of
one of them. -/
def closeAliases : Reader Bool := do
  let r ← get
  if r.opened.isEmpty then return false
  let left := r.rest.length
  let (closed, opened) := r.opened.partition fun a => left ≤ a.stop
  set { r with opened := opened }
  return closed.any (·.goesOn)

/-- Puts the text of an alias in front of what is left. A word in the text of an alias is not this
alias again. -/
def openAlias (name : Text) : Reader Bool := do
  let r ← get
  match r.aliases.find? fun a => a.1 == name with
  | none => return false
  | some (_, text) =>
    if r.around.contains name then return false
    let goesOn := text.getLast? == some ' ' || text.getLast? == some '\t'
    set { r with
      rest := text ++ r.rest
      opened :=
        if text.isEmpty then r.opened
        else ⟨name :: r.around, r.rest.length, goesOn⟩ :: r.opened }
    return true

/-- The tokens that a text begins with are to be looked at in the given way. -/
def look (checks : Checks) : Reader Unit := modify fun r => { r with checks := checks }

/-- Reads the last token once more. -/
def keep : Reader Unit := modify fun r => { r with kept := true }

/-- The last token does not fit. -/
def unexpected {α : Type} (expecting : Option String) : Reader α := do
  let found := (← get).token.describe
  match expecting with
  | none => misprint s!"{found} unexpected"
  | some e => misprint s!"{found} unexpected (expecting {e})"

end Lockstep.Shell
