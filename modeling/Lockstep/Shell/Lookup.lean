import Lockstep.Shell.Builtin
import Lockstep.Shell.Grammar

/-!
# Commands by their names

A name with a slash is the path of a program. Any other one is a function, a command of the shell,
or a program in one of the directories of the search path; where a program was found is remembered.
What is found may turn out not to run.
-/

namespace Lockstep.Shell

open Files

/-- The names of the commands of the shell. -/
def builtinNames : List String :=
  specialNames ++
    ["[", "alias", "bg", "cd", "chdir", "command", "echo", "false", "fg", "getopts", "hash", "jobs",
      "kill", "printf", "pwd", "read", "test", "true", "type", "ulimit", "umask", "unalias", "wait"]

/-- Commands whose arguments may be assignments, which are not split. -/
def assigningNames : List String := ["export", "local", "readonly"]

/-- What a name means as a command. -/
inductive Target where
  | function (body : Command)
  | builtin
  /-- A program, perhaps in one of several places. -/
  | program (paths : List Text)
  | missing (denied : Bool)

/-- The search path where nothing else is said. -/
def standardPath : String := "/usr/local/sbin:/usr/local/bin:/usr/sbin:/usr/bin:/sbin:/bin"

/-- The places in which a program may be, by a search path. -/
def candidates (path name : Text) : List Text :=
  (path.splitOnP (· == ':')).map fun d => if d.isEmpty then name else d ++ '/' :: name

/-- Whether a path leads to something like a program; whether something else is there. -/
def isProgram (tree : Tree) (path : Text) : Bool × Bool :=
  match tree.existing (asString path) with
  | .ok (_, .program _) | .ok (_, .file _ _) => (true, false)
  | .ok _ => (false, true)
  | .error cause => (false, cause ≠ .notFound && cause ≠ .notDirectory)

/-- What a name means apart from functions and commands of the shell, by a search path. -/
def findProgram (s : State) (path name : Text) : Target :=
  if name.contains '/' then .program [name]
  else
    let places := candidates path name
    match places.dropWhile fun p => !(isProgram s.tree p).1 with
    | [] => .missing (places.any fun p => (isProgram s.tree p).2)
    | found => .program found

/-- The search path of the shell. -/
def searchPath (s : State) : Text := (s.valueOf? "PATH").getD []

/-- Remembers where a program was found. -/
def noteProgram (name : Text) (target : Target) : Run Unit := do
  match target with
  | .program (path :: _) =>
    if !name.contains '/' then modify fun s => { s with found := putEntry name path s.found }
  | _ => pure ()

/-- What a name means apart from functions. -/
def findCommand (path name : Text) : Run Target := do
  if builtinNames.contains (asString name) then return .builtin
  let s ← get
  let target := findProgram s path name
  if path == searchPath s then noteProgram name target
  return target

/-- What a name means. -/
def findTarget (path name : Text) : Run Target := do
  match entryOf? name (← get).functions with
  | some body => return .function body
  | none => findCommand path name

/-- Remembers where the program of a command is, if it has a plain name. -/
def noteCommand (command : Command) : Run Unit := do
  match command with
  | .simple _ _ (w :: _) _ =>
    let name := (Word.bare? w).getD []
    if isName name then discard (findTarget (searchPath (← get)) name)
  | _ => pure ()

/-- What runs under a path. -/
inductive Runnable where
  | tool (name : String)
  /-- A text, with the program that reads it, and what this is told first. -/
  | script (reader : Option (Text × Option Text)) (content : Text)

/-- The program that the first line of a script names. -/
def scriptReader (content : Text) : Option (Text × Option Text) :=
  match content with
  | '#' :: '!' :: rest =>
    let isBlank (c : Char) : Bool := c == ' ' || c == '\t'
    let line := (rest.takeWhile (· ≠ '\n')).dropWhile isBlank
    let path := line.takeWhile fun c => !isBlank c
    let argument := (((line.drop path.length).dropWhile isBlank).reverse.dropWhile isBlank).reverse
    some (path, if argument.isEmpty then none else some argument)
  | _ => none

/-- What runs under a path, if anything does. -/
def runnableAt (tree : Tree) (path : Text) : Except SystemError Runnable :=
  match tree.existing (asString path) with
  | .error cause => .error cause
  | .ok (_, .program name) => .ok (.tool name)
  | .ok (_, .file content true) =>
    let text := ofBytes content
    .ok (.script (scriptReader text) text)
  | .ok _ => .error .permissionDenied

/-- What runs first of some places, or why nothing does. -/
def firstRunnable (tree : Tree) (cause : SystemError) :
    List Text → Except SystemError (Text × Runnable)
  | [] => .error cause
  | path :: rest =>
    match runnableAt tree path with
    | .ok found => .ok (path, found)
    | .error other =>
      let isAbsent := other == .notFound || other == .notDirectory
      firstRunnable tree (if isAbsent then cause else other) rest

/-- What the system says of an error, without its number. -/
def reason : SystemError → String
  | .numbered n => SystemError.description n
  | e => e.message

/-- What the shell says of an error, with its own words for a file that is not there. -/
def reasonOr (absent : String) (cause : SystemError) : String :=
  if cause == .notFound || cause == .notDirectory then absent else reason cause

/-- The status after a program that could not be run. -/
def failureStatus (cause : SystemError) : Nat :=
  if [.notFound, .notDirectory, .nameTooLong, .tooManyLinks].contains cause then 127 else 126

/-- Says what a name means, in a sentence or by what runs; whether it means something. -/
def describeCommand (path : Option Text) (verbose : Bool) (name : Text) : Run Bool := do
  let s ← get
  let say (sentence brief : Text) : Run Bool := do
    put ((if verbose then name ++ sentence else brief) ++ ['\n'])
    return true
  if (keyword? name).isSome then return ← say (ofString " is a shell keyword") name
  if let some value := entryOf? name s.aliases then
    let line := "alias ".toList ++ name ++ '=' :: quoted value
    return ← say (" is an alias for ".toList ++ value) line
  let tracked := if path.isSome then none else entryOf? name s.found
  let own := if path.isSome then none else entryOf? name s.functions
  if own.isSome then return ← say (ofString " is a shell function") name
  match tracked with
  | some place => say (" is a tracked alias for ".toList ++ place) place
  | none =>
    match ← findCommand (path.getD (searchPath s)) name with
    | .builtin =>
      let special := if specialNames.contains (asString name) then "special " else ""
      say (ofString s!" is a {special}shell builtin") name
    | .program (place :: _) =>
      let isThere := match s.tree.existing (asString place) with
        | .ok _ => true
        | .error _ => false
      if isThere then say (" is ".toList ++ place) place
      else
        if verbose then put (name ++ ofString ": not found\n")
        return false
    | _ =>
      if verbose then put (name ++ ofString ": not found\n")
      return false

/-- Says what names mean. -/
def typeCommand (args : List Text) : Run Nat := do
  let mut status := 0
  for name in args do
    if !(← describeCommand none true name) then status := 127
  return status

/-- Remembers where programs are, forgets it, or lists it. -/
def hash (args : List Text) : Run Nat := do
  let found ← options "r" args
  if found.has 'r' then
    modify fun s => { s with found := [] }
    return 0
  if found.arguments.isEmpty then
    for (_, place) in tabled 31 (← get).found do
      put (place ++ ['\n'])
  let mut status := 0
  for name in found.arguments do
    let s ← get
    set { s with found := dropEntry name s.found }
    match ← findTarget (searchPath s) name with
    | .missing denied =>
      let cause := if denied then "Permission denied" else "not found"
      complain s!"{asString name}: {cause}"
      status := 1
    | _ => pure ()
  return status

end Lockstep.Shell
