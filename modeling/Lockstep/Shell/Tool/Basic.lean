import Lockstep.Shell.Lookup

/-!
# What programs of the system share

The small programs that scripts call read files or the input, and write to the output. Their
arguments begin with options, and each complains in its own name.
-/

namespace Lockstep.Shell

open Files

/-- Complains in the name of a program. -/
def fault (program message : String) : Run Unit := putError s!"{program}: {message}\n"

/-- Writes what has been printed; where that fails the program complains. -/
def deliver (program : String) : Run Bool := do
  let full :=
    match (← get).stream? 1 with
    | some (_, ⟨.full, _, true⟩) => true
    | _ => false
  if ← flush then return true
  let cause := reason (if full then .noSpace else .badDescriptor)
  fault program s!"write error: {cause}"
  return false

/-- Complains and points to the help of a program. -/
def misuse (program message : String) : Run Nat := do
  fault program message
  putError s!"Try '{program} --help' for more information.\n"
  return 1

/-- The content of a file or, under the name `-`, of the input; endless bytes only up to a limit. -/
def content (path : Text) (limit : Nat) : Run (Except SystemError Text) := do
  let s ← get
  if path == ['-'] then
    match s.stream? 0 with
    | some (_, ⟨_, true, _⟩) => return .ok (← readAll 0)
    | _ => return .error .badDescriptor
  match s.tree.existing (asString path) with
  | .ok (_, .device .zero) | .ok (_, .device .full) => return .ok (List.replicate limit '\x00')
  | _ => return ofBytes <$> s.tree.read (asString path)

/-- The contents of files, or of the input where none is named, and the status. -/
def contents (complainOf : Text → SystemError → Run Unit) (paths : List Text) :
    Run (List (Text × Text) × Bool) := do
  let mut found := []
  let mut good := true
  for path in if paths.isEmpty then [['-']] else paths do
    match ← content path 0 with
    | .ok text => found := (path, text) :: found
    | .error cause =>
      complainOf path cause
      good := false
  return (found.reverse, good)

/-- Separates the options of a program from its other arguments. -/
def splitOptions (args : List Text) : List Text × List Text :=
  let isOption (a : Text) : Bool := a.head? == some '-' && a.length > 1
  let before := args.takeWhile (· ≠ ['-', '-'])
  let after := (args.drop before.length).drop 1
  (before.filter isOption, before.filter (fun a => !isOption a) ++ after)

/-- The lines of a text without their line feeds. -/
def linesOf (t : Text) : List Text :=
  let step (c : Char) (p : List Text) : List Text :=
    if c == '\n' then [] :: p
    else
      match p with
      | line :: rest => (c :: line) :: rest
      | [] => [[c]]
  match t with
  | [] => []
  | _ =>
    let body := if t.getLast? == some '\n' then t.dropLast else t
    body.foldr step [[]]

/-- Lines with a line feed after each. -/
def unlines (lines : List Text) : Text := lines.flatMap (· ++ ['\n'])

/-- The pieces of a text between separators. -/
def splitAt (separator : Char) (t : Text) : List Text :=
  let step (c : Char) (p : List Text) : List Text :=
    if c == separator then [] :: p
    else
      match p with
      | piece :: rest => (c :: piece) :: rest
      | [] => [[c]]
  t.foldr step [[]]

/-- The integer of an operand. -/
def operand? (t : Text) : Option Int :=
  match t with
  | '-' :: ds => (natural? ds).map fun n => -(n : Int)
  | _ => (natural? t).map fun n => (n : Int)

/-- Changes the tree. -/
def setTree (t : Tree) : Run Unit := modify fun s => { s with tree := t }

end Lockstep.Shell
