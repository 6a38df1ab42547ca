import Lockstep.Shell.Option
import Lockstep.Shell.Printing
import Lockstep.Shell.Testing

/-!
# Commands of the shell itself

These commands need no program: they look at the state of the shell and change it. They print to
the output what they list, and give up at a mistake in their use.
-/

namespace Lockstep.Shell

open Files

/-- A value in quotes, as the shell lists it: single quotes in it stand in double ones. -/
def quoteRuns (fuel : Nat) (t : Text) : Text :=
  match fuel with
  | 0 => []
  | fuel + 1 =>
    let plain := t.takeWhile (· ≠ '\'')
    let rest := t.drop plain.length
    let quotes := rest.takeWhile (· == '\'')
    let rest := rest.drop quotes.length
    let start := '\'' :: plain ++ ['\'']
    if quotes.isEmpty then start
    else
      let start := start ++ '"' :: quotes ++ ['"']
      if rest.isEmpty then start else start ++ quoteRuns fuel rest

/-- A value in quotes. -/
def quoted (t : Text) : Text := quoteRuns (t.length + 1) t

/-- The number that an argument is; anything else is a mistake. -/
def countArgument (t : Text) : Run Nat := do
  match count? t with
  | some n => return n
  | none => fail s!"Illegal number: {asString t}"

/-- The name and the value of an argument such as `name=value`. -/
def splitAssignment (arg : Text) : Text × Option Text :=
  match arg.dropWhile (· ≠ '=') with
  | _ :: value => (arg.takeWhile (· ≠ '='), some value)
  | [] => (arg, none)

/-- Prints variables in the order of their names, with a word in front. -/
def listVariables (word : Text) (entries : List (Text × Variable)) : Run Unit := do
  let start := if word.isEmpty then [] else word ++ [' ']
  for (name, v) in entries.mergeSort fun a b => inOrder a.1 b.1 do
    match v.value with
    | some value => put (start ++ name ++ '=' :: quoted value ++ ['\n'])
    | none => put (start ++ name ++ ['\n'])

/-- Marks variables for other programs or against changes, and gives values to them. -/
def declare (command : String) (args : List Text) : Run Nat := do
  let exporting := command = "export"
  let found ← options "p" args
  let isMarked (v : Variable) : Bool := if exporting then v.exported else v.readonly
  let mark (v : Variable) : Variable :=
    if exporting then { v with exported := true } else { v with readonly := true }
  if found.has 'p' || found.arguments.isEmpty then
    let s ← get
    listVariables command.toList (s.bindings.filter fun b => isMarked b.2)
    return 0
  for arg in found.arguments do
    let (name, value) := splitAssignment arg
    let s ← get
    match value, s.lookUp? name with
    | some v, _ =>
      assign name v
      modify fun s => s.putVariable name (mark ((s.lookUp? name).getD ⟨some v, false, false⟩))
    | none, some v => set (s.putVariable name (mark v))
    | none, none =>
      if !isName name then fail (VariableFault.badName name).message
      set (s.putVariable name (mark ⟨none, s.option 'a', false⟩))
  return 0

/-- Remembers what is to be put back when the function returns. -/
def remember (saved : Saved) : Run Unit :=
  modify fun s =>
    match s.saved with
    | frame :: frames => { s with saved := (saved :: frame) :: frames }
    | [] => s

/-- Makes variables of a function its own, or the options of the shell. -/
def makeLocal (args : List Text) : Run Nat := do
  if (← get).saved.isEmpty then fail "not in a function"
  let found ← options "" args
  for arg in found.arguments do
    let s ← get
    if arg == ['-'] then remember (.options s.options)
    else
      let (name, value) := splitAssignment arg
      match value, s.lookUp? name with
      | some v, _ => adopt (s.give false name v)
      | none, some _ => pure ()
      | none, none =>
        if !isName name then fail (VariableFault.badName name).message
        set (s.putVariable name ⟨none, s.option 'a', false⟩)
      remember (.variable name (s.lookUp? name))
  return 0

/-- Puts back what a function had made its own. -/
def putBack (frame : List Saved) : Run Unit := do
  for saved in frame do
    match saved with
    | .options old => modify fun s => { s with options := old }
    | .variable name old =>
      if old.isNone && !isName name then fail (VariableFault.badName name).message
      modify fun s => s.restore name old

/-- Forgets variables or functions. -/
def unset (args : List Text) : Run Nat := do
  let found ← options "vf" args
  let functions := (found.letters.getLast?.map (·.1)) == some 'f'
  for name in found.arguments do
    let s ← get
    if functions then set { s with functions := dropEntry name s.functions }
    else adopt (s.forget name)
  return 0

/-- Sets options and arguments, or lists variables. -/
def setCommand (args : List Text) : Run Nat := do
  if args.isEmpty then
    listVariables [] ((← get).bindings.filter fun b => b.2.value.isSome)
    return 0
  match (← setOptions (optionSteps args) false false true [] args).2 with
  | some rest => modify fun s => { s with arguments := rest, optionPlace := (1, none) }
  | none => pure ()
  return 0

/-- Drops arguments of the shell. -/
def shift (args : List Text) : Run Nat := do
  let n ← match args with
    | [] => pure 1
    | t :: _ => countArgument t
  let s ← get
  if n > s.arguments.length then fail "can't shift that many"
  set { s with arguments := s.arguments.drop n, optionPlace := (1, none) }
  return 0

/-- Sets or lists aliases. -/
def listAliases (args : List Text) : Run Nat := do
  let line (a : Text × Text) : Text := a.1 ++ '=' :: quoted a.2 ++ ['\n']
  if args.isEmpty then
    for a in tabled 39 (← get).aliases do
      put (line a)
  let mut status := 0
  for arg in args do
    let s ← get
    match arg.tail.dropWhile (· ≠ '=') with
    | _ :: value =>
      let name := arg.take (arg.length - value.length - 1)
      set { s with aliases := putEntry name value s.aliases }
    | [] =>
      match entryOf? arg s.aliases with
      | some value => put (line (arg, value))
      | none =>
        putError s!"alias: {asString arg} not found\n"
        status := 1
  return status

/-- Forgets aliases. -/
def unalias (args : List Text) : Run Nat := do
  let found ← options "a" args
  if found.has 'a' then
    modify fun s => { s with aliases := [] }
    return 0
  let mut status := 0
  for name in found.arguments do
    if (entryOf? name (← get).aliases).isNone then
      putError s!"unalias: {asString name} not found\n"
      status := 1
    modify fun s => { s with aliases := dropEntry name s.aliases }
  return status

/-- Sets or lists what is done at signals. -/
def trap (args : List Text) : Run Nat := do
  let found ← options "" args
  match found.arguments with
  | [] =>
    for (signal, action) in (← get).traps.mergeSort fun a b => a.1 ≤ b.1 do
      put ("trap -- ".toList ++ quoted action ++ ofString s!" {Signal.name signal}\n")
    return 0
  | first :: rest =>
    let isSignal := rest.isEmpty || (Signal.ofNumber? first).isSome
    let action := if isSignal || first == ['-'] then none else some first
    for text in if isSignal then first :: rest else rest do
      match Signal.ofText? 0 text with
      | none =>
        putError s!"trap: {asString text}: bad trap\n"
        return 1
      | some signal =>
        modify fun s =>
          let others := s.traps.filter fun t => t.1 != signal
          { s with traps := (action.map fun a => (signal, a)).toList ++ others }
    return 0

/-- Gives a signal to the shell. -/
def receive (signal : Signal) : Run Unit := do
  let s ← get
  let action := (s.traps.find? fun t => t.1 == signal).map (·.2)
  if Signal.isForced signal && !Signal.isPause signal then throw (.killed signal)
  if s.ignored.contains signal || action == some [] || signal = 0 then return ()
  if action.isSome then set { s with signals := signal :: s.signals }
  else if !Signal.isHarmless signal && !Signal.isPause signal then throw (.killed signal)

/-- Sends a signal to a process; whether there is one. -/
def send (signal : Signal) (process : Nat) : Run Bool := do
  let s ← get
  if process = s.number && !s.isChild then
    receive signal
    return true
  if process = s.number || process = s.parent then
    set { s with outward := s.outward ++ [(process, signal)] }
    return true
  let hit (j : Job) : Job :=
    if j.number = process && j.ended.isNone && !Signal.isHarmless signal then
      { j with ended := some (.killed signal) }
    else j
  set { s with jobs := s.jobs.map hit }
  return s.jobs.any fun j => j.number = process

/-- The usage of `kill`. -/
def killUsage : String :=
  "Usage: kill [-s sigspec | -signum | -sigspec] [pid | job]... or\nkill -l [exitstatus]"

/-- Sends a signal to processes, or lists signals. -/
def kill (args : List Text) : Run Nat := do
  if args.isEmpty then fail killUsage
  let direct :=
    match args with
    | ('-' :: name) :: _ => Signal.ofText? 1 name
    | _ => none
  let (signal, list, targets) ← match direct with
    | some signal => pure (some signal, false, args.tail)
    | none => do
      let found ← options "ls:" args
      let named ← match (found.letters.reverse.find? fun l => l.1 == 's').map (·.2) with
        | none => pure none
        | some name =>
          match Signal.ofText? 1 name with
          | some signal => pure (some signal)
          | none => fail s!"invalid signal number or name: {asString name}"
      let list := found.has 'l'
      pure (if list then named else named.or (some 15), list, found.arguments)
  if (signal.isNone || targets.isEmpty) != list then fail killUsage
  if list then
    match targets with
    | [] =>
      putString "0\n"
      for n in List.range (Signal.count - 1) do
        putString s!"{Signal.name (n + 1)}\n"
      return 0
    | t :: _ =>
      let n ← countArgument t
      let n := if n > 128 then n - 128 else n
      if n = 0 || n ≥ Signal.count then
        fail s!"invalid signal number or exit status: {asString t}"
      putString s!"{Signal.name n}\n"
      return 0
  let mut status := 0
  for target in targets do
    let there ← match target with
      | '%' :: _ => fail s!"No such job: {asString target}"
      | '-' :: digits => do
        let _ ← countArgument digits
        pure false
      | _ => send (signal.getD 15) (← countArgument target)
    if !there then
      complain "No such process\n"
      status := 1
  return status

/-- A path without the components that lead nowhere, where it is followed from a directory. -/
def normalPath (directory path : Text) : Text :=
  let isAbsolute := path.head? == some '/'
  let whole := if isAbsolute then path else directory ++ '/' :: path
  let start : Text :=
    match whole with
    | '/' :: '/' :: rest => if rest.head? == some '/' then ['/'] else ['/', '/']
    | _ => ['/']
  let parts := (asString whole).splitOn "/"
  let step (done : List String) (part : String) : List String :=
    if part = "" || part = "." then done else if part = ".." then done.tail else part :: done
  start ++ ofString ("/".intercalate (parts.foldl step []).reverse)

/-- Goes to another directory, whose path is followed as it is written or as it leads; whether it
is there. -/
def enter (physical : Bool) (path : Text) : Run Bool := do
  let s ← get
  let target := if physical then path else normalPath s.directory path
  match s.tree.existing (asString target) with
  | .ok (place, .directory _) =>
    set { s with tree := { s.tree with workingDirectory := place } }
    adopt ((← get).give true "OLDPWD".toList s.directory)
    let directory := if physical then ofString (showPath place) else target
    modify fun s => { s with directory := directory }
    adopt ((← get).give true "PWD".toList directory)
    return true
  | _ => return false

/-- The directories in which a relative directory is looked for. -/
def directoryCandidates (s : State) (path : Text) : List (Text × Bool) :=
  let isPlain := ["/", "./", "../"].any fun p => p.toList.isPrefixOf (path ++ ['/'])
  match s.valueOf? "CDPATH" with
  | some list =>
    if isPlain then []
    else
      let parts := (list.splitOnP (· == ':'))
      parts.map fun d => if d.isEmpty then (path, false) else (d ++ '/' :: path, true)
  | none => []

/-- Changes the working directory. -/
def changeDirectory (args : List Text) : Run Nat := do
  let found ← options "LP" args
  let s ← get
  let physical := (found.letters.getLast?.map (·.1)) == some 'P'
  let (path, shown) :=
    match found.arguments with
    | [] => ((s.valueOf? "HOME").getD [], false)
    | ['-'] :: _ => ((s.valueOf? "OLDPWD").getD [], true)
    | t :: _ => (t, false)
  let path := if path.isEmpty then ['.'] else path
  let isDirectory (p : Text) : Bool :=
    match s.tree.existing (asString p) with
    | .ok (_, .directory _) => true
    | _ => false
  let (target, shown) :=
    match (directoryCandidates s path).find? fun c => isDirectory c.1 with
    | some (p, isOther) => (p, shown || isOther)
    | none => (path, shown)
  if !(← enter physical target) then fail s!"can't cd to {asString path}"
  if shown then put ((← get).directory ++ ['\n'])
  return 0

/-- Prints the working directory. -/
def printDirectory (args : List Text) : Run Nat := do
  let found ← options "LP" args
  let s ← get
  if (found.letters.getLast?.map (·.1)) == some 'P' then
    putString s!"{showPath s.tree.workingDirectory}\n"
  else put (s.directory ++ ['\n'])
  return 0

/-- The pieces of a line, the text after it, and whether the line has an end. A backslash keeps the
character after it in one piece with its neighbours, and joins lines, unless `raw` says otherwise.
The cells of the piece that is being read come last first, and so do the pieces before it. -/
def linePieces (raw : Bool) (cells : List Cell) (done : List Piece) :
    Text → List Piece × Text × Bool
  | [] => ((⟨.split, cells.reverse⟩ :: done).reverse, [], false)
  | ['\\'] =>
    let cells := if raw then .char '\\' false :: cells else cells
    ((⟨.split, cells.reverse⟩ :: done).reverse, [], false)
  | '\\' :: c :: rest =>
    if raw then linePieces raw (.char '\\' false :: cells) done (c :: rest)
    else if c == '\n' then linePieces raw [] (⟨.split, cells.reverse⟩ :: done) rest
    else linePieces raw [] (⟨.fixed, [.char c true]⟩ :: ⟨.split, cells.reverse⟩ :: done) rest
  | '\n' :: rest => ((⟨.split, cells.reverse⟩ :: done).reverse, rest, true)
  | c :: rest => linePieces raw (if c == '\x00' then cells else .char c false :: cells) done rest
  termination_by t => t.length

/-- Reads a line into variables. -/
def readInto (args : List Text) : Run Nat := do
  let found ← options "p:r" args
  let names := found.arguments
  if names.isEmpty then fail "arg count"
  let s ← get
  let text := s.unread 0
  let (pieces, rest, isWhole) := linePieces (found.has 'r') [] [] text
  set (s.resume 0 text rest)
  let fields := splitFields (separators s) (some names.length) pieces
  for (name, i) in names.zip (List.range names.length) do
    assign name (textOf ((fields[i]?).getD []))
  return if isWhole then 0 else 1

/-- Where the search for the next option stands. -/
structure OptionSearch where
  /-- What is left of the argument that is being searched. -/
  letters : Text
  /-- The arguments after it. -/
  rest : List Text

/-- What has been found of an option: its letter, its argument, and where the search goes on. -/
structure OptionFound where
  letter : Char
  argument : Option Text
  after : OptionSearch
  /-- Something to complain of. -/
  complaint : Option String

/-- Looks for the next option, whose letters are given, those that take an argument with a colon. -/
def nextOption (known : Text) (search : OptionSearch) : Option OptionFound :=
  let start : Option OptionSearch :=
    match search.letters, search.rest with
    | _ :: _, _ => some search
    | [], ('-' :: c :: more) :: rest =>
      if c == '-' && more.isEmpty then none else some ⟨c :: more, rest⟩
    | [], _ => none
  match start with
  | some ⟨c :: more, rest⟩ =>
    let quiet := known.head? == some ':'
    let wrong (letter : Char) (complaint : String) : OptionFound :=
      if quiet then ⟨letter, some [c], ⟨more, rest⟩, none⟩
      else ⟨'?', none, ⟨more, rest⟩, some complaint⟩
    match (if c == ':' then [] else known).dropWhile (· ≠ c), more, rest with
    | [], _, _ => some (wrong '?' s!"Illegal option -{asString [c]}\n")
    | _ :: ':' :: _, [], [] => some (wrong ':' s!"No arg for -{asString [c]} option\n")
    | _ :: ':' :: _, [], taken :: rest => some ⟨c, some taken, ⟨[], rest⟩, none⟩
    | _ :: ':' :: _, taken, rest => some ⟨c, some taken, ⟨[], rest⟩, none⟩
    | _, _, _ => some ⟨c, some [], ⟨more, rest⟩, none⟩
  | _ => none

/-- Looks for the next option of the arguments of the shell, or of others. -/
def getopts (args : List Text) : Run Nat := do
  let found ← options "" args
  match found.arguments with
  | known :: name :: others =>
    let s ← get
    let args := if others.isEmpty then s.arguments else others
    let (index, offset) := if s.optionPlace.1 > args.length + 1 then (1, none) else s.optionPlace
    let left :=
      match offset, args[index - 2]? with
      | some n, some word => if index ≤ 1 then [] else word.drop n
      | _, _ => []
    let search : OptionSearch := ⟨left, args.drop (index - 1)⟩
    let result := nextOption known search
    let after : OptionSearch :=
      match result with
      | some found => found.after
      | none =>
        match search.rest with
        | ['-', '-'] :: rest => ⟨[], rest⟩
        | rest => ⟨[], rest⟩
    let index := args.length - after.rest.length + 1
    match result with
    | some found =>
      match found.complaint with
      | some message =>
        putError message
        adopt ((← get).forget "OPTARG".toList)
      | none => assign "OPTARG".toList (found.argument.getD [])
    | none => pure ()
    assign "OPTIND".toList (ofString s!"{index}")
    assign name [(result.map (·.letter)).getD '?']
    let offset :=
      match after.letters, args[index - 2]? with
      | [], _ | _, none => none
      | letters, some word => some (word.length - letters.length)
    modify fun s => { s with optionPlace := (index, offset) }
    return if result.isSome then 0 else 1
  | _ => fail "Usage: getopts optstring var [arg...]"

/-- Four octal digits. -/
def octal4 (n : Nat) : String :=
  let digits := Nat.toDigits 8 n
  String.ofList (List.replicate (4 - digits.length) '0' ++ digits)

/-- The letters of the rights that three bits give. -/
def rightLetters (bits : Nat) : String :=
  (if bits / 4 % 2 = 1 then "r" else "") ++ (if bits / 2 % 2 = 1 then "w" else "") ++
    (if bits % 2 = 1 then "x" else "")

/-- The same three bits for user, group and others, where a letter or a sign for it is given. -/
def forClasses (classes : Text) (bits : Nat) : Nat :=
  let wants (c : Char) : Bool := classes.isEmpty || classes.contains c || classes.contains 'a'
  (if wants 'u' then bits * 64 else 0) + (if wants 'g' then bits * 8 else 0) +
    (if wants 'o' then bits else 0)

/-- Changes rights by what a sign and letters say, over and over. -/
def changeRights (fuel : Nat) (classes : Text) (rights : Nat) (t : Text) : Option Nat :=
  match fuel, t with
  | 0, _ => none
  | _ + 1, [] => some rights
  | fuel + 1, sign :: rest =>
    if !"+-=".toList.contains sign then none
    else
      let letters := rest.takeWhile fun c => "rwxXstugo".toList.contains c
      let bit (c : Char) : Nat :=
        match c with
        | 'r' => 4
        | 'w' => 2
        | 'x' => 1
        | 'X' => if rights &&& 73 = 0 then 0 else 1
        | 'u' => rights / 64 % 8
        | 'g' => rights / 8 % 8
        | 'o' => rights % 8
        | _ => 0
      let bits := forClasses classes (letters.foldl (fun n c => n ||| bit c) 0)
      let cleared := rights &&& (511 - forClasses classes 7)
      let rights :=
        if sign == '+' then rights ||| bits
        else if sign == '-' then rights &&& (511 - bits)
        else cleared ||| bits
      changeRights fuel classes rights (rest.drop letters.length)

/-- The rights after a change given by letters. -/
def symbolicRights? (rights : Nat) (t : Text) : Option Nat :=
  if t.isEmpty then some rights
  else
    (t.splitOnP (· == ',')).foldlM (fun rights clause =>
      let classes := clause.takeWhile fun c => "ugoa".toList.contains c
      if clause.isEmpty then none
      else changeRights (clause.length + 1) classes rights (clause.drop classes.length)) rights

/-- Shows or sets the rights that new files do not get. -/
def umask (args : List Text) : Run Nat := do
  let found ← options "S" args
  let mask := (← get).mask
  match found.arguments with
  | [] =>
    if found.has 'S' then
      let rights := 511 - mask
      let user := rightLetters (rights / 64)
      let group := rightLetters (rights / 8 % 8)
      let others := rightLetters (rights % 8)
      putString s!"u={user},g={group},o={others}\n"
    else putString s!"{octal4 mask}\n"
    return 0
  | t :: _ =>
    if (t.headD ' ').isDigit then
      if !t.all isOctal then fail s!"Illegal number: {asString t}"
      modify fun s => { s with mask := digitsValue 8 t % 512 }
    else
      match symbolicRights? (511 - mask) t with
      | some rights => modify fun s => { s with mask := 511 - rights }
      | none => fail s!"Illegal mode: {asString t}"
    return 0

/-- Leaves the shell. -/
def exit (args : List Text) : Run Nat := do
  match args with
  | [] => pure ()
  | t :: _ =>
    let n ← countArgument t
    modify fun s => { s with settled := some n }
  throw .exited

/-- Leaves a function or a file. -/
def leaveFunction (args : List Text) : Run Nat := do
  match args with
  | [] => throw (.returned false)
  | t :: _ =>
    setStatus (← countArgument t)
    throw (.returned true)

/-- Leaves loops, or goes to their next turn. -/
def leaveLoops (name : String) (args : List Text) : Run Nat := do
  let levels ← match args with
    | [] => pure 1
    | t :: _ => do
      let n ← countArgument t
      if n = 0 then fail s!"Illegal number: {asString t}"
      pure n
  let levels := min levels (← get).loops
  if levels > 0 then
    setStatus 0
    throw (if name = "break" then .broken levels else .continued levels)
  return 0

/-- What a command in the background is about. -/
def Job.state (j : Job) : String :=
  match j.ended with
  | none => "Running"
  | some (.exited 0) => "Done"
  | some (.exited n) => s!"Done({n})"
  | some (.killed signal) => Signal.description signal

/-- Lists the commands in the background, and forgets those that have come to their end. -/
def listJobs (args : List Text) : Run Nat := do
  let _ ← options "lp" args
  let jobs := (← get).jobs
  for (job, i) in jobs.zip (List.range jobs.length) do
    if !job.waited then
      let sign := if i + 1 = jobs.length then "+" else if i + 2 = jobs.length then "-" else " "
      let line := s!"[{i + 1}] {sign} {job.state}"
      let gap := String.ofList (List.replicate (33 - line.length) ' ')
      putString s!"{line}{gap}\n"
  modify fun s => { s with jobs := s.jobs.filter (·.ended.isNone) }
  return 0

/-- Would go on with a command in the background, if the shell could. -/
def resumeJob (args : List Text) : Run Nat := do
  let found ← options "" args
  match found.arguments with
  | [] => fail "No current job"
  | job :: _ => fail s!"No such job: {asString job}"

/-- The time that the shell and its programs have taken, which nobody measures. -/
def showTimes : Run Nat := do
  let line := "0m0.000000s 0m0.000000s\n"
  putString (line ++ line)
  return 0

/-- The limits of the shell; there are none. -/
def ulimit (args : List Text) : Run Nat := do
  let found ← options "HSatfdscmlpnvwr" args
  if !found.arguments.isEmpty then return 0
  putString (if found.has 'c' then "0\n" else if found.has 'n' then "1048576\n" else "unlimited\n")
  return 0

end Lockstep.Shell
