import Lockstep.Files.Tree
import Lockstep.Shell.Signal

/-!
# The state of a shell

A shell has variables, functions, aliases, arguments and descriptors of its own; the file tree, the
open streams and the commands in the background it shares with the processes around it. A
descriptor names a stream, and several may name the same one, so that they share its place. What
commands of the shell print is held back until they are done. Whatever leaves the usual course of a
command, such as `exit`, is an interruption, which passes through the commands around it up to the
one that takes it.
-/

namespace Lockstep.Shell

open Files

/-- What a stream leads to. -/
inductive Channel where
  | null
  | zero
  /-- Takes nothing. -/
  | full
  /-- Has this text left to read. -/
  | input (rest : Text)
  /-- Collects what is written, last pieces first. -/
  | output (pieces : List Text)
  /-- A file of the tree, read and written at an offset, or written at its end. -/
  | file (path : List String) (offset : Nat) (appends : Bool)
  deriving Repr

/-- Something that has been opened. -/
structure Stream where
  channel : Channel
  reads : Bool
  writes : Bool
  deriving Repr

/-- A variable of the shell. -/
structure Variable where
  value : Option Text
  exported : Bool
  readonly : Bool
  deriving Repr

/-- What is put back when a function returns. -/
inductive Saved where
  | variable (name : Text) (old : Option Variable)
  | options (old : List Char)

/-- What a shell has of its own. -/
structure Process where
  /-- The number by which it is known, and that of the process that started it. -/
  number : Nat
  parent : Nat
  descriptors : List (Nat × Nat)
  /-- In the order in which they were made. -/
  bindings : List (Text × Variable)
  /-- The name under which the shell runs. -/
  name : Text
  arguments : List Text
  /-- The argument that is searched for options next, and how much of the one before was. -/
  optionPlace : Nat × Option Nat
  functions : List (Text × Command)
  aliases : List (Text × Text)
  /-- Where commands were found. -/
  found : List (Text × Text)
  /-- The letters of the options that are on; those without one have a capital of their own. -/
  options : List Char
  status : Nat
  /-- The status of the last command that was put into a word. -/
  substituted : Nat
  /-- The status that the shell will have at its end, if that is settled. -/
  settled : Option Nat
  /-- What is done at a signal, or under number zero at the end. -/
  traps : List (Signal × Text)
  /-- Signals that were to be ignored from the beginning. -/
  ignored : List Signal
  /-- Signals that have come and wait for their traps. -/
  signals : List Signal
  /-- Whether it is a part of the shell that is known by this number. -/
  isChild : Bool
  mask : Nat
  background : Option Nat
  /-- How many loops there are to leave. -/
  loops : Nat
  /-- How many functions run. -/
  calls : Nat
  /-- The line of the command that runs. -/
  line : Nat
  /-- The command of the shell that runs, in whose name it complains. -/
  command : Text
  /-- The working directory by the path that led to it. -/
  directory : Text
  /-- For each function that runs, what to put back. -/
  saved : List (List Saved)
  /-- Whether the text in front of a traced command is being expanded. -/
  isTracing : Bool

/-- A command in the background. -/
structure Job where
  number : Nat
  process : Process
  place : List String
  body : Command
  /-- How it came to its end, if it has. -/
  ended : Option Ending
  /-- Whether somebody has waited for its end. -/
  waited : Bool

/-- Everything that a command can change. -/
structure State extends Process where
  tree : Tree
  streams : List Stream
  /-- What has been printed and not been written, last pieces first. -/
  printed : List Text
  jobs : List Job
  /-- The number of the process that was started last. -/
  lastProcess : Nat
  /-- Signals for the processes around this one, with their numbers. -/
  outward : List (Nat × Signal)

/-- What leaves the usual course of a command. -/
inductive Interruption where
  /-- Out of the shell, with the status that it has. -/
  | ended
  /-- Out of the shell by its own will, with the status that is settled. -/
  | exited
  /-- Out of the shell because of a mistake, unless the command takes it. -/
  | failed
  | killed (signal : Signal)
  /-- Out of a function or a file. The status may be left as it was. -/
  | returned (named : Bool)
  /-- Out of as many loops. -/
  | broken (levels : Nat)
  /-- To the next turn of the last of as many loops. -/
  | continued (levels : Nat)
  deriving Repr

/-- A shell at work. -/
abbrev Run := ExceptT Interruption (StateM State)

/-- The number of the first process. -/
def firstProcess : Nat := 4242

/-- The place of a name in a table of a given size. -/
def bucket (size : Nat) (name : Text) : Nat :=
  (name.foldl (fun n c => n + c.toNat) ((name.headD '\x00').toNat * 16)) % size

/-- Entries in the order in which a table of a given size has them. -/
def tabled {α : Type} (size : Nat) (entries : List (Text × α)) : List (Text × α) :=
  entries.mergeSort fun a b => bucket size a.1 ≤ bucket size b.1

/-- Entries with one put in the place of another of its name, or at the end. -/
def putEntry {α : Type} (name : Text) (a : α) (entries : List (Text × α)) : List (Text × α) :=
  if entries.any fun e => e.1 == name then
    entries.map fun e => if e.1 == name then (name, a) else e
  else entries ++ [(name, a)]

/-- Entries without the one of a name. -/
def dropEntry {α : Type} (name : Text) (entries : List (Text × α)) : List (Text × α) :=
  entries.filter fun e => e.1 != name

/-- The entry of a name. -/
def entryOf? {α : Type} (name : Text) (entries : List (Text × α)) : Option α :=
  (entries.find? fun e => e.1 == name).map (·.2)

/-- Why a variable cannot have a value. -/
inductive VariableFault where
  | readOnly (name : Text)
  | badName (name : Text)
  | illegalNumber (value : Text)

namespace VariableFault

/-- The fault in words. -/
def message : VariableFault → String
  | readOnly name => s!"{asString name}: is read only"
  | badName name => s!"{asString name}: bad variable name"
  | illegalNumber value => s!"Illegal number: {asString value}"

end VariableFault

/-- Variables that are never forgotten, though they may have no value. -/
def fixedNames : List Text :=
  ["IFS", "MAIL", "MAILPATH", "PATH", "PS1", "PS2", "PS4", "OPTIND"].map String.toList

namespace State

/-- The stream that a descriptor leads to, with its number. -/
def stream? (s : State) (descriptor : Nat) : Option (Nat × Stream) :=
  match s.descriptors.find? fun d => d.1 == descriptor with
  | none => none
  | some (_, index) => (s.streams[index]?).map fun stream => (index, stream)

/-- Changes what the stream of a number leads to. -/
def setChannel (s : State) (index : Nat) (channel : Channel) : State :=
  { s with streams := s.streams.modify index fun stream => { stream with channel := channel } }

/-- Adds a stream, and gives its index. -/
def addStream (s : State) (stream : Stream) : Nat × State :=
  (s.streams.length, { s with streams := s.streams ++ [stream] })

/-- Makes a descriptor name a stream. -/
def connect (s : State) (descriptor index : Nat) : State :=
  { s with descriptors := (descriptor, index) :: s.descriptors.filter fun d => d.1 != descriptor }

/-- Closes a descriptor. -/
def disconnect (s : State) (descriptor : Nat) : State :=
  { s with descriptors := s.descriptors.filter fun d => d.1 != descriptor }

/-- The content of a file of the tree. -/
def contentAt (s : State) (path : List String) : Text :=
  match s.tree.root.at? path with
  | some (.file content _) => ofBytes content
  | _ => []

/-- Gives a file of the tree a new content. -/
def setContent (s : State) (path : List String) (content : Text) : State :=
  match s.tree.root.at? path with
  | some (.file _ executable) =>
    let node : Node := .file (toBytes content) executable
    { s with tree := { s.tree with root := s.tree.root.put path node } }
  | _ => s

/-- Writes to a stream that takes it. -/
def writeStream? (s : State) (index : Nat) (text : Text) : Option State :=
  match s.streams[index]? with
  | some ⟨.output pieces, _, true⟩ => some (s.setChannel index (.output (text :: pieces)))
  | some ⟨.file path offset appends, _, true⟩ =>
    let old := s.contentAt path
    let start := if appends then old.length else offset
    let gap := List.replicate (start - old.length) '\x00'
    let content := old.take start ++ gap ++ text ++ old.drop (start + text.length)
    some ((s.setContent path content).setChannel index (.file path (start + text.length) appends))
  | some ⟨.null, _, true⟩ | some ⟨.zero, _, true⟩ => some s
  | _ => none

/-- Writes to a descriptor; nothing comes out if it takes nothing. -/
def write? (s : State) (descriptor : Nat) (text : Text) : Option State :=
  (s.stream? descriptor).bind fun found => s.writeStream? found.1 text

/-- What can be read from a descriptor. -/
def unread (s : State) (descriptor : Nat) : Text :=
  match s.stream? descriptor with
  | some (_, ⟨.input rest, true, _⟩) => rest
  | some (_, ⟨.file path offset _, true, _⟩) => (s.contentAt path).drop offset
  | _ => []

/-- Passes over what has been read from a descriptor. -/
def consume (s : State) (descriptor count : Nat) : State :=
  match s.stream? descriptor with
  | some (index, ⟨.input rest, _, _⟩) => s.setChannel index (.input (rest.drop count))
  | some (index, ⟨.file path offset appends, _, _⟩) =>
    s.setChannel index (.file path (offset + count) appends)
  | _ => s

/-- What was written to a stream. -/
def written (s : State) (index : Nat) : Text :=
  match s.streams[index]? with
  | some ⟨.output pieces, _, _⟩ => pieces.reverse.flatten
  | _ => []

/-- Goes on reading from a descriptor behind a part of what could be read. -/
def resume (s : State) (descriptor : Nat) (text rest : Text) : State :=
  match s.stream? descriptor with
  | some (index, ⟨.input _, _, _⟩) => s.setChannel index (.input rest)
  | _ => s.consume descriptor (text.length - rest.length)

/-- The variable of a name. -/
def lookUp? (s : State) (name : Text) : Option Variable := entryOf? name s.bindings

/-- The value of a variable that has one. -/
def value? (s : State) (name : Text) : Option Text := (s.lookUp? name).bind (·.value)

/-- The value of a variable that has one. -/
def valueOf? (s : State) (name : String) : Option Text := s.value? name.toList

/-- Changes a variable. -/
def putVariable (s : State) (name : Text) (v : Variable) : State :=
  { s with bindings := putEntry name v s.bindings }

/-- Whether an option is set. -/
def option (s : State) (letter : Char) : Bool := s.options.contains letter

/-- What follows from a new value of a variable. -/
def noteValue (s : State) (name value : Text) : Except VariableFault State :=
  if name == "PATH".toList then .ok { s with found := [] }
  else if name == "OPTIND".toList then
    match count? value with
    | some n => .ok { s with optionPlace := (max n 1, none) }
    | none => .error (.illegalNumber value)
  else .ok s

/-- Gives a variable a value, and marks it for other programs if `exported` says so. -/
def give (s : State) (exported : Bool) (name value : Text) : Except VariableFault State :=
  let exported := exported || s.option 'a'
  match s.lookUp? name with
  | some v =>
    if v.readonly then .error (.readOnly name)
    else do
      let s ← s.noteValue name value
      return s.putVariable name ⟨some value, v.exported || exported, false⟩
  | none => .ok (s.putVariable name ⟨some value, exported, false⟩)

/-- Gives a variable a value if its name may name one. -/
def giveNamed (s : State) (exported : Bool) (name value : Text) : Except VariableFault State :=
  if isName name then s.give exported name value else .error (.badName name)

/-- Forgets a variable. -/
def forget (s : State) (name : Text) : Except VariableFault State :=
  if !isName name then .error (.badName name)
  else
    match s.lookUp? name with
    | none => .ok s
    | some v =>
      if v.readonly then .error (.readOnly name)
      else
        let s := if name == "PATH".toList then { s with found := [] } else s
        let s := if name == "OPTIND".toList then { s with optionPlace := (1, none) } else s
        if fixedNames.contains name then .ok (s.putVariable name { v with value := none })
        else .ok { s with bindings := dropEntry name s.bindings }

/-- Makes a variable what it was before. -/
def restore (s : State) (name : Text) (old : Option Variable) : State :=
  let s := if name == "PATH".toList then { s with found := [] } else s
  match old with
  | some v => s.putVariable name v
  | none => { s with bindings := dropEntry name s.bindings }

/-- The environment as programs see it. -/
def environment (s : State) : List (Text × Text) :=
  (tabled 39 s.bindings).filterMap fun v =>
    if v.2.exported then v.2.value.map fun value => (v.1, value) else none

end State

/-- Prints text, which is written when the command is done. -/
def put (text : Text) : Run Unit := modify fun s => { s with printed := text :: s.printed }

/-- Prints a string. -/
def putString (s : String) : Run Unit := put (ofString s)

/-- Writes to the error output. -/
def putError (s : String) : Run Unit := modify fun st => (st.write? 2 (ofString s)).getD st

/-- Writes what has been printed; whether the output took it. -/
def flush : Run Bool := do
  let s ← get
  let text := s.printed.reverse.flatten
  let s := { s with printed := [] }
  if text.isEmpty then
    set s
    return true
  match s.write? 1 text with
  | some s =>
    set s
    return true
  | none =>
    set s
    return false

/-- Sets the status of the last command. -/
def setStatus (status : Nat) : Run Unit := modify fun s => { s with status := status }

/-- Complains in the name of the shell, and of the command that runs. -/
def complain (message : String) : Run Unit := do
  let s ← get
  let command := if s.command.isEmpty then "" else s!"{asString s.command}: "
  putError s!"{asString s.name}: {s.line}: {command}{message}\n"

/-- Complains of a mistake, and gives up what is being done. -/
def fail {α : Type} (message : String) : Run α := do
  setStatus 2
  complain message
  let _ ← flush
  throw .failed

/-- Goes on in a changed state, unless there is none. -/
def adopt : Except VariableFault State → Run Unit
  | .ok s => set s
  | .error fault => fail fault.message

/-- Gives a variable a value. -/
def assign (name value : Text) : Run Unit := do adopt ((← get).giveNamed false name value)

/-- Reads everything from a descriptor. -/
def readAll (descriptor : Nat) : Run Text := do
  let s ← get
  let text := s.unread descriptor
  set (s.consume descriptor text.length)
  return text

/-- Whether the shell goes on after a construct that is left in this way. -/
def Interruption.isJump : Interruption → Bool
  | .returned _ | .broken _ | .continued _ => true
  | _ => false

/-- Does something, and something else after it however it ends. -/
def afterwards {α : Type} (body : Run α) (finish : Run Unit) : Run α := do
  let a ← tryCatch body fun interruption => do
    finish
    throw interruption
  finish
  return a

end Lockstep.Shell
