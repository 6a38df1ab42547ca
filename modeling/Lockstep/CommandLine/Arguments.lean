import Lockstep.Decimal.Numeral

/-!
# Arguments

An option has a long name and perhaps a letter, and it either takes one value or is a flag. A
value follows its option or is attached to it; what begins with a hyphen is no value of its own,
a lone hyphen excepted. The value of an option is checked when the next option is taken up, or at
the end, so an argument that means nothing is found before a wrong value that precedes it.
-/

namespace Lockstep.CommandLine

/-- What the value of an option has to be. -/
inductive ValueForm where
  | text
  /-- A path, which is not empty. -/
  | path
  /-- One of some names. -/
  | choice (names : List String)
  /-- A natural number of 64 bits. -/
  | natural
  /-- A number of 16 bits. -/
  | port
  deriving Repr, DecidableEq

/-- An option that takes a value, or a flag. -/
structure OptionForm where
  long : String
  letter : Option Char
  /-- How its value is called in messages, and what it has to be. -/
  value : Option (String × ValueForm)
  deriving Repr, DecidableEq

/-- The option in messages. -/
def OptionForm.usage (o : OptionForm) : String :=
  match o.value with
  | some (name, _) => s!"--{o.long} <{name}>"
  | none => s!"--{o.long}"

/-- A text that can be asked for. -/
inductive Topic where
  /-- All about the program, in short or at length. -/
  | program (long : Bool)
  | attach
  | help
  deriving Repr, DecidableEq

/-- Why arguments cannot be taken. -/
inductive Fault where
  | unknownArgument (argument : String)
  | unknownCommand (name : String)
  | wrongChoice (value option : String) (names : List String)
  | missingValue (option : String) (names : List String)
  | wrongValue (value option reason : String)
  | repeated (option : String)
  | unneededValue (value option : String)
  | missingOption (option : String)
  deriving Repr, DecidableEq

/-- The line that lists the names of a choice, if there are any. -/
def listNames (names : List String) : String :=
  let listed := ", ".intercalate names
  if names.isEmpty then "" else s!"\n  [possible values: {listed}]"

/-- The fault in words. -/
def Fault.message : Fault → String
  | .unknownArgument argument => s!"error: unexpected argument '{argument}' found"
  | .unknownCommand name => s!"error: unrecognized subcommand '{name}'"
  | .wrongChoice value option names =>
    s!"error: invalid value '{value}' for '{option}'" ++ listNames names
  | .missingValue option names =>
    s!"error: a value is required for '{option}' but none was supplied" ++ listNames names
  | .wrongValue value option reason => s!"error: invalid value '{value}' for '{option}': {reason}"
  | .repeated option => s!"error: the argument '{option}' cannot be used multiple times"
  | .unneededValue value option =>
    s!"error: unexpected value '{value}' for '{option}' found; no more were expected"
  | .missingOption option =>
    s!"error: the following required arguments were not provided:\n  {option}"

/-- What is shown in place of a run. -/
inductive Notice where
  | fault (f : Fault)
  | help (topic : Topic)
  | version
  deriving Repr, DecidableEq

/-- The greatest number of 16 bits is the greatest port. -/
def checkPort (option value : String) : Except Notice Unit :=
  match Decimal.readInteger Decimal.maxSigned64 value.toList with
  | .error fault => .error (.fault (.wrongValue value option fault.message))
  | .ok n =>
    if 0 ≤ n ∧ n ≤ Decimal.max16 then .ok ()
    else .error (.fault (.wrongValue s!"{n}" option s!"{n} is not in 0..={Decimal.max16}"))

/-- Checks the value of an option; no value is none of any form. -/
def OptionForm.check (o : OptionForm) (value : Option String) : Except Notice Unit :=
  match o.value with
  | none => .ok ()
  | some (_, form) =>
    let names :=
      match form with
      | .choice names => names
      | _ => []
    let missing : Except Notice Unit := .error (.fault (.missingValue o.usage names))
    match value with
    | none => missing
    | some value =>
      match form with
      | .text => .ok ()
      | .path => if value.isEmpty then missing else .ok ()
      | .choice names =>
        if names.contains value then .ok ()
        else if value.isEmpty then missing
        else .error (.fault (.wrongChoice value o.usage names))
      | .natural =>
        match Decimal.readNatural Decimal.max64 value.toList with
        | .error fault => .error (.fault (.wrongValue value o.usage fault.message))
        | .ok _ => .ok ()
      | .port => checkPort o.usage value

/-- What has been given, with its values; a flag has the empty one. -/
abbrev Given := List (String × String)

/-- The value of an option that was given. -/
def Given.value? (g : Given) (long : String) : Option String :=
  (g.find? fun e => e.1 == long).map (·.2)

/-- What has been taken up, and an option whose value is not checked yet. -/
structure State where
  given : Given
  /-- The option, and its value if that has come. -/
  pending : Option (OptionForm × Option String)

namespace State

/-- Takes an option with its value; none may be given twice. -/
def take (s : State) (o : OptionForm) (value : Option String) : Except Notice State := do
  if value.isNone then o.check value
  if (s.given.value? o.long).isSome then throw (.fault (.repeated o.usage))
  o.check value
  return { s with given := s.given ++ [(o.long, value.getD "")] }

/-- Checks the option that is pending. -/
def settle (s : State) : Except Notice State :=
  match s.pending with
  | none => .ok s
  | some (o, value) => { s with pending := none }.take o value

end State

/-- The options and commands that may be given in one place. -/
structure Grammar where
  options : List OptionForm
  commands : List String
  /-- What is shown for the letter and for the long name of the help option. -/
  help : Bool → Topic

namespace Grammar

/-- The flag that asks for help. -/
def helpFlag : OptionForm := ⟨"help", some 'h', none⟩

/-- The flag that asks for the version. -/
def versionFlag : OptionForm := ⟨"version", some 'V', none⟩

/-- Takes a flag; those that ask for something are answered at once. -/
def takeFlag (g : Grammar) (long : Bool) (s : State) (o : OptionForm) : Except Notice State := do
  let s ← s.settle
  if o = helpFlag then throw (.help (g.help long))
  else if o = versionFlag then throw .version
  else s.take o (some "")

/-- Takes an option that has a value, which may be attached to it. -/
def takeOption (s : State) (o : OptionForm) (attached : Option String) : Except Notice State := do
  let s ← s.settle
  match attached with
  | some value => s.take o (some value)
  | none => return { s with pending := some (o, none) }

/-- An argument that stands where none is expected. -/
def misplaced (g : Grammar) (afterDashes : Bool) (argument : String) : Notice :=
  if g.commands.isEmpty || (afterDashes && g.commands.contains argument) then
    .fault (.unknownArgument argument)
  else .fault (.unknownCommand argument)

/-- Takes an argument with two hyphens, which have been taken off. -/
def takeLong (g : Grammar) (s : State) (body : List Char) : Except Notice State :=
  let name := String.ofList (body.takeWhile (· ≠ '='))
  let attached :=
    match body.dropWhile (· ≠ '=') with
    | _ :: value => some (String.ofList value)
    | [] => none
  match g.options.find? fun o => o.long == name with
  | none => .error (.fault (.unknownArgument s!"--{name}"))
  | some o =>
    match o.value, attached with
    | some _, _ => takeOption s o attached
    | none, some value => .error (.fault (.unneededValue value o.usage))
    | none, none => g.takeFlag true s o

/-- Takes letters, the last of which may have its value attached. -/
def takeLetters (g : Grammar) (s : State) : List Char → Except Notice State
  | [] => .ok s
  | c :: rest =>
    match g.options.find? fun o => o.letter == some c with
    | none => .error (.fault (.unknownArgument (String.ofList ['-', c])))
    | some o =>
      match o.value with
      | none =>
        match g.takeFlag false s o with
        | .error notice => .error notice
        | .ok s => g.takeLetters s rest
      | some _ =>
        match rest with
        | [] => takeOption s o none
        | '=' :: value => takeOption s o (some (String.ofList value))
        | value => takeOption s o (some (String.ofList value))

/-- Takes arguments up to a command, which is given back with all that follow it. -/
def takeAll (g : Grammar) (s : State) :
    List String → Except Notice (State × Option (String × List String))
  | [] => .ok (s, none)
  | argument :: rest =>
    let awaited :=
      match s.pending with
      | some (o, none) => some o
      | _ => none
    if awaited.isNone && g.commands.contains argument then .ok (s, some (argument, rest))
    else
      match argument.toList with
      | ['-', '-'] =>
        match rest with
        | [] => .ok (s, none)
        | next :: _ => .error (g.misplaced true next)
      | '-' :: '-' :: body =>
        match g.takeLong s body with
        | .error notice => .error notice
        | .ok s => g.takeAll s rest
      | '-' :: c :: letters =>
        match g.takeLetters s (c :: letters) with
        | .error notice => .error notice
        | .ok s => g.takeAll s rest
      | _ =>
        match awaited with
        | some o => g.takeAll { s with pending := some (o, some argument) } rest
        | none => .error (g.misplaced false argument)

end Grammar

end Lockstep.CommandLine
