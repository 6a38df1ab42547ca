import Lockstep.Shell.Expansion

/-!
# Options of commands

The arguments of a command begin with its options: letters after a hyphen, of which some take the
rest of the word or the next one with them. Two hyphens end the options. The options of the shell
itself are turned on by a hyphen and off by a plus sign, and have long names, too.
-/

namespace Lockstep.Shell

/-- The options of a command, each with what it takes, and the arguments after them. -/
structure Options where
  letters : List (Char × Text)
  arguments : List Text

/-- The options with one more in front. -/
def Options.cons (o : Options) (letter : Char) (taken : Text) : Options :=
  { o with letters := (letter, taken) :: o.letters }

/-- Whether a letter is given. -/
def Options.has (o : Options) (letter : Char) : Bool := o.letters.any fun l => l.1 == letter

/-- Reads options: letters that are left of a word, and the arguments after it. A letter that takes
something has a colon after it. -/
def readOptions (fuel : Nat) (known letters : Text) (args : List Text) : Except String Options :=
  match fuel with
  | 0 => .ok ⟨[], args⟩
  | fuel + 1 =>
    match letters with
    | [] =>
      match args with
      | ['-', '-'] :: rest => .ok ⟨[], rest⟩
      | ('-' :: c :: more) :: rest => readOptions fuel known (c :: more) rest
      | _ => .ok ⟨[], args⟩
    | c :: more =>
      match known.dropWhile (· ≠ c), c == ':' with
      | _, true | [], _ => .error s!"Illegal option -{asString [c]}"
      | _ :: ':' :: _, _ =>
        match more, args with
        | [], [] => .error s!"No arg for -{asString [c]} option"
        | [], taken :: rest => return (← readOptions fuel known [] rest).cons c taken
        | _, _ => return (← readOptions fuel known [] args).cons c more
      | _, _ => return (← readOptions fuel known more args).cons c []

/-- How many steps there are at most in reading the options of arguments. -/
def optionSteps (args : List Text) : Nat := args.foldl (fun n a => n + a.length + 2) 1

/-- The options of a command. -/
def options (known : String) (args : List Text) : Run Options := do
  match readOptions (optionSteps args) known.toList [] args with
  | .ok found => return found
  | .error message => fail message

/-- Turns an option of the shell on or off. -/
def setOption (on : Bool) (letter : Char) : Run Unit := do
  if on && letter == 'm' then complain "can't access tty; job control turned off"
  else
    modify fun s =>
      let against := if letter == 'V' then ['E'] else if letter == 'E' then ['V'] else []
      let others := s.options.filter fun o => o ≠ letter && !(on && against.contains o)
      { s with options := if on then letter :: others else others }

/-- Lists the options of the shell, as a table or as commands that set them. -/
def listOptions (asTable : Bool) : Run Unit := do
  if asTable then putString "Current option settings\n"
  let s ← get
  for (letter, name) in optionNames do
    let on := s.option letter
    if asTable then
      let gap := String.ofList (List.replicate (16 - name.length) ' ')
      let state := if on then "on" else "off"
      putString s!"{name}{gap}{state}\n"
    else
      let sign := if on then "-" else "+"
      putString s!"set {sign}o {name}\n"

/--
Sets the options that arguments begin with, and gives those that are left, if anything was said of
them. `letters` are left of a word. At the start of a shell there is one more option, which says
that the first argument after all options is a text to run; whether it is given comes out, too.
-/
def setOptions (fuel : Nat) (atStart hasText on : Bool) (letters : Text) (args : List Text) :
    Run (Bool × Option (List Text)) := do
  match fuel with
  | 0 => return (hasText, none)
  | fuel + 1 =>
    match letters with
    | 'o' :: more =>
      match args with
      | [] =>
        listOptions on
        setOptions fuel atStart hasText on more []
      | name :: rest =>
        match optionNames.find? fun o => o.2 == asString name with
        | some (letter, _) => setOption on letter
        | none => fail s!"Illegal option -o {asString name}"
        setOptions fuel atStart hasText on more rest
    | c :: more =>
      if atStart && (c == 'c' || c == 'l') then
        setOptions fuel atStart (hasText || c == 'c') on more args
      else
        if optionLetters.contains c then setOption on c
        else fail s!"Illegal option -{asString [c]}"
        setOptions fuel atStart hasText on more args
    | [] =>
      match args with
      | ['-'] :: rest =>
        if !atStart then
          setOption false 'x'
          setOption false 'v'
        return (hasText, if rest.isEmpty then none else some rest)
      | ['-', '-'] :: rest => return (hasText, some rest)
      | ('-' :: letters) :: rest => setOptions fuel atStart hasText true letters rest
      | ('+' :: letters) :: rest => setOptions fuel atStart hasText false letters rest
      | [] => return (hasText, none)
      | _ => return (hasText, some args)

end Lockstep.Shell
