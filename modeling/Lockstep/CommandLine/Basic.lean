import Lockstep.CommandLine.Arguments
import Lockstep.Settings.Overrides

/-!
# Command lines

The program runs a script, makes a file of settings, or attaches to a controller that runs
elsewhere. Options in front of the command word are the program's, those behind it the command's.
What is asked for in a command is looked at before a wrong value in front of it.
-/

namespace Lockstep

/-- Plays the client of a controller that listens at an address. -/
structure Attachment where
  host : String
  port : UInt16
  /-- Whether breaks are answered without waiting for the user. -/
  auto : Bool
  deriving Repr, DecidableEq

/-- What the program is told to do. -/
structure CommandLine where
  /-- Where the settings are. -/
  config : String
  /-- The script. -/
  file : Option String
  /-- Whether a file of settings is to be made. -/
  init : Bool
  overrides : Overrides
  attachment : Option Attachment
  deriving Repr, DecidableEq

namespace CommandLine

/-- The words of the commands. -/
def attachWord : String := "attach"

/-- The word that asks for help. -/
def helpWord : String := "help"

/-- The options of the program. -/
def programOptions : List OptionForm :=
  [⟨"config", some 'c', some ("CONFIG", .text)⟩,
    ⟨"file", some 'f', some ("FILE", .path)⟩,
    ⟨"init", none, none⟩,
    ⟨"transport", some 't', some ("TRANSPORT", .choice (Transport.all.map Transport.name))⟩,
    ⟨"host", none, some ("HOST", .text)⟩,
    ⟨"delay-ms", none, some ("DELAY_MS", .natural)⟩,
    ⟨"shell", none, some ("SHELL", .text)⟩,
    ⟨"log-level", none, some ("LOG_LEVEL", .choice (Journal.Level.all.map Journal.Level.name))⟩,
    ⟨"log-file", none, some ("LOG_FILE", .path)⟩,
    Grammar.helpFlag,
    Grammar.versionFlag]

/-- The port of a controller, without which none can be attached to. -/
def portOption : OptionForm := ⟨"port", none, some ("PORT", .port)⟩

/-- The options of the command that attaches. -/
def attachOptions : List OptionForm :=
  [portOption, ⟨"host", none, some ("HOST", .text)⟩, ⟨"auto", none, none⟩, Grammar.helpFlag]

/-- What the program takes. -/
def programGrammar : Grammar := ⟨programOptions, [attachWord, helpWord], .program⟩

/-- What the client takes. -/
def attachGrammar : Grammar := ⟨attachOptions, [], fun _ => .attach⟩

/-- What words after the help command ask for. -/
def readTopic : List String → Notice
  | [] => .help (.program true)
  | word :: rest =>
    if word = attachWord ∨ word = helpWord then
      match rest with
      | [] => .help (if word = attachWord then .attach else .help)
      | next :: _ => .fault (.unknownCommand next)
    else .fault (.unknownCommand word)

/-- Reads the arguments of the command that attaches. -/
def readAttachment (arguments : List String) : Except Notice Attachment := do
  let (s, _) ← attachGrammar.takeAll ⟨[], none⟩ arguments
  let s ← s.settle
  match s.given.value? "port" with
  | none => throw (.fault (.missingOption portOption.usage))
  | some port =>
    let port := (Decimal.readInteger Decimal.maxSigned64 port.toList).toOption.getD 0
    return {
      host := (s.given.value? "host").getD Settings.defaultHost
      port := UInt16.ofNat port.toNat
      auto := (s.given.value? "auto").isSome }

/-- The settings among what was given. -/
def overridesOf (g : Given) : Overrides where
  transport := (g.value? "transport").bind fun name => Transport.all.find? fun t => t.name == name
  host := g.value? "host"
  delay := (g.value? "delay-ms").map fun n =>
    UInt64.ofNat ((Decimal.readNatural Decimal.max64 n.toList).toOption.getD 0)
  shell := g.value? "shell"
  level := (g.value? "log-level").bind Journal.Level.ofName?
  file := g.value? "log-file"

/-- Reads the arguments of the program. -/
def read (arguments : List String) : Except Notice CommandLine := do
  let (s, command) ← programGrammar.takeAll ⟨[], none⟩ arguments
  let attachment ← match command with
    | none => pure none
    | some (word, rest) =>
      if word = attachWord then some <$> readAttachment rest else throw (readTopic rest)
  let s ← s.settle
  return {
    config := (s.given.value? "config").getD Settings.defaultPath
    file := s.given.value? "file"
    init := (s.given.value? "init").isSome
    overrides := overridesOf s.given
    attachment := attachment }

/-- What is said where no script is given. -/
def noScript : String := "No script given. Usage: lstep --file <FILE>"

end CommandLine

end Lockstep
