import Lockstep.Decimal.Numeral
import Lockstep.SystemError
import Lockstep.Text.Blank
import Lockstep.Text.Lines
import Lockstep.Text.Quoted

/-!
# Scripts

A script has one shell command on a line. Blanks around a line do not count, blank lines and lines
that begin with a number sign are no statements, and `repeat N: command` runs a command N times.
Every statement keeps the number of its line in the file. A script is read whole before any of it
runs, and the first line that cannot be read fails it.
-/

namespace Lockstep

/-- One line of a script that runs. -/
structure Statement where
  /-- The number of the line in the file, counted from one. -/
  line : UInt32
  command : String
  /-- How many times the command runs. -/
  repeats : Nat
  deriving Repr, DecidableEq

namespace Script

/-- Why a file is no script. -/
inductive Flaw where
  | unreadable (path : String) (cause : SystemError)
  | tooManyLines
  | noColon (line : UInt32)
  | badCount (line : UInt32) (fault : Decimal.Fault)
  | zeroCount (line : UInt32)
  | noCommand (line : UInt32)
  deriving Repr, DecidableEq

/-- The flaw in words. -/
def Flaw.message : Flaw → String
  | .unreadable path cause => s!"Failed to read script at {Quoted.quote path}: {cause.message}"
  | .tooManyLines => "Script has too many lines: out of range integral type conversion attempted"
  | .noColon line => s!"Invalid repeat on line {line.toNat}: expected 'repeat N: command'"
  | .badCount line fault => s!"Invalid repeat count on line {line.toNat}: {fault.message}"
  | .zeroCount line => s!"Repeat count must be positive on line {line.toNat}"
  | .noCommand line => s!"Empty repeat command on line {line.toNat}"

/-- The text after the given one, if it begins with it. -/
def stripStart? : List Char → List Char → Option (List Char)
  | [], s => some s
  | _ :: _, [] => none
  | p :: start, c :: s => if p = c then stripStart? start s else none

/-- The texts before and after the first colon. -/
def cutColon? (s : List Char) : Option (List Char × List Char) :=
  match s.dropWhile (· ≠ ':') with
  | [] => none
  | _ :: after => some (s.takeWhile (· ≠ ':'), after)

/-- The word that begins a repetition. -/
def repeatWord : List Char := "repeat ".toList

/-- The count and the command of a repetition, whose first word has been taken off. -/
def readRepeat (line : UInt32) (rest : List Char) : Except Flaw (Nat × List Char) :=
  match cutColon? rest with
  | none => .error (.noColon line)
  | some (count, command) =>
    match Decimal.readNatural Decimal.max32 (Text.trim count) with
    | .error fault => .error (.badCount line fault)
    | .ok count =>
      let command := Text.trim command
      if count = 0 then .error (.zeroCount line)
      else if command.isEmpty then .error (.noCommand line)
      else .ok (count, command)

/-- The statement of a line, if it has one. -/
def readLine (line : UInt32) (text : List Char) : Except Flaw (Option Statement) :=
  let text := Text.trim text
  if text.isEmpty || text.head? == some '#' then .ok none
  else
    match stripStart? repeatWord text with
    | none => .ok (some ⟨line, String.ofList text, 1⟩)
    | some rest =>
      match readRepeat line rest with
      | .error flaw => .error flaw
      | .ok (count, command) => .ok (some ⟨line, String.ofList command, count⟩)

/-- The statements of lines, the first of which has the given number. -/
def readLines (number : Nat) : List (List Char) → Except Flaw (List Statement)
  | [] => .ok []
  | text :: rest =>
    if number > Decimal.max32 then .error .tooManyLines
    else
      match readLine (UInt32.ofNat number) text with
      | .error flaw => .error flaw
      | .ok statement =>
        match readLines (number + 1) rest with
        | .error flaw => .error flaw
        | .ok statements => .ok (statement.toList ++ statements)

/-- The statements of a script. -/
def parse (text : List Char) : Except Flaw (List Statement) := readLines 1 (Lines.ofText text)

end Script

end Lockstep
