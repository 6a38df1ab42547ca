import Lockstep.Shell.Number

/-!
# Signals

A signal has a number and a name, which begins at the end of the shell, number zero. Some signals
do nothing to a process that does not expect them; the others end it, and a shell has a text for
each way to die.
-/

namespace Lockstep.Shell

/-- A signal by its number. -/
abbrev Signal := Nat

namespace Signal

/-- One more than the last signal. -/
def count : Nat := 65

/-- The signals with names of their own, and the texts for a death by them. -/
def table : List (Signal × String × String) :=
  [(0, "EXIT", ""), (1, "HUP", "Hangup"), (2, "INT", "Interrupt"), (3, "QUIT", "Quit"),
    (4, "ILL", "Illegal instruction"), (5, "TRAP", "Trace/breakpoint trap"), (6, "ABRT", "Aborted"),
    (7, "BUS", "Bus error"), (8, "FPE", "Floating point exception"), (9, "KILL", "Killed"),
    (10, "USR1", "User defined signal 1"), (11, "SEGV", "Segmentation fault"),
    (12, "USR2", "User defined signal 2"), (13, "PIPE", "Broken pipe"), (14, "ALRM", "Alarm clock"),
    (15, "TERM", "Terminated"), (16, "16", "Stack fault"), (17, "CHLD", "Child exited"),
    (18, "CONT", "Continued"), (19, "STOP", "Stopped (signal)"), (20, "TSTP", "Stopped"),
    (21, "TTIN", "Stopped (tty input)"), (22, "TTOU", "Stopped (tty output)"),
    (23, "URG", "Urgent I/O condition"), (24, "XCPU", "CPU time limit exceeded"),
    (25, "XFSZ", "File size limit exceeded"), (26, "VTALRM", "Virtual timer expired"),
    (27, "PROF", "Profiling timer expired"), (28, "WINCH", "Window changed"),
    (29, "IO", "I/O possible"), (30, "PWR", "Power failure"), (31, "SYS", "Bad system call")]

/-- The first of the signals that stand in no table. -/
def firstPlain : Signal := 34

/-- The name of a signal. -/
def name (s : Signal) : String :=
  match table.find? fun e => e.1 == s with
  | some (_, name, _) => name
  | none =>
    if s < firstPlain then s!"{s}"
    else if s = firstPlain then "RTMIN"
    else if s + 1 = count then "RTMAX"
    else if s < 50 then s!"RTMIN+{s - firstPlain}"
    else s!"RTMAX-{count - 1 - s}"

/-- The text for a death by a signal. -/
def description (s : Signal) : String :=
  match table.find? fun e => e.1 == s with
  | some (_, _, text) => text
  | none => if s < firstPlain then s!"Unknown signal {s}" else s!"Real-time signal {s - firstPlain}"

/-- Whether nobody speaks of a death by a signal. -/
def isQuiet (s : Signal) : Bool := s = 2 || s = 13

/-- Whether a signal does nothing to a process that does not expect it. -/
def isHarmless (s : Signal) : Bool := [0, 17, 18, 23, 28].contains s

/-- Whether a signal does what it does whatever a process wants. -/
def isForced (s : Signal) : Bool := s = 9 || s = 19

/-- Whether a signal makes a process wait for another one. -/
def isPause (s : Signal) : Bool := [19, 20, 21, 22].contains s

/-- The signal of a number. -/
def ofNumber? (t : Text) : Option Signal :=
  (natural? t).bind fun n => if n < count then some n else none

/-- The signal of a number or of a name, letters of any case, that is no less than the first. -/
def ofText? (first : Signal) (t : Text) : Option Signal :=
  match ofNumber? t with
  | some s => some s
  | none =>
    let fits (s : Signal) : Bool := ofString (name s) == t.map Char.toUpper
    (List.range count).find? fun s => first ≤ s && fits s

end Signal

/-- How a process came to its end. -/
inductive Ending where
  | exited (status : Nat)
  | killed (signal : Signal)
  deriving Repr, DecidableEq

/-- The status that a shell gives to the end of a process. -/
def Ending.status : Ending → Nat
  | .exited n => n
  | .killed signal => 128 + signal

end Lockstep.Shell
