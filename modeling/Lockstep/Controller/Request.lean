import Lockstep.Dialogue
import Lockstep.Journal.Record
import Lockstep.SessionError
import Lockstep.Wire.Sink

/-!
# What a controller asks for

The surroundings of a controller are the client at the other end of a connection, the files and
commands of the host, an output for what the target prints, and the journal. The controller also
marks what happens without their help, so that a trace shows each line boundary in its place among
the messages and commands, and a wait for a client where none is.
-/

namespace Lockstep

/-- A place in a source file. -/
structure Place where
  path : String
  line : UInt32
  deriving Repr, DecidableEq

/-- The target comes to a line. -/
structure LineEvent where
  place : Place
  /-- Whether the line belongs to the file that is being stepped through. -/
  inTarget : Bool
  deriving Repr, DecidableEq

/-- How a command ended. -/
inductive Status where
  | exited (code : Nat)
  /-- A signal has ended it, and its memory may have been written to a file. -/
  | killed (signal : Nat) (dumped : Bool)
  deriving Repr, DecidableEq

namespace Status

/-- Only the exit code zero is a success. -/
def succeeded : Status → Bool
  | .exited 0 => true
  | _ => false

/-- The names of the signals that end a command. -/
def signalName : Nat → String
  | 1 => " (SIGHUP)"
  | 2 => " (SIGINT)"
  | 3 => " (SIGQUIT)"
  | 4 => " (SIGILL)"
  | 5 => " (SIGTRAP)"
  | 6 => " (SIGABRT)"
  | 7 => " (SIGBUS)"
  | 8 => " (SIGFPE)"
  | 9 => " (SIGKILL)"
  | 10 => " (SIGUSR1)"
  | 11 => " (SIGSEGV)"
  | 12 => " (SIGUSR2)"
  | 13 => " (SIGPIPE)"
  | 14 => " (SIGALRM)"
  | 15 => " (SIGTERM)"
  | 16 => " (SIGSTKFLT)"
  | 24 => " (SIGXCPU)"
  | 25 => " (SIGXFSZ)"
  | 26 => " (SIGVTALRM)"
  | 27 => " (SIGPROF)"
  | 29 => " (SIGIO)"
  | 30 => " (SIGPWR)"
  | 31 => " (SIGSYS)"
  | _ => ""

/-- The status in words. -/
def message : Status → String
  | .exited code => s!"exit status: {code}"
  | .killed signal false => s!"signal: {signal}{signalName signal}"
  | .killed signal true => s!"signal: {signal}{signalName signal} (core dumped)"

end Status

/-- What a command printed and how it ended. -/
structure Completion where
  out : Bytes
  err : Bytes
  status : Status
  deriving Repr, DecidableEq

/-- A command that is to run for a line of the target. -/
structure Invocation where
  line : UInt32
  shell : String
  command : String
  deriving Repr, DecidableEq

/-- What a controller comes to by itself, and only marks. -/
inductive Mark where
  /-- A target has been looked for, and was found under the given path or not at all. -/
  | resolved (path : String) (found : Option String)
  /-- The target comes to a line. -/
  | reached (event : LineEvent)
  /-- The line at the place failed. -/
  | faulted (place : Place) (fault : String)
  /-- A line was waited for where there is no client. -/
  | unanswered
  deriving Repr, DecidableEq

namespace Controller

/-- One thing that a controller asks for. -/
inductive Request where
  /-- Deliver the line of a message to the client, and flush. -/
  | send (message : Message)
  /-- Wait for a line from the client. -/
  | receive
  /-- Flush what was sent. -/
  | flush
  /-- Close the connection in both directions. -/
  | hangUp
  /-- Find the file that a path leads to. -/
  | resolve (path : String)
  /-- Read a file as text. -/
  | load (path : String)
  /-- Run a command. -/
  | invoke (invocation : Invocation)
  /-- Pass on what a command printed, its errors after its output, and flush. -/
  | relay (out err : Bytes)
  /-- Wait. -/
  | pause (milliseconds : Nat)
  | mark (m : Mark)
  | note (record : Journal.Record)
  deriving Repr, DecidableEq

/-- What each request is answered with. -/
abbrev Reply : Request → Type
  | .send _ | .flush | .relay _ _ => Delivery
  | .receive => Except SystemError Bytes
  | .hangUp => Except SystemError Unit
  | .resolve _ => Except SystemError String
  | .load _ => Except SystemError (List Char)
  | .invoke _ => Except SystemError Completion
  | .pause _ | .mark _ | .note _ => Unit

/-- What a controller can ask for. -/
abbrev interface : Interface := ⟨Request, Reply⟩

end Controller

/-- A controller at work. -/
abbrev Talk := Dialogue Controller.interface

/-- A controller at work that may fail. -/
abbrev Action := ExceptT SessionError Talk

namespace Controller

/-- Asks once. -/
def ask (r : Request) : Talk (Reply r) := Dialogue.ask (I := interface) r .done

/-- Writes a record to the journal. -/
def note (level : Journal.Level) (origin : Journal.Origin) (message : String)
    (fields : List (String × String)) : Talk Unit :=
  ask (.note ⟨level, origin, message, fields⟩)

/-- The part of a reply that went well; a failure of the system ends the action. -/
def orFail {α : Type} : Except SystemError α → Action α
  | .ok a => pure a
  | .error cause => throw (.io cause)

end Controller

end Lockstep
