import Lockstep.Journal.Record
import Lockstep.Script.Execution

/-!
# Settings

What a run of the program can be told: how it meets its client, which shell runs the commands, and
what the journal records. There is a value for everything that nobody has chosen.
-/

namespace Lockstep

/-- How the controller meets its client. -/
inductive Transport where
  /-- Over the standard streams. -/
  | stream
  /-- Over a connection that the client opens. -/
  | socket
  /-- There is no client. -/
  | none
  deriving Repr, DecidableEq

namespace Transport

/-- The name of a transport in settings. -/
def name : Transport → String
  | .stream => "stream"
  | .socket => "socket"
  | .none => "none"

/-- The transports in the order in which they are listed. -/
def all : List Transport := [.stream, .socket, .none]

end Transport

/-- What the journal records, and in which file; without a file there is no journal. -/
structure JournalSettings where
  level : Journal.Level
  file : Option String
  deriving Repr, DecidableEq

/-- What a controller can be told. -/
structure Settings where
  transport : Transport
  /-- Where the controller listens. -/
  host : String
  /-- How long the target pauses after each break, in milliseconds. -/
  delay : Option UInt64
  shell : String
  journal : JournalSettings
  deriving Repr, DecidableEq

namespace Settings

/-- Where the settings are kept if nothing else is said. -/
def defaultPath : String := ".linestep.toml"

/-- The host where nothing else is said. -/
def defaultHost : String := "127.0.0.1"

/-- The settings where nothing is said. -/
def default : Settings where
  transport := .stream
  host := defaultHost
  delay := none
  shell := Script.defaultShell
  journal := ⟨.warn, none⟩

end Settings

end Lockstep
