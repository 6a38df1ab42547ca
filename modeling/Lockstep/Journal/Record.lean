/-!
# Records of the journal

The journal tells what the program did. A record has a level, the part of the program that made
it, a message, and named values. The levels are ordered by how much they tell.
-/

namespace Lockstep.Journal

/-- How much a record matters, or how much is to be told. -/
inductive Level where
  | error
  | warn
  | info
  | debug
  | trace
  deriving Repr, DecidableEq

namespace Level

/-- The name of a level in settings. -/
def name : Level → String
  | .error => "error"
  | .warn => "warn"
  | .info => "info"
  | .debug => "debug"
  | .trace => "trace"

/-- The levels, from the least to the most that is told. -/
def all : List Level := [.error, .warn, .info, .debug, .trace]

/-- The level of a name. -/
def ofName? (name : String) : Option Level := all.find? fun level => level.name == name

/-- The place of a level in their order. -/
def rank : Level → Nat
  | .error => 0
  | .warn => 1
  | .info => 2
  | .debug => 3
  | .trace => 4

end Level

/-- The part of the program that made a record. -/
inductive Origin where
  | greeting
  | suspension
  | progress
  | session
  | connection
  | commandLine
  | program
  deriving Repr, DecidableEq

/-- The name of a part in the journal and in filters. -/
def Origin.name : Origin → String
  | .greeting => "linestep::session::handshake"
  | .suspension => "linestep::session::breaker"
  | .progress => "linestep::session::tracer"
  | .session => "linestep::session::driver"
  | .connection => "linestep::transport::socket"
  | .commandLine => "linestep::cli"
  | .program => "lstep"

/-- One thing the program did. -/
structure Record where
  level : Level
  origin : Origin
  message : String
  fields : List (String × String)
  deriving Repr, DecidableEq

end Lockstep.Journal
