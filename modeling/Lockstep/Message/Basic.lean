import Lockstep.Json.Printer
import Lockstep.Text.Utf8

/-!
# Messages

Controller and client advance in lockstep by single messages: the controller opens with
`serverInit`, the client answers `clientInit`; before each new line the controller sends `breakAt`
and the client answers `resume`; the controller closes with `finish`. A message travels as one
line, a JSON object whose `type` names its kind and whose other keys are the fields that it has.
-/

namespace Lockstep

/-- One step of the exchange. -/
inductive Message where
  /-- The controller is there; over a network it tells where it listens. -/
  | serverInit (host : Option String) (port : Option UInt16)
  /-- The client is there. -/
  | clientInit
  /-- The target stands before this line. -/
  | breakAt (line : UInt32)
  /-- The target may go on. -/
  | resume
  /-- The target has stopped running. -/
  | finish
  deriving Repr, DecidableEq

namespace Message

/-- The kinds of messages. -/
inductive Kind where
  | serverInit
  | clientInit
  | breakAt
  | resume
  | finish
  deriving Repr, DecidableEq

/-- The name of a kind on the wire. -/
def Kind.name : Kind → String
  | .serverInit => "serverinit"
  | .clientInit => "clientinit"
  | .breakAt => "break"
  | .resume => "continue"
  | .finish => "finish"

/-- The kind of a name. -/
def Kind.ofName? (name : String) : Option Kind :=
  if name = "serverinit" then some .serverInit
  else if name = "clientinit" then some .clientInit
  else if name = "break" then some .breakAt
  else if name = "continue" then some .resume
  else if name = "finish" then some .finish
  else none

/-- The kind of a message. -/
def kind : Message → Kind
  | .serverInit _ _ => .serverInit
  | .clientInit => .clientInit
  | .breakAt _ => .breakAt
  | .resume => .resume
  | .finish => .finish

/-- The fields of a message that are present, in the order in which they are written. -/
def fields : Message → List (String × Json.Value)
  | .serverInit host port =>
    (host.map fun h => ("host", Json.Value.string h)).toList ++
      (port.map fun p => ("port", Json.Value.number (.natural p.toNat))).toList
  | .breakAt line => [("linenumber", .number (.natural line.toNat))]
  | .clientInit | .resume | .finish => []

/-- The object that stands for a message. -/
def toJson (m : Message) : Json.Value := .object (("type", .string m.kind.name) :: m.fields)

/-- The line of a message, with its line feed. -/
def encode (m : Message) : List Char := m.toJson.render ++ ['\n']

/-- The bytes of the line of a message. -/
def bytes (m : Message) : Bytes := Utf8.encode m.encode

end Message

end Lockstep
