import Lockstep.Dialogue
import Lockstep.SessionError
import Lockstep.Wire.Sink

/-!
# What a client asks for

A client talks to its controller over a connection. One that a user sits at also prints lines, and
waits for the user to go on.
-/

namespace Lockstep

/-- Why a client gave up. -/
inductive ClientError where
  /-- The controller went away. -/
  | closed
  /-- A line that is not text. -/
  | notText
  /-- A line that is no message. -/
  | malformed (failure : SessionError)
  /-- A message of another kind than those that may come. -/
  | unexpected (expected : String) (received : Message.Kind)
  /-- There is no user any more to go on from a line. -/
  | unattended (line : UInt32)
  /-- The connection failed. -/
  | io (cause : SystemError)
  deriving Repr, DecidableEq

/-- The error in words. -/
def ClientError.message : ClientError → String
  | .closed => "controller closed connection"
  | .notText => SystemError.notText.message
  | .malformed failure => failure.message
  | .unexpected expected received => s!"expected {expected}, received '{received.name}'"
  | .unattended line => s!"stdin closed while stopped at line {line.toNat}"
  | .io cause => cause.message

namespace Client

/-- One thing that a client asks for. -/
inductive Request where
  /-- Deliver the line of a message to the controller, and flush. -/
  | send (message : Message)
  /-- Wait for a line from the controller; the last one may be without a line feed. -/
  | receive
  /-- Show a line to the user. -/
  | print (line : String)
  /-- Wait for a line from the user. -/
  | prompt
  deriving Repr, DecidableEq

/-- What each request is answered with. -/
abbrev Reply : Request → Type
  | .send _ => Delivery
  | .receive | .prompt => Except SystemError Bytes
  | .print _ => Unit

/-- What a client can ask for. -/
abbrev interface : Interface := ⟨Request, Reply⟩

/-- A client at work. -/
abbrev Talk := Dialogue interface

/-- A client at work that may give up. -/
abbrev Action := ExceptT ClientError Talk

/-- Asks once. -/
def ask (r : Request) : Talk (Reply r) := Dialogue.ask (I := interface) r .done

/-- The part of a reply that went well. -/
def orFail {α : Type} : Except SystemError α → Action α
  | .ok a => pure a
  | .error cause => throw (.io cause)

end Client

end Lockstep
