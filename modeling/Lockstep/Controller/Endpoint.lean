import Lockstep.Controller.Request
import Lockstep.Message.Decode
import Lockstep.Wire.Line

/-!
# Endpoints

The controller's end of the exchange is one of three. A stream talks over a pair of open streams,
a socket over one accepted connection, whose address its opening message repeats. A loopback has
no client: messages are shown and nothing is waited for. The greeting opens a session at any of
them.
-/

namespace Lockstep

/-- The controller's end of the exchange. -/
inductive Endpoint where
  | stream
  | socket (host : String) (port : UInt16)
  | loopback
  deriving Repr, DecidableEq

namespace Endpoint

open Controller (ask note orFail)

/-- The message that opens a session. -/
def opening : Endpoint → Message
  | .stream | .loopback => .serverInit none none
  | .socket host port => .serverInit (some host) (some port)

/-- Whether a client is there that answers. -/
def hasPeer : Endpoint → Bool
  | .loopback => false
  | .stream | .socket _ _ => true

/-- Sends one message. -/
def send (m : Message) : Action Unit := do
  let delivery ← ask (.send m)
  orFail delivery.outcome

/-- Waits for a line of the client. Where there is no client nobody ever answers. -/
def receive (e : Endpoint) : Action (List Char) :=
  if e.hasPeer then do
    let bytes ← orFail (← ask .receive)
    MonadExcept.ofExcept (Line.ofBytes bytes)
  else do
    ask (.mark .unanswered)
    throw .closed

/-- Waits for a message of the client. -/
def receiveMessage (e : Endpoint) : Action Message := do
  let line ← e.receive
  MonadExcept.ofExcept (Message.decode line)

/-- Ends the use of the endpoint. A client that has hung up already is no failure. -/
def close (e : Endpoint) : Action Unit := do
  let delivery ← ask .flush
  orFail delivery.outcome
  match e with
  | .stream | .loopback => pure ()
  | .socket _ _ =>
    match ← ask .hangUp with
    | .ok () => pure ()
    | .error cause => if cause = .notConnected then pure () else throw (.io cause)

/-- The client's answer to the opening message. Whatever goes wrong in it fails the handshake. -/
def awaitGreeting (e : Endpoint) : Action Unit := do
  let received ← tryCatch e.receiveMessage fun failure => throw (.handshakeFailed failure.message)
  match received with
  | .clientInit => note .info .greeting "handshake complete" []
  | other => throw (.handshakeFailed s!"expected 'clientinit', received '{other.kind.name}'")

/-- Opens a session: the controller introduces itself and waits for the client to do so. -/
def greet (e : Endpoint) : Action Unit := do
  send e.opening
  if e.hasPeer then e.awaitGreeting
  else note .debug .greeting "no client attached, skipping clientinit" []

end Endpoint

end Lockstep
