import Lockstep.Controller.Stepping

/-!
# Sessions

A session greets the client, finds the target, runs it step by step, and closes with the last
message. A fault of the target is part of its report, and the client does not learn of it. A
failure of the exchange ends the session where it happens, and no last message is sent.
-/

namespace Lockstep

/-- What came of a session that reached its last message. -/
structure Report where
  /-- How many times the target was suspended. -/
  breaks : Nat
  /-- The fault of the target, if it did not come to its end. -/
  fault : Option String
  deriving Repr, DecidableEq

namespace Session

open Controller (note)

/-- Greets the client; a failure is noted. -/
def introduce (endpoint : Endpoint) : Action Unit :=
  tryCatch endpoint.greet fun failure => do
    note .error .session "handshake failed" [("error", failure.message)]
    throw failure

/-- The line of some progress in a record. -/
def showLine : Option UInt32 → String
  | some line => s!"Some({line.toNat})"
  | none => "None"

/-- The fault with which a target stopped, if with any; a failure of a hook ends the session. -/
def faultOf (progress : Progress) : Except Stop Unit → Action (Option String)
  | .ok () => pure none
  | .error (.fault text) => do
    note .warn .session "target stopped with a fault" [("fault", text)]
    pure (some text)
  | .error (.aborted failure) => do
    note .error .session "session aborted"
      [("error", failure.message), ("line", showLine progress.lastLine)]
    throw failure

/-- Sends the last message and ends the use of the endpoint. -/
def finish (endpoint : Endpoint) : Action Unit := do
  Endpoint.send .finish
  endpoint.close

/-- Runs one target from the greeting to the last message. -/
def run (engine : Engine) (endpoint : Endpoint) (delay : Option Nat) (target : String) :
    Action Report := do
  introduce endpoint
  let target ← engine.resolve target
  note .info .session "running target" [("target", target)]
  let (result, progress) ← engine.run (stepper endpoint delay) target Progress.start
  let fault ← faultOf progress result
  finish endpoint
  note .info .session "session finished" [("breaks", toString progress.breaks)]
  pure ⟨progress.breaks, fault⟩

end Session

end Lockstep
