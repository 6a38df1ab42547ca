import Lockstep.Client.Steps
import Lockstep.Wire.Source

/-!
# A model of a client's surroundings

What the controller sends and what the user types are given beforehand, and so is how the
controller's end takes bytes.
-/

namespace Lockstep.Client

/-- The state of a client's surroundings. -/
structure World where
  /-- What the controller sends. -/
  source : Source
  /-- Where messages to the controller go. -/
  sink : Sink
  /-- What the user types. -/
  terminal : Source

namespace World

/-- Answers one request. -/
def answer : Dialogue.Handler interface World
  | .send m, w =>
    let (delivery, sink) := w.sink.deliver [m.bytes]
    (delivery, { w with sink := sink })
  | .receive, w =>
    let (line, source) := w.source.readLine
    (line, { w with source := source })
  | .print _, w => ((), w)
  | .prompt, w =>
    let (line, terminal) := w.terminal.readLine
    (line, { w with terminal := terminal })

end World

/-- A request of a client with its reply. -/
abbrev Exchange := Dialogue.Exchange interface

/-- The bytes that a request got to the controller. -/
def Exchange.sent : Exchange → Bytes
  | ⟨.send _, delivery⟩ => delivery.accepted.flatten
  | _ => []

/-- The lines that a request showed to the user. -/
def Exchange.shown : Exchange → List String
  | ⟨.print line, _⟩ => [line]
  | _ => []

/-- The bytes that a run got to the controller. -/
def sent (trace : List Exchange) : Bytes := trace.flatMap Exchange.sent

/-- The lines that a run showed to the user. -/
def shown (trace : List Exchange) : List String := trace.flatMap Exchange.shown

end Lockstep.Client
