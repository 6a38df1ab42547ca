import Lockstep.Controller.Request
import Lockstep.Wire.Source

/-!
# A model of a controller's surroundings

Everything a controller meets is given beforehand: what arrives from the client, how the client's
end and the output take bytes, and how the host finds files and runs commands. Commands may change
the host's state. What was asked for and what came of it is in the trace of a run, from which the
bytes that were sent are read off.
-/

namespace Lockstep

/-- How a host with states `η` answers. -/
structure Host (η : Type) where
  resolve : η → String → Except SystemError String
  load : η → String → Except SystemError (List Char)
  invoke : η → Invocation → Except SystemError Completion × η

/-- The state of a controller's surroundings. -/
structure World (η : Type) where
  /-- What the client sends. -/
  source : Source
  /-- Where messages to the client go. -/
  sink : Sink
  /-- Where the output of the target goes. -/
  output : Sink
  /-- What closing the connection ends with. -/
  hangUp : Except SystemError Unit
  host : η

namespace World

/-- Answers one request. -/
def answer {η : Type} (host : Host η) : Dialogue.Handler Controller.interface (World η)
  | .send m, w =>
    let (delivery, sink) := w.sink.deliver [m.bytes]
    (delivery, { w with sink := sink })
  | .receive, w =>
    let (line, source) := w.source.readLine
    (line, { w with source := source })
  | .flush, w =>
    let (delivery, sink) := w.sink.deliver []
    (delivery, { w with sink := sink })
  | .hangUp, w => (w.hangUp, w)
  | .resolve path, w => (host.resolve w.host path, w)
  | .load path, w => (host.load w.host path, w)
  | .invoke invocation, w =>
    let (result, state) := host.invoke w.host invocation
    (result, { w with host := state })
  | .relay out err, w =>
    let (delivery, output) := w.output.deliver [out, err]
    (delivery, { w with output := output })
  | .pause _, w => ((), w)
  | .mark _, w => ((), w)
  | .note _, w => ((), w)

end World

namespace Controller

/-- A request of a controller with its reply. -/
abbrev Exchange := Dialogue.Exchange interface

/-- The bytes that a request got to the client. -/
def Exchange.sent : Exchange → Bytes
  | ⟨.send _, delivery⟩ => delivery.accepted.flatten
  | ⟨.flush, delivery⟩ => delivery.accepted.flatten
  | _ => []

/-- The bytes that a request got to the output. -/
def Exchange.printed : Exchange → Bytes
  | ⟨.relay _ _, delivery⟩ => delivery.accepted.flatten
  | _ => []

/-- The bytes that a run got to the client. -/
def sent (trace : List Exchange) : Bytes := trace.flatMap Exchange.sent

/-- The bytes that a run got to the output. -/
def printed (trace : List Exchange) : Bytes := trace.flatMap Exchange.printed

end Controller

end Lockstep
