import Lockstep.Client.Request
import Lockstep.Message.Decode

/-!
# The steps of a client

A client answers the greeting of its controller, and then lets the target go on from each break
until the controller says that it has finished. Unlike the controller it reads a last line also if
the line feed is missing. How many events it goes through is bounded beforehand; with a bound
beyond the number of lines that arrive the bound never shows.
-/

namespace Lockstep

/-- What a controller reports between the greeting and the end. -/
inductive ClientEvent where
  | stopped (line : UInt32)
  | finished
  deriving Repr, DecidableEq

namespace Client

/-- Sends one message. -/
def send (m : Message) : Action Unit := do
  let delivery ← ask (.send m)
  orFail delivery.outcome

/-- The message of a line. -/
def readMessage (bytes : Bytes) : Except ClientError Message :=
  if bytes.isEmpty then .error .closed
  else
    match Utf8.decode? bytes with
    | none => .error .notText
    | some line =>
      match Message.decode line with
      | .error failure => .error (.malformed failure)
      | .ok m => .ok m

/-- Waits for a message of the controller. -/
def receive : Action Message := do
  let bytes ← orFail (← ask .receive)
  MonadExcept.ofExcept (readMessage bytes)

/-- Waits for the controller to introduce itself, and answers. -/
def greet : Action Unit := do
  match ← receive with
  | .serverInit _ _ => send .clientInit
  | other => throw (.unexpected "serverinit" other.kind)

/-- Waits for a break or for the end. -/
def nextEvent : Action ClientEvent := do
  match ← receive with
  | .breakAt line => pure (.stopped line)
  | .finish => pure .finished
  | other => throw (.unexpected "break or finish" other.kind)

/-- Lets the target go on. -/
def resume : Action Unit := send .resume

/-- The lines of breaks, and whether the end was reached within the bound. -/
structure Journey where
  lines : List UInt32
  finished : Bool
  deriving Repr, DecidableEq

/-- Goes through at most `bound` events, and resumes at each break. -/
def runToFinish : (bound : Nat) → Action Journey
  | 0 => pure ⟨[], false⟩
  | bound + 1 => do
    match ← nextEvent with
    | .finished => pure ⟨[], true⟩
    | .stopped line =>
      resume
      let journey ← runToFinish bound
      pure { journey with lines := line :: journey.lines }

/-- Waits until the user goes on from a line. -/
def awaitUser (line : UInt32) : Action Unit := do
  let bytes ← orFail (← ask .prompt)
  if bytes.isEmpty then throw (.unattended line)
  else if (Utf8.decode? bytes).isNone then throw .notText

/-- Goes through at most `bound` events before the eyes of a user. -/
def present (auto : Bool) : (bound : Nat) → Action Unit
  | 0 => pure ()
  | bound + 1 => do
    match ← nextEvent with
    | .finished => ask (.print "finished")
    | .stopped line =>
      ask (.print s!"break at line {line.toNat}")
      if !auto then awaitUser line
      resume
      present auto bound

/-- Plays the client for a user, who goes on from each break unless that is done for them. -/
def attend (auto : Bool) (bound : Nat) : Action Unit := do
  greet
  present auto bound

end Client

end Lockstep
