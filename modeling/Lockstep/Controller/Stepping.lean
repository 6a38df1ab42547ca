import Lockstep.Controller.Endpoint
import Lockstep.Controller.Engine

/-!
# Stepping

Before a new line the target is suspended: the break is reported, and the target stands still
until the client lets it go on. A line is new if it differs from the last line of the target file
that was reached; lines of other files do not count and change nothing.
-/

namespace Lockstep

namespace Endpoint

open Controller (ask note)

/-- The client's answer to a break. -/
def awaitResume (e : Endpoint) : Action Unit := do
  match ← e.receiveMessage with
  | .resume => pure ()
  | other => throw (.violation .resume other.kind.name)

/-- Suspends the target before a line, until the client lets it go on and the delay is over. -/
def suspend (e : Endpoint) (delay : Option Nat) (line : UInt32) : Action Unit := do
  note .debug .suspension "break" [("line", toString line.toNat)]
  send (.breakAt line)
  if e.hasPeer then e.awaitResume
  match delay with
  | some milliseconds => ask (.pause milliseconds)
  | none => pure ()
  note .trace .suspension "resumed" [("line", toString line.toNat)]

end Endpoint

/-- How far a target has come. -/
structure Progress where
  /-- The last line of the target file that was reached. -/
  lastLine : Option UInt32
  /-- How many times the target was suspended. -/
  breaks : Nat
  deriving Repr, DecidableEq

namespace Progress

/-- No line has been reached. -/
def start : Progress := ⟨none, 0⟩

/-- Whether a line event is a new line of the target file. -/
def isNew (p : Progress) (event : LineEvent) : Bool :=
  event.inTarget && p.lastLine != some event.place.line

/-- The progress at a new line. -/
def advance (p : Progress) (line : UInt32) : Progress := ⟨some line, p.breaks + 1⟩

end Progress

/-- Suspends the target at each new line. A suspension that fails counts too. -/
def stepper (e : Endpoint) (delay : Option Nat) : Hooks Progress :=
  Hooks.onLine fun event p =>
    let line := event.place.line
    if p.isNew event then do
      let result ← (e.suspend delay line).run
      pure (result, p.advance line)
    else if event.inTarget then do
      Controller.note .trace .progress "suppressed repeated line" [("line", toString line.toNat)]
      pure (.ok (), p)
    else pure (.ok (), p)

end Lockstep
