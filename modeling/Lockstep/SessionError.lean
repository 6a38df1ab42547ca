import Lockstep.SystemError
import Lockstep.Message.Basic
import Lockstep.Text.Blank
import Lockstep.Text.Quoted

/-!
# Failures of sessions

What ends a session before its last message. None is repaired: whoever meets one gives it up to
the caller, and the session is over.
-/

namespace Lockstep

/-- Why a session ended early. -/
inductive SessionError where
  /-- A line that is no message. -/
  | malformed (line reason : String)
  /-- The client did not introduce itself. -/
  | handshakeFailed (reason : String)
  /-- A message of another kind than the one that had to come. -/
  | violation (expected : Message.Kind) (received : String)
  /-- The peer went away. -/
  | closed
  /-- The connection failed. -/
  | io (cause : SystemError)
  /-- The target cannot be found. -/
  | targetUnavailable (path : String) (cause : SystemError)
  deriving Repr, DecidableEq

namespace SessionError

/-- A line that is no message, shown without blanks at its end. -/
def malformedLine (line : List Char) (reason : String) : SessionError :=
  .malformed (String.ofList (Text.trimEnd line)) reason

/-- The failure in words. -/
def message : SessionError → String
  | .malformed line reason => s!"malformed message {Quoted.quote line}: {reason}"
  | .handshakeFailed reason => s!"handshake failed: {reason}"
  | .violation expected received =>
    s!"protocol violation: expected '{expected.name}' message, received '{received}'"
  | .closed => "transport closed by peer"
  | .io cause => s!"transport i/o error: {cause.message}"
  | .targetUnavailable path cause => s!"target {Quoted.quote path} is unavailable: {cause.message}"

end SessionError

end Lockstep
