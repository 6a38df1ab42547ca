import Lockstep.SessionError
import Lockstep.Wire.Source

/-!
# Lines of the controller

The controller takes a line only whole: one that has no line feed at its end, or nothing at all,
means that the peer went away. A whole line that is not text is malformed.
-/

namespace Lockstep.Line

/-- The text of a line that was read, with its line feed. -/
def ofBytes (bytes : Bytes) : Except SessionError (List Char) :=
  if bytes.getLast? = some lineFeed then
    match Utf8.decode bytes with
    | .ok text => .ok text
    | .error flaw => .error (.malformedLine (Utf8.decodeLossy bytes) flaw.message)
  else .error .closed

end Lockstep.Line
