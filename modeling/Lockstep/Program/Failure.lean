import Lockstep.Client.Request
import Lockstep.SessionError
import Lockstep.Settings.Decode

/-!
# Failures of the program

A failure says what the program could not do, and below that what it was caused by, one cause
after another. A single cause stands by itself, several are numbered; a cause of several lines
keeps them under each other.
-/

namespace Lockstep

/-- What the program could not do, and why. -/
structure Failure where
  message : String
  causes : List String
  deriving Repr, DecidableEq

namespace Failure

/-- A failure without a cause. -/
def plain (message : String) : Failure := ⟨message, []⟩

/-- What an error of the system kept from being done. -/
def system (message : String) (cause : SystemError) : Failure := ⟨message, [cause.message]⟩

/-- A session that ended early; an error of the system is repeated as its cause. -/
def session (e : SessionError) : Failure :=
  match e with
  | .io cause | .targetUnavailable _ cause => ⟨e.message, [cause.message]⟩
  | _ => ⟨e.message, []⟩

/-- A client that gave up. -/
def client (e : ClientError) : Failure := plain e.message

/-- The failure, which is caused by another one. -/
def because (message : String) (f : Failure) : Failure := ⟨message, f.message :: f.causes⟩

/-- A cause with `first` before its first line and `more` before the others. -/
def indent (first more cause : String) : String :=
  "\n".intercalate <|
    match cause.splitOn "\n" with
    | [] => []
    | line :: lines => (first ++ line) :: lines.map (more ++ ·)

/-- A cause with its number. -/
def number (n : Nat) (cause : String) : String :=
  let digits := toString n
  indent ("".pushn ' ' (5 - digits.length) ++ digits ++ ": ") "       " cause

/-- What the program says of the failure. -/
def render (f : Failure) : String :=
  let causes :=
    match f.causes with
    | [] => []
    | [cause] => [indent "    " "    " cause]
    | causes => causes.mapIdx number
  let below := if causes.isEmpty then "" else "\n\nCaused by:\n" ++ "\n".intercalate causes
  s!"Error: {f.message}{below}\n"

end Failure

end Lockstep
