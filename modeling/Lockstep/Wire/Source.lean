import Lockstep.SystemError
import Lockstep.Text.Utf8

/-!
# What arrives

Bytes arrive in pieces of any size, reads may be interrupted, and a read may fail. A line is read
up to and including its line feed; at the end of everything, what is left is an unfinished line.
An interrupted read is tried again. A failed one loses what it had read of the current line, and
the next read goes on after it.
-/

namespace Lockstep

/-- The line feed. -/
def lineFeed : UInt8 := 10

/-- The result of one read. -/
inductive Arrival where
  | bytes (piece : Bytes)
  | interrupted
  | failed (cause : SystemError)
  deriving Repr, DecidableEq

/-- The results of all reads to come, after which nothing more arrives. -/
abbrev Source := List Arrival

namespace Source

/-- A source from which all the bytes arrive at once. -/
def ofBytes (bytes : Bytes) : Source := [.bytes bytes]

/-- The bytes up to and including the first line feed, and those after it. -/
def cutLine : Bytes → Option (Bytes × Bytes)
  | [] => none
  | b :: rest =>
    if b = lineFeed then some ([b], rest)
    else (cutLine rest).map fun cut => (b :: cut.1, cut.2)

/-- Reads on in a line whose first bytes are `pending`. -/
def readLineFrom (pending : Bytes) : Source → Except SystemError Bytes × Source
  | [] => (.ok pending, [])
  | .interrupted :: rest => readLineFrom pending rest
  | .failed cause :: rest => (.error cause, rest)
  | .bytes piece :: rest =>
    match cutLine piece with
    | some (line, left) => (.ok (pending ++ line), .bytes left :: rest)
    | none => readLineFrom (pending ++ piece) rest

/-- Reads a line; without a line feed at its end it is the last one. -/
def readLine (s : Source) : Except SystemError Bytes × Source := readLineFrom [] s

end Source

end Lockstep
