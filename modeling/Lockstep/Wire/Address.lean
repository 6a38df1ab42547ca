import Lockstep.Text.Hexadecimal

/-!
# Internet addresses

An address has four bytes or eight groups of sixteen bits. Four bytes are written as one to four
numbers with dots between them, of which the last one stands for all the bytes that are left; a
number is hexadecimal after `0x`, octal after `0`, and else decimal. Groups are written in
hexadecimal with colons between them, a run of zeros as two colons in a row, and the last two
groups as four decimal bytes if one likes.
-/

namespace Lockstep

/-- An address of the internet. -/
inductive Address where
  | v4 (value : Nat)
  | v6 (groups : List Nat)
  deriving Repr, DecidableEq

namespace Address

/-- The number that digits of a base stand for, after others that gave `value`. -/
def readDigits (base value : Nat) : List Char → Option Nat
  | [] => some value
  | c :: rest =>
    match Hexadecimal.value? c with
    | some d => if d < base then readDigits base (value * base + d) rest else none
    | none => none

/-- The number that at least one digit of a base stands for. -/
def readSome (base : Nat) (s : List Char) : Option Nat :=
  if s.isEmpty then none else readDigits base 0 s

/-- A number of an address. -/
def readNumber : List Char → Option Nat
  | '0' :: 'x' :: rest | '0' :: 'X' :: rest => readSome 16 rest
  | '0' :: rest => readDigits 8 0 rest
  | s => readSome 10 s

/-- The value of numbers, the last of which stands for the bytes that are left. -/
def combine (value room : Nat) : List Nat → Option Nat
  | [] => none
  | [last] => if last < Nat.pow 256 room then some (value * Nat.pow 256 room + last) else none
  | n :: rest =>
    if n < 256 ∧ room > 1 then combine (value * 256 + n) (room - 1) rest else none

/-- Four bytes in any of their forms. -/
def readV4 (s : String) : Option Nat :=
  ((s.splitOn ".").mapM fun part => readNumber part.toList) >>= combine 0 4

/-- A byte in decimal, without a zero before it. -/
def readByte (s : List Char) : Option Nat :=
  match s with
  | '0' :: _ :: _ => none
  | _ => (readSome 10 s).filter (· < 256)

/-- One group, or the two groups of four bytes. -/
def readGroup (s : String) : Option (List Nat) :=
  match (s.splitOn ".").mapM fun part => readByte part.toList with
  | some [a, b, c, d] => some [a * 256 + b, c * 256 + d]
  | _ => if s.length ≤ 4 then (readSome 16 s.toList).map ([·]) else none

/-- Groups with colons between them, of which only the last one may be written as bytes. -/
def readGroups (s : String) : Option (List Nat) :=
  if s.isEmpty then some []
  else
    let parts := s.splitOn ":"
    if parts.dropLast.any fun part => part.toList.contains '.' then none
    else (parts.mapM readGroup).map List.flatten

/-- Eight groups; two colons stand for one group at least. -/
def readV6 (s : String) : Option (List Nat) :=
  match s.splitOn "::" with
  | [all] => (readGroups all).filter (·.length = 8)
  | [head, tail] =>
    if head.toList.contains '.' then none
    else
      match readGroups head, readGroups tail with
      | some before, some behind =>
        if before.length + behind.length < 8 then
          some (before ++ List.replicate (8 - before.length - behind.length) 0 ++ behind)
        else none
      | _, _ => none
  | _ => none

/-- The address that a text is. -/
def read? (s : String) : Option Address :=
  match readV4 s with
  | some value => some (.v4 value)
  | none => (readV6 s).map .v6

/-- Four bytes that are written as an address of eight groups count as four bytes. -/
def unmapped : Address → Address
  | .v6 [0, 0, 0, 0, 0, 0xFFFF, high, low] => .v4 (high * 65536 + low)
  | a => a

end Address

/-- A character of the name of a host. -/
def isHostChar (c : Char) : Bool := c.isAlphanum || c = '-' || c = '_'

/-- A name that a host can have: labels with dots between them and perhaps a dot at the end. -/
def isHostName (s : String) : Bool :=
  let labels := s.splitOn "."
  let labels := if labels.length > 1 && labels.getLast? == some "" then labels.dropLast else labels
  s == "." ||
    (!s.startsWith "-" && (".".intercalate labels).length ≤ 253 &&
      labels.all fun label => label ≠ "" && label.length ≤ 63 && label.toList.all isHostChar)

end Lockstep
