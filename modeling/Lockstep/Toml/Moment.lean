import Lockstep.Decimal.Numeral
import Lockstep.Toml.Fault

/-!
# Dates and times of TOML documents

A moment is a date, a time of day, or a date with a time and perhaps an offset from universal
time. Nothing here needs more than to know where a moment ends and that it is in the calendar.
-/

namespace Lockstep.Toml

open Decimal (isDigit)

/-- A number of so many digits at the front. -/
def fixedDigits? (count : Nat) (s : List Char) : Option (Nat × List Char) :=
  let digits := s.take count
  if digits.length = count ∧ digits.all isDigit then
    some (digits.foldl (fun n c => n * 10 + Decimal.valueOf c) 0, s.drop count)
  else none

/-- A number of so many digits within bounds. -/
def bounded? (count low high : Nat) (s : List Char) : Option (Nat × List Char) :=
  (fixedDigits? count s).filter fun found => low ≤ found.1 && found.1 ≤ high

/-- The text after a character that must come. -/
def skip? (c : Char) : List Char → Option (List Char)
  | d :: rest => if c = d then some rest else none
  | [] => none

/-- Whether February has 29 days. -/
def isLeapYear (year : Nat) : Bool := year % 4 = 0 && (year % 100 ≠ 0 || year % 400 = 0)

/-- How many days a month has. -/
def daysOf (year month : Nat) : Nat :=
  if month = 2 then if isLeapYear year then 29 else 28
  else if [4, 6, 9, 11].contains month then 30
  else 31

/-- The text after a date. -/
def date? (s : List Char) : Option (List Char) := do
  let (year, s) ← fixedDigits? 4 s
  let s ← skip? '-' s
  let (month, s) ← bounded? 2 1 12 s
  let s ← skip? '-' s
  let (_, s) ← bounded? 2 1 (daysOf year month) s
  return s

/-- The text after a fraction of a second. -/
def fraction (s : List Char) : List Char :=
  match s with
  | '.' :: d :: rest => if isDigit d then rest.dropWhile isDigit else s
  | _ => s

/-- The text after a time of day; a leap second is allowed. -/
def time? (s : List Char) : Option (List Char) := do
  let (_, s) ← bounded? 2 0 23 s
  let s ← skip? ':' s
  let (_, s) ← bounded? 2 0 59 s
  let s ← skip? ':' s
  let (_, s) ← bounded? 2 0 60 s
  return fraction s

/-- The text after an offset, which may be missing. -/
def offset? (s : List Char) : Option (List Char) :=
  let hours (s : List Char) : Option (List Char) := do
    let (_, s) ← bounded? 2 0 23 s
    let s ← skip? ':' s
    let (_, s) ← bounded? 2 0 59 s
    return s
  match s with
  | 'Z' :: rest | 'z' :: rest => some rest
  | '+' :: rest | '-' :: rest => hours rest
  | _ => some s

/-- Whether a time of day begins here. -/
def beginsTime (s : List Char) : Bool :=
  (fixedDigits? 2 s).any fun found => found.2.head? == some ':'

/-- Whether a date begins here. -/
def beginsDate (s : List Char) : Bool :=
  (fixedDigits? 4 s).any fun found => found.2.head? == some '-'

/-- The text after a date and the time that may follow it. -/
def dateTime? (s : List Char) : Option (List Char) := do
  let s ← date? s
  match s with
  | c :: rest =>
    if (c = 'T' || c = 't' || c = ' ') && beginsTime rest then
      let rest ← time? rest
      offset? rest
    else some s
  | [] => some s

/-- Reads a date or a time, if one begins here. -/
def readMoment? (s : List Char) : Option (Reading Value) :=
  let found : Option (Option (List Char)) :=
    if beginsDate s then some (dateTime? s)
    else if beginsTime s then some (time? s)
    else none
  found.map fun rest =>
    match rest with
    | some rest => .ok (.moment ⟨s.length, rest.length⟩, rest)
    | none => refuse s .impossible

end Lockstep.Toml
