import Lockstep.Decimal.Numeral
import Lockstep.Text.Hexadecimal
import Lockstep.Toml.Fault

/-!
# Numbers of TOML documents

Integers are decimal with a sign, or hexadecimal, octal or binary without one, and fit in 64 bits.
A number with a fraction or an exponent is a floating point number, the nearest one; one that is
too large is refused. An underscore may stand between two digits.
-/

namespace Lockstep.Toml

open Decimal (isDigit)

/-- Digits after a digit, with single underscores before them, which are left out. -/
def moreDigits (ok : Char → Bool) : List Char → List Char × List Char
  | '_' :: c :: rest =>
    if ok c then
      let (digits, rest) := moreDigits ok rest
      (c :: digits, rest)
    else ([], '_' :: c :: rest)
  | c :: rest =>
    if ok c then
      let (digits, rest) := moreDigits ok rest
      (c :: digits, rest)
    else ([], c :: rest)
  | [] => ([], [])

/-- The number of digits to a base. -/
def valueIn (base : Nat) (digits : List Char) : Nat :=
  digits.foldl (fun n c => n * base + (Hexadecimal.value? c).getD 0) 0

/-- A digit to a base. -/
def isDigitIn (base : Nat) (c : Char) : Bool :=
  match Hexadecimal.value? c with
  | some n => n < base
  | none => false

/-- At least one digit. -/
def readDigits (ok : Char → Bool) : List Char → Reading (List Char)
  | [] => refuse [] .unexpected
  | c :: rest =>
    if ok c then
      let (digits, rest) := moreDigits ok rest
      .ok (c :: digits, rest)
    else refuse (c :: rest) .unexpected

/-- An integer, if it fits. -/
def integer (start : List Char) (isNegative : Bool) (n : Nat) : Except Fault Int :=
  if n ≤ Decimal.maxSigned64 + (if isNegative then 1 else 0) then
    .ok (if isNegative then -(n : Int) else n)
  else refuse start .outOfRange

/-- The exponent of a number, if it has one. -/
def readExponent (s : List Char) : Reading (Option Int) :=
  let digits (isNegative : Bool) (rest : List Char) : Reading (Option Int) :=
    match readDigits isDigit rest with
    | .error fault => .error fault
    | .ok (ds, rest) =>
      let n : Int := valueIn 10 ds
      .ok (some (if isNegative then -n else n), rest)
  match s with
  | e :: rest =>
    if e = 'e' || e = 'E' then
      match rest with
      | '+' :: rest => digits false rest
      | '-' :: rest => digits true rest
      | _ => digits false rest
    else .ok (none, s)
  | [] => .ok (none, [])

/-- The fraction of a number, if it has one. -/
def readFraction : List Char → Reading (Option (List Char))
  | '.' :: rest =>
    match readDigits isDigit rest with
    | .error fault => .error fault
    | .ok (digits, rest) => .ok (some digits, rest)
  | s => .ok (none, s)

/-- The magnitude of digits times a power of ten. Beyond 400 places only the sign counts. -/
def magnitude (digits : List Char) (exponent : Int) : Binary64 :=
  let n := valueIn 10 digits
  let place : Int := exponent + (Decimal.digits n).length
  if n = 0 then .ofNat 0
  else if place > 400 then .infinite
  else if place < -400 then .ofNat 0
  else .ofDecimal n exponent

/-- A decimal number whose sign has been read; `start` is the text at the sign. -/
def readDecimal (start : List Char) (span : List Char → Span) (isNegative : Bool) (s : List Char) :
    Reading Value :=
  let whole : Reading (List Char) :=
    match s with
    | '0' :: rest => .ok (['0'], rest)
    | _ => readDigits isDigit s
  match whole with
  | .error fault => .error fault
  | .ok (whole, rest) =>
    match readFraction rest with
    | .error fault => .error fault
    | .ok (fraction, rest) =>
      match readExponent rest with
      | .error fault => .error fault
      | .ok (exponent, rest) =>
        if fraction.isNone && exponent.isNone then
          match integer start isNegative (valueIn 10 whole) with
          | .error fault => .error fault
          | .ok i => .ok (.integer (span rest) i, rest)
        else
          let fraction := fraction.getD []
          let size := magnitude (whole ++ fraction) (exponent.getD 0 - fraction.length)
          if size = .infinite && !isNegative then refuse start .outOfRange
          else .ok (.real (span rest) (.number isNegative size), rest)

/-- A number after its sign. -/
def readUnsigned (start : List Char) (span : List Char → Span) (isNegative : Bool) :
    List Char → Reading Value
  | 'i' :: 'n' :: 'f' :: rest => .ok (.real (span rest) (.number isNegative .infinite), rest)
  | 'n' :: 'a' :: 'n' :: rest => .ok (.real (span rest) .notNumber, rest)
  | s => readDecimal start span isNegative s

/-- An integer to another base than ten. -/
def readBased (start : List Char) (span : List Char → Span) (base : Nat) (s : List Char) :
    Reading Value :=
  match readDigits (isDigitIn base) s with
  | .error fault => .error fault
  | .ok (digits, rest) =>
    match integer start false (valueIn base digits) with
    | .error fault => .error fault
    | .ok i => .ok (.integer (span rest) i, rest)

/-- Reads a number. -/
def readNumber (s : List Char) : Reading Value :=
  let span (rest : List Char) : Span := ⟨s.length, rest.length⟩
  match s with
  | '+' :: rest => readUnsigned s span false rest
  | '-' :: rest => readUnsigned s span true rest
  | '0' :: 'x' :: rest => readBased s span 16 rest
  | '0' :: 'o' :: rest => readBased s span 8 rest
  | '0' :: 'b' :: rest => readBased s span 2 rest
  | _ => readUnsigned s span false s

end Lockstep.Toml
