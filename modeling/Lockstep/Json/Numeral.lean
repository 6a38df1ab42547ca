import Lockstep.Json.Value
import Lockstep.Json.Fault

/-!
# Numbers of JSON texts

A number is read in two steps: its parts are taken from the text, and the parts give its value.
An integer without fraction and exponent that fits in 64 bits is kept as it is. For any other
number the leading digits that fit in 64 bits are rounded to a floating point number, which is
then multiplied or divided by a rounded power of ten; the value may so differ from the nearest
one in its last place.
-/

namespace Lockstep.Json

open Decimal (isDigit valueOf)

/-- Longest run of digits at the front, and the rest. -/
def spanDigits (s : List Char) : List Char × List Char := (s.takeWhile isDigit, s.dropWhile isDigit)

/-- The leading digits of a numeral as far as they fit in 64 bits. -/
structure Significand where
  value : Nat
  /-- The power of ten that the value is to be multiplied with. -/
  exponent : Int

/-- Adds digits before the point. Where one does not fit, it and all after it are only counted. -/
def Significand.addWhole (value : Nat) : List Char → Significand
  | [] => ⟨value, 0⟩
  | c :: rest =>
    let next := value * 10 + valueOf c
    if next ≤ Decimal.max64 then addWhole next rest else ⟨value, rest.length + 1⟩

/-- Adds digits after the point. Where one does not fit, it and all after it are left out. -/
def Significand.addFraction (s : Significand) : List Char → Significand
  | [] => s
  | c :: rest =>
    let next := s.value * 10 + valueOf c
    if next ≤ Decimal.max64 then addFraction ⟨next, s.exponent - 1⟩ rest else s

/-- Multiplies a magnitude by a power of ten; `none` if it gets too large. -/
def scaleByTen : Nat → Binary64 → Int → Option Binary64
  | 0, x, _ => some x
  | fuel + 1, x, exponent =>
    if exponent.natAbs ≤ 308 then
      if exponent ≥ 0 then
        match x.mul (.powerOfTen exponent.natAbs) with
        | .infinite => none
        | y => some y
      else some (x.div (.powerOfTen exponent.natAbs))
    else if x.isZero then some x
    else if exponent ≥ 0 then none
    else scaleByTen fuel (x.div (.powerOfTen 308)) (exponent + 308)

/-- The magnitude of a numeral; no magnitude outlives three divisions by 10^308. -/
def Significand.magnitude (s : Significand) : Option Binary64 :=
  scaleByTen 4 (.ofNat s.value) s.exponent

/-- The exponent of a numeral. -/
inductive Exponent where
  | fits (value : Int)
  /-- Beyond 32 bits; the rest begins after the digit that showed it. -/
  | huge (isNegative : Bool) (rest : List Char)

/-- Reads the digits of an exponent after others that gave `value`. -/
def readExponent (isNegative : Bool) (value : Nat) : List Char → Exponent × List Char
  | [] => (.fits (if isNegative then -(value : Int) else value), [])
  | c :: rest =>
    if isDigit c then
      let next := value * 10 + valueOf c
      if next ≤ 2147483647 then readExponent isNegative next rest
      else (.huge isNegative rest, rest.dropWhile isDigit)
    else (.fits (if isNegative then -(value : Int) else value), c :: rest)

/-- The parts of a numeral. -/
structure Parts where
  isNegative : Bool
  whole : List Char
  fraction : Option (List Char)
  exponent : Option Exponent

/-- The value of a numeral after which `rest` stands. -/
def Parts.value (p : Parts) (rest : List Char) : Except Fault Number :=
  let whole := Significand.addWhole 0 p.whole
  if p.fraction.isNone ∧ p.exponent.isNone ∧ whole.exponent = 0 then
    if !p.isNegative then .ok (.natural whole.value)
    else if 1 ≤ whole.value ∧ whole.value ≤ Decimal.maxSigned64 + 1 then .ok (.negative whole.value)
    else .ok (.real true (.ofNat whole.value))
  else
    let s := whole.addFraction (p.fraction.getD [])
    let scaled (exponent : Int) : Except Fault Number :=
      match Significand.magnitude ⟨s.value, s.exponent + exponent⟩ with
      | some x => .ok (.real p.isNegative x)
      | none => .error (.before .numberOutOfRange rest)
    match p.exponent with
    | none => scaled 0
    | some (.fits exponent) => scaled exponent
    | some (.huge isNegative place) =>
      if s.value ≠ 0 ∧ !isNegative then .error (.before .numberOutOfRange place)
      else .ok (.real p.isNegative (.finite 0 (-1074)))

/-- Reads the digits before the point. A zero stands alone. -/
def readWhole (s : List Char) : Except Fault (List Char × List Char) :=
  match s with
  | [] => .error (.first .endInValue [])
  | '0' :: rest =>
    match rest with
    | c :: _ => if isDigit c then .error (.first .badNumber rest) else .ok (['0'], rest)
    | [] => .ok (['0'], rest)
  | c :: _ => if isDigit c then .ok (spanDigits s) else .error (.first .badNumber s)

/-- Reads a point and the digits after it, if a point follows. -/
def readFraction (s : List Char) : Except Fault (Option (List Char) × List Char) :=
  match s with
  | '.' :: rest =>
    match spanDigits rest with
    | ([], []) => .error (.first .endInValue [])
    | ([], other) => .error (.first .badNumber other)
    | (ds, other) => .ok (some ds, other)
  | _ => .ok (none, s)

/-- Reads the number after the letter of an exponent. -/
def readPower (isNegative : Bool) (s : List Char) : Except Fault (Option Exponent × List Char) :=
  match s with
  | [] => .error (.first .endInValue [])
  | c :: rest =>
    if isDigit c then
      let (exponent, other) := readExponent isNegative (valueOf c) rest
      .ok (some exponent, other)
    else .error (.first .badNumber s)

/-- Reads an exponent, if one follows. -/
def readScale (s : List Char) : Except Fault (Option Exponent × List Char) :=
  match s with
  | c :: rest =>
    if c = 'e' ∨ c = 'E' then
      match rest with
      | '+' :: other => readPower false other
      | '-' :: other => readPower true other
      | _ => readPower false rest
    else .ok (none, s)
  | [] => .ok (none, [])

/-- Reads a number after its sign. -/
def readNumber (isNegative : Bool) (s : List Char) : Except Fault (Number × List Char) := do
  let (whole, s) ← readWhole s
  let (fraction, s) ← readFraction s
  let (exponent, s) ← readScale s
  let n ← Parts.value ⟨isNegative, whole, fraction, exponent⟩ s
  return (n, s)

end Lockstep.Json
