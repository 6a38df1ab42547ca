import Lockstep.Decimal.Shortest
import Lockstep.Shell.Number

/-!
# Real numbers in texts

A real number may be written with a point and an exponent, to the base ten or sixteen; it stands for
the binary floating point number that is nearest to it. The layouts round this number exactly: with
a fixed number of places, with an exponent, with whichever of the two is shorter, or to the base
sixteen.
-/

namespace Lockstep.Shell

/-- A floating point number. -/
structure Real where
  negative : Bool
  /-- Nothing if it is no number. -/
  magnitude : Option Binary64

/-- A real number at the front of a text. -/
structure LeadingReal where
  value : Real
  /-- What follows it; all of the text if there is none. -/
  rest : Text
  isThere : Bool
  /-- Whether the floating point numbers end before it. -/
  outOfRange : Bool

/-- The magnitude nearest to `n * base ^ exponent`, by which `size` digits are meant. -/
def nearest (base n size : Nat) (exponent : Int) : Binary64 × Bool :=
  let limit : Int := if base = 10 then 400 else 1200
  if n = 0 then (.finite 0 (-1074), false)
  else if exponent + size > limit then (.infinite, true)
  else if exponent + size < -limit then (.finite 0 (-1074), true)
  else
    let num := if exponent < 0 then n else n * Nat.pow base exponent.natAbs
    let den := if exponent < 0 then Nat.pow base exponent.natAbs else 1
    match Binary64.ofRatio num den with
    | .infinite => (.infinite, true)
    | .finite m e =>
      let (a, b) := Binary64.ratio m e
      (.finite m e, m < Nat.pow 2 52 && a * den != num * b)

/-- The exponent after a letter and what follows it; zero if there is none. -/
def leadingExponent (letter : Char) (t : Text) : Int × Text :=
  match t with
  | c :: rest =>
    if c.toLower == letter then
      let found := leadingInteger false rest
      if found.isThere && !(rest.head?.map isSpace).getD false then
        (max (-1000000) (min 1000000 found.value), found.rest)
      else (0, t)
    else (0, t)
  | [] => (0, t)

/-- The digits with a point at the front of a text, those after the point, and what follows. -/
def leadingPoint (isDigit : Char → Bool) (t : Text) : Text × Text × Text :=
  let whole := t.takeWhile isDigit
  match t.drop whole.length with
  | '.' :: rest =>
    let fraction := rest.takeWhile isDigit
    if whole.isEmpty && fraction.isEmpty then ([], [], t)
    else (whole, fraction, rest.drop fraction.length)
  | rest => (whole, [], rest)

/-- The real number that a text without a sign begins with. -/
def leadingMagnitude? (t : Text) : Option (Option Binary64 × Bool × Text) :=
  let lower := t.map Char.toLower
  if "infinity".toList.isPrefixOf lower then some (some .infinite, false, t.drop 8)
  else if "inf".toList.isPrefixOf lower then some (some .infinite, false, t.drop 3)
  else if "nan".toList.isPrefixOf lower then
    let rest := t.drop 3
    match rest with
    | '(' :: more =>
      match more.dropWhile isNameChar with
      | ')' :: after => some (none, false, after)
      | _ => some (none, false, rest)
    | _ => some (none, false, rest)
  else
    let (whole, fraction, rest) :=
      if "0x".toList.isPrefixOf lower then leadingPoint isHexadecimal (t.drop 2) else ([], [], t)
    if !(whole ++ fraction).isEmpty then
      let (exponent, rest) := leadingExponent 'p' rest
      let digits := whole ++ fraction
      let (value, out) := nearest 2 (digitsValue 16 digits) (4 * digits.length)
        (exponent - 4 * fraction.length)
      some (some value, out, rest)
    else
      let (whole, fraction, rest) := leadingPoint Char.isDigit t
      let digits := whole ++ fraction
      if digits.isEmpty then none
      else
        let (exponent, rest) := leadingExponent 'e' rest
        let (value, out) := nearest 10 (digitsValue 10 digits) digits.length
          (exponent - fraction.length)
        some (some value, out, rest)

/-- The real number that a text begins with. -/
def leadingReal (t : Text) : LeadingReal :=
  let body := t.dropWhile isSpace
  let (negative, body) :=
    match body with
    | '-' :: rest => (true, rest)
    | '+' :: rest => (false, rest)
    | _ => (false, body)
  match leadingMagnitude? body with
  | some (magnitude, out, rest) => ⟨⟨negative, magnitude⟩, rest, true, out⟩
  | none => ⟨⟨false, some (.finite 0 (-1074))⟩, t, false, false⟩

/-- Digits with a point before the last places; a point without places only if `points` says so. -/
def pointed (points : Bool) (places n : Nat) : Text :=
  let digits := (Nat.repr n).toList
  let digits := List.replicate (places + 1 - digits.length) '0' ++ digits
  let whole := digits.take (digits.length - places)
  if places = 0 && !points then whole else whole ++ '.' :: digits.drop (digits.length - places)

/-- A number with a fixed number of places. -/
def fixedText (points : Bool) (places num den : Nat) : Text :=
  pointed points places (Binary64.divideToEven (num * Nat.pow 10 places) den)

/-- The digits of a number, of which `places` stand after the first, and its exponent. -/
def scientific (places num den : Nat) : Nat × Int :=
  if num = 0 then (0, 0)
  else
    let exponent := Decimal.magnitudeFrom num den 680 (-345) - 1
    let shift := (places : Int) - exponent
    let n :=
      if shift < 0 then Binary64.divideToEven num (den * Nat.pow 10 shift.natAbs)
      else Binary64.divideToEven (num * Nat.pow 10 shift.natAbs) den
    if n = Nat.pow 10 (places + 1) then (Nat.pow 10 places, exponent + 1) else (n, exponent)

/-- An exponent with its sign and at least as many digits as given. -/
def exponentText (least : Nat) (exponent : Int) : Text :=
  let digits := (Nat.repr exponent.natAbs).toList
  (if exponent < 0 then '-' else '+') :: List.replicate (least - digits.length) '0' ++ digits

/-- A number with an exponent. -/
def scientificText (points : Bool) (places num den : Nat) : Text :=
  let (n, exponent) := scientific places num den
  pointed points places n ++ 'e' :: exponentText 2 exponent

/-- Digits without zeros at the end, and without a point there. -/
def dropZeros (t : Text) : Text :=
  if t.contains '.' then
    let t := (t.reverse.dropWhile (· == '0')).reverse
    if t.getLast? == some '.' then t.dropLast else t
  else t

/-- A number with as many digits as are significant, in the shorter form. -/
def generalText (points : Bool) (precision num den : Nat) : Text :=
  let digits := max 1 precision
  let (n, exponent) := scientific (digits - 1) num den
  let trim (t : Text) : Text := if points then t else dropZeros t
  if exponent < -4 || exponent ≥ digits then
    trim (pointed points (digits - 1) n) ++ 'e' :: exponentText 2 exponent
  else trim (fixedText points (digits - 1 - exponent).toNat num den)

/-- A number to the base sixteen, with all its places or as many as given. -/
def hexadecimalText (points : Bool) (precision : Option Nat) (significand : Nat) (exponent : Int) :
    Text :=
  let (lead, exponent) : Nat × Int :=
    if significand = 0 then (0, 0)
    else if significand.log2 = 52 then (significand, exponent + 52)
    else if exponent > -1074 then
      (significand * Nat.pow 2 (52 - significand.log2), exponent + significand.log2)
    else (significand, -1022)
  -- The first digit stands for the bits from number 52 on, each other one for four bits.
  let all := (List.range 13).map fun i => lead / Nat.pow 2 (48 - 4 * i) % 16
  let places :=
    match precision with
    | some n => n
    | none => 13 - (all.reverse.takeWhile (· == 0)).length
  let kept := min places 13
  let rounded := Binary64.divideToEven lead (Nat.pow 2 (52 - 4 * kept))
  let first := rounded / Nat.pow 16 kept
  let digits := (Nat.toDigits 16 (rounded % Nat.pow 16 kept))
  let fraction :=
    if kept = 0 then [] else List.replicate (kept - digits.length) '0' ++ digits
  let fraction := fraction ++ List.replicate (places - kept) '0'
  let point := if fraction.isEmpty && !points then [] else ['.']
  Nat.toDigits 16 first ++ point ++ fraction ++ 'p' :: exponentText 1 exponent

end Lockstep.Shell
