/-!
# Binary floating point numbers of 64 bits

A magnitude is a significand below 2^53 times a power of two not below 2^-1074, or it is beyond
every such number. `ofRatio` gives the magnitude nearest to a quotient of natural numbers; of two
that are equally near it takes the one with the even significand. The other operations compute
exactly and round once.
-/

namespace Lockstep

/-- The magnitude of a binary floating point number. -/
inductive Binary64 where
  /-- The number `significand * 2 ^ exponent`. -/
  | finite (significand : Nat) (exponent : Int)
  | infinite
  deriving Repr, DecidableEq

namespace Binary64

/-- The quotient of two natural numbers, rounded to the nearest one, a half to the even one. -/
def divideToEven (num den : Nat) : Nat :=
  let q := num / den
  let r := num % den
  if 2 * r < den then q
  else if 2 * r > den then q + 1
  else if q % 2 = 0 then q else q + 1

/-- The quotient `num / den / 2 ^ exponent` rounded to a natural number. -/
def scaled (num den : Nat) (exponent : Int) : Nat :=
  if exponent < 0 then divideToEven (num * Nat.pow 2 exponent.natAbs) den
  else divideToEven num (den * Nat.pow 2 exponent.natAbs)

/-- The magnitude nearest to `num / den`; `den` is not zero. -/
def ofRatio (num den : Nat) : Binary64 :=
  if num = 0 then .finite 0 (-1074)
  else
    -- The quotient lies between 2 ^ (guess + 52) and 2 ^ (guess + 54).
    let guess : Int := (num.log2 : Int) - (den.log2 : Int) - 53
    let tight : Int := if scaled num den guess < Nat.pow 2 53 then guess else guess + 1
    let exponent : Int := max tight (-1074)
    let significand := scaled num den exponent
    let (significand, exponent) :=
      if significand = Nat.pow 2 53 then (Nat.pow 2 52, exponent + 1) else (significand, exponent)
    if exponent > 971 then .infinite else .finite significand exponent

/-- The nearest magnitude to a natural number. -/
def ofNat (n : Nat) : Binary64 := ofRatio n 1

/-- The quotient of natural numbers that a finite magnitude is. -/
def ratio (significand : Nat) (exponent : Int) : Nat × Nat :=
  if exponent < 0 then (significand, Nat.pow 2 exponent.natAbs)
  else (significand * Nat.pow 2 exponent.natAbs, 1)

/-- The rounded product. -/
def mul (x y : Binary64) : Binary64 :=
  match x, y with
  | .finite m e, .finite n f =>
    let (a, b) := ratio m e
    let (c, d) := ratio n f
    ofRatio (a * c) (b * d)
  | _, _ => .infinite

/-- The rounded quotient by a finite magnitude that is not zero. -/
def div (x y : Binary64) : Binary64 :=
  match x, y with
  | .finite m e, .finite n f =>
    let (a, b) := ratio m e
    let (c, d) := ratio n f
    ofRatio (a * d) (b * c)
  | _, _ => .infinite

/-- Whether the magnitude is zero. -/
def isZero : Binary64 → Bool
  | .finite 0 _ => true
  | _ => false

/-- The magnitude nearest to a power of ten. -/
def powerOfTen (n : Nat) : Binary64 := ofNat (Nat.pow 10 n)

/-- The magnitude nearest to `n * 10 ^ exponent`. -/
def ofDecimal (n : Nat) (exponent : Int) : Binary64 :=
  if exponent < 0 then ofRatio n (Nat.pow 10 exponent.natAbs)
  else ofNat (n * Nat.pow 10 exponent.natAbs)

end Binary64

end Lockstep
