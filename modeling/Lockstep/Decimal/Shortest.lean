import Lockstep.Decimal.Numeral
import Lockstep.Decimal.Binary64

/-!
# The shortest decimal of a floating point number

Of the decimals that round to a given number, those with the fewest digits are considered, and
of these the one nearest to the number; a tie goes as the caller says. The reals that round to a
number form an interval between the midpoints to its neighbours, with its ends where the
significand is even. A grid of decimals has a point in the interval only if one of the two points
next to the number is in it, so two candidates per length are enough.
-/

namespace Lockstep.Decimal

/-- Which of two neighbours a number goes to that lies half-way between them. -/
inductive Tie where
  | toEven
  | upward
  deriving Repr, DecidableEq

/-- The quotient of two natural numbers, rounded to the nearest one. -/
def Tie.divide : Tie → Nat → Nat → Nat
  | .toEven, num, den => Binary64.divideToEven num den
  | .upward, num, den => (2 * num + den) / (2 * den)

/-- The number `digits * 10 ^ exponent`. -/
structure Scientific where
  digits : Nat
  exponent : Int
  deriving Repr, DecidableEq

/-- The interval of reals that round to a number, as numerators over one denominator. -/
structure Interval where
  /-- The number, over `scale`. -/
  middle : Nat
  /-- The lower end, over `scale`. -/
  low : Nat
  /-- The upper end, over `scale`. -/
  high : Nat
  scale : Nat
  /-- Whether the ends belong to the interval. -/
  closed : Bool

/-- The reals that round to `significand * 2 ^ exponent`. -/
def interval (significand : Nat) (exponent : Int) : Interval :=
  let down : Nat := if exponent < 0 then Nat.pow 2 exponent.natAbs else 1
  let up : Nat := if exponent < 0 then 1 else Nat.pow 2 exponent.natAbs
  -- Below a power of two the numbers lie twice as dense, the least exponent excepted.
  let narrow := significand = Nat.pow 2 52 ∧ exponent > -1074
  { middle := 4 * significand * up
    low := (4 * significand - if narrow then 1 else 2) * up
    high := (4 * significand + 2) * up
    scale := 4 * down
    closed := significand % 2 = 0 }

/-- Whether `n * 10 ^ exponent` lies in the interval. -/
def Interval.holds (i : Interval) (n : Nat) (exponent : Int) : Bool :=
  let value := if exponent < 0 then n * i.scale else n * Nat.pow 10 exponent.natAbs * i.scale
  let unit := if exponent < 0 then Nat.pow 10 exponent.natAbs else 1
  if i.closed then i.low * unit ≤ value && value ≤ i.high * unit
  else i.low * unit < value && value < i.high * unit

/-- The point of the grid of multiples of `10 ^ exponent` that lies nearest, if any point does. -/
def Interval.nearest? (tie : Tie) (i : Interval) (exponent : Int) : Option Nat :=
  let num := if exponent < 0 then i.middle * Nat.pow 10 exponent.natAbs else i.middle
  let den := if exponent < 0 then i.scale else i.scale * Nat.pow 10 exponent.natAbs
  let below := num / den
  let near := tie.divide num den
  let far := if near = below then below + 1 else below
  if i.holds near exponent then some near
  else if i.holds far exponent then some far
  else none

/-- The exponent `k` with `10 ^ (k - 1) ≤ num / den < 10 ^ k`, looked for upwards from `k`. -/
def magnitudeFrom (num den : Nat) : Nat → Int → Int
  | 0, k => k
  | fuel + 1, k =>
    let below :=
      if k < 0 then num * Nat.pow 10 k.natAbs < den else num < den * Nat.pow 10 k.natAbs
    if below then k else magnitudeFrom num den fuel (k + 1)

/-- Looks for a decimal of `count` digits, then of more. -/
def shortestFrom (tie : Tie) (i : Interval) (magnitude : Int) : Nat → Nat → Scientific
  | 0, _ => ⟨0, 0⟩
  | fuel + 1, count =>
    let exponent := magnitude - count
    match i.nearest? tie exponent with
    | some n => ⟨n, exponent⟩
    | none => shortestFrom tie i magnitude fuel (count + 1)

/-- Moves zeros at the end of the digits into the exponent. -/
def Scientific.trimFrom : Nat → Scientific → Scientific
  | 0, s => s
  | fuel + 1, s =>
    if s.digits ≠ 0 ∧ s.digits % 10 = 0 then trimFrom fuel ⟨s.digits / 10, s.exponent + 1⟩ else s

/-- The shortest decimal that rounds to `significand * 2 ^ exponent`. -/
def shortest (tie : Tie) (significand : Nat) (exponent : Int) : Scientific :=
  if significand = 0 then ⟨0, 0⟩
  else
    let i := interval significand exponent
    let magnitude := magnitudeFrom i.middle i.scale 640 (-325)
    Scientific.trimFrom 20 (shortestFrom tie i magnitude 18 1)

/-- How the digits of a decimal are laid out. -/
structure Layout where
  /-- The least place of the first digit, counted from the point, that is written positionally. -/
  least : Int
  /-- The greatest such place. -/
  greatest : Int

/-- A positional decimal, with `.0` where it is integral. -/
def Scientific.positional (s : Scientific) : List Char :=
  let ds := Decimal.digits s.digits
  if s.exponent ≥ 0 then ds ++ List.replicate s.exponent.natAbs '0' ++ ['.', '0']
  else
    let places := s.exponent.natAbs
    if places < ds.length then
      ds.take (ds.length - places) ++ ['.'] ++ ds.drop (ds.length - places)
    else ['0', '.'] ++ List.replicate (places - ds.length) '0' ++ ds

/-- One digit before the point, the others after it, and a signed exponent. -/
def Scientific.exponential (s : Scientific) : List Char :=
  let ds := Decimal.digits s.digits
  let place : Int := s.exponent + ds.length - 1
  let mantissa :=
    match ds with
    | d :: e :: rest => d :: '.' :: e :: rest
    | _ => ds
  let sign := if place < 0 then '-' else '+'
  mantissa ++ 'e' :: sign :: Decimal.digits place.natAbs

/-- The decimal in the given layout. -/
def Scientific.render (layout : Layout) (s : Scientific) : List Char :=
  let place : Int := s.exponent + (Decimal.digits s.digits).length - 1
  if layout.least ≤ place ∧ place ≤ layout.greatest then s.positional else s.exponential

end Lockstep.Decimal
