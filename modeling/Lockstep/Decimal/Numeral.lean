/-!
# Decimal numerals

A numeral is written without leading zeros. Reading is more generous, leading zeros and one plus
sign are accepted, but it never leaves the range it was given: a numeral that is too large is a
fault of its own, found at the digit where it shows.
-/

namespace Lockstep.Decimal

/-- The digit that stands for a number below ten. -/
def digit (n : Nat) : Char := Char.ofNat (48 + n)

/-- One of the ten ASCII digits. -/
def isDigit (c : Char) : Bool := 48 ≤ c.toNat && c.toNat ≤ 57

/-- What a digit stands for. -/
def valueOf (c : Char) : Nat := c.toNat - 48

/-- The numeral of a number. -/
def digits (n : Nat) : List Char :=
  if n < 10 then [digit n] else digits (n / 10) ++ [digit (n % 10)]
termination_by n

/-- Why a text is no numeral of the range. -/
inductive Fault where
  | empty
  | badDigit
  | tooLarge
  | tooSmall
  deriving Repr, DecidableEq

/-- The fault in words. -/
def Fault.message : Fault → String
  | .empty => "cannot parse integer from empty string"
  | .badDigit => "invalid digit found in string"
  | .tooLarge => "number too large to fit in target type"
  | .tooSmall => "number too small to fit in target type"

/-- Reads digits after others that gave `value`; more than `limit` is refused as `excess`. -/
def readDigits (limit : Nat) (excess : Fault) (value : Nat) : List Char → Except Fault Nat
  | [] => .ok value
  | c :: rest =>
    if isDigit c then
      let next := value * 10 + valueOf c
      if next ≤ limit then readDigits limit excess next rest else .error excess
    else .error .badDigit

/-- Reads at least one digit. -/
def readSome (limit : Nat) (excess : Fault) : List Char → Except Fault Nat
  | [] => .error .badDigit
  | s => readDigits limit excess 0 s

/-- Reads a number up to `limit`, with or without a plus sign. -/
def readNatural (limit : Nat) : List Char → Except Fault Nat
  | [] => .error .empty
  | '+' :: rest => readSome limit .tooLarge rest
  | s => readSome limit .tooLarge s

/-- Reads an integer from `-(limit + 1)` up to `limit`, with or without a sign. -/
def readInteger (limit : Nat) : List Char → Except Fault Int
  | [] => .error .empty
  | '+' :: rest => Int.ofNat <$> readSome limit .tooLarge rest
  | '-' :: rest => (fun n => -Int.ofNat n) <$> readSome (limit + 1) .tooSmall rest
  | s => Int.ofNat <$> readSome limit .tooLarge s

/-- The greatest number of 16 bits. -/
def max16 : Nat := 65535

/-- The greatest number of 32 bits. -/
def max32 : Nat := 4294967295

/-- The greatest number of 64 bits. -/
def max64 : Nat := 18446744073709551615

/-- The greatest signed number of 64 bits. -/
def maxSigned64 : Nat := 9223372036854775807

end Lockstep.Decimal
