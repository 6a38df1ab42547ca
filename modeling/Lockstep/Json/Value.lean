import Lockstep.Decimal.Shortest

/-!
# JSON values

An object keeps its members as they were written; where a key was written twice, its last member
counts. Numbers keep apart what programs keep apart: natural numbers and negative integers that
fit in 64 bits, and everything else as binary floating point.
-/

namespace Lockstep.Json

/-- A number of a JSON text. -/
inductive Number where
  /-- A number up to 2^64 - 1 that was written as an integer. -/
  | natural (n : Nat)
  /-- The integer `-n`, where `n` is from 1 up to 2^63. -/
  | negative (n : Nat)
  | real (isNegative : Bool) (magnitude : Binary64)
  deriving Repr, DecidableEq

/-- A JSON value; an object keeps its members in the order in which they were written. -/
inductive Value where
  | null
  | bool (b : Bool)
  | number (n : Number)
  | string (s : String)
  | array (items : List Value)
  | object (members : List (String × Value))
  deriving Repr

/-- The value of a key: its last member. -/
def member? (members : List (String × Value)) (key : String) : Option Value :=
  (members.findRev? fun m => m.1 == key).map (·.2)

/-- Numbers are positional from 0.00001 up to below 10^16. -/
def realLayout : Decimal.Layout := ⟨-5, 15⟩

/-- The text of a number. -/
def Number.render : Number → List Char
  | .natural n => Decimal.digits n
  | .negative n => '-' :: Decimal.digits n
  | .real isNegative magnitude =>
    let text :=
      match magnitude with
      | .finite m e => (Decimal.shortest .toEven m e).render realLayout
      | .infinite => "inf".toList
    if isNegative then '-' :: text else text

end Lockstep.Json
