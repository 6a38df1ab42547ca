import Lockstep.Decimal.Shortest

/-!
# TOML values

A document is a table. Every value that is written somewhere has a place in the text, so that
whoever does not like it can point at it; a table that exists only because a key goes through it
has none. Arrays of tables, which headers in double brackets fill, are kept apart from arrays.
-/

namespace Lockstep.Toml

/-- A stretch of a text, by how many characters are left at its beginning and at its end. -/
structure Span where
  start : Nat
  stop : Nat
  deriving Repr, DecidableEq

/-- A name that a value is found under. -/
structure Key where
  name : String
  span : Span
  deriving Repr, DecidableEq

/-- A floating point number. -/
inductive Real where
  | notNumber
  | number (isNegative : Bool) (magnitude : Binary64)
  deriving Repr, DecidableEq

/-- How a table came about, which decides what may be added to it. -/
inductive Origin where
  /-- Written between braces: complete. -/
  | braces
  /-- Named on the way to another one by a header: may still get a header of its own. -/
  | passed
  /-- Named on the way to a value by a key with dots. -/
  | dotted
  /-- The document, or named by a header of its own. -/
  | header
  deriving Repr, DecidableEq

/-- A value, with its place. -/
inductive Value where
  | string (span : Span) (s : String)
  | integer (span : Span) (i : Int)
  | real (span : Span) (r : Real)
  | boolean (span : Span) (b : Bool)
  /-- A date, a time, or both. -/
  | moment (span : Span)
  | array (span : Span) (items : List Value)
  /-- The tables that headers in double brackets made, in order. -/
  | tables (items : List Value)
  | table (span : Option Span) (origin : Origin) (entries : List (Key × Value))
  deriving Repr

namespace Value

/-- An entry of a table. -/
abbrev Entry := Key × Value

/-- Where a value stands, if it is written in one piece. -/
def span? : Value → Option Span
  | .string span _ | .integer span _ | .real span _ | .boolean span _ | .moment span
  | .array span _ => some span
  | .tables items =>
    match items.head?, items.getLast? with
    | some (.table (some first) _ _), some (.table (some last) _ _) =>
      some ⟨first.start, last.stop⟩
    | _, _ => none
  | .table span _ _ => span

/-- The entries of a table. -/
def entries : Value → List Entry
  | .table _ _ entries => entries
  | _ => []

/-- The value of a name among entries. -/
def find? (name : String) (entries : List Entry) : Option Value :=
  (entries.find? fun e => e.1.name == name).map (·.2)

/-- What kind of value it is. -/
def kindName : Value → String
  | .string _ _ => "string"
  | .integer _ _ => "integer"
  | .real _ _ => "float"
  | .boolean _ _ => "boolean"
  | .moment _ => "datetime"
  | .array _ _ => "array"
  | .tables _ => "array of tables"
  | .table _ .braces _ => "inline table"
  | .table _ _ _ => "table"

end Value

/--
A floating point number in the fewest digits, a tie going upward, positional at any size and with a
point in it.
-/
def Real.render : Real → String
  | .notNumber => "NaN"
  | .number isNegative magnitude =>
    let text :=
      match magnitude with
      | .finite m e => String.ofList (Decimal.shortest .upward m e).positional
      | .infinite => "inf"
    if isNegative then s!"-{text}" else text

end Lockstep.Toml
