import Lockstep.Decimal.Numeral
import Lockstep.Journal.Record
import Lockstep.Text.Alphanumeric
import Lockstep.Text.Blank
import Lockstep.Text.Utf8

/-!
# Directives about the journal

A directive sets how much the parts of the program tell: `level`, `part`, `part=level`, or
`part[span{value}]=level`, where each of the pieces before the level may be missing. A part is named
by the beginning of its name. A span is a stretch of the program's work; this program has none, so
that a directive with the name of a span, or with what a value has to be, is about no record.
-/

namespace Lockstep.Journal

/-- A value that a record must have, and whether it is to be a certain one. -/
structure Condition where
  name : String
  isExact : Bool
  deriving Repr, DecidableEq

/-- How much is told by the parts whose names begin with a text; of some parts nothing. -/
structure Directive where
  target : String
  span : Option String
  condition : Option Condition
  level : Option Level
  deriving Repr, DecidableEq

namespace Directive

/-- Why a text is no directive. -/
inductive Misreading where
  | malformed
  | badLevel
  deriving Repr, DecidableEq

/-- The reason in words. -/
def Misreading.message : Misreading → String
  | .malformed => "invalid filter directive"
  | .badLevel => "error parsing level filter: expected one of \"off\", \"error\", \"warn\", " ++
      "\"info\", \"debug\", \"trace\", or a number 0-5"

/-- Whether it can be about records, which are in no span. -/
def isAboutRecords (d : Directive) : Bool :=
  d.span.isNone && d.condition.all fun c => !c.isExact

/-- The level of a number or of a name in any case; `off` and zero stand for nothing. -/
def levelOf? (s : String) : Option (Option Level) :=
  match Decimal.readNatural Decimal.max64 s.toList with
  | .ok 0 => some none
  | .ok (n + 1) => Level.all[n]?.map some
  | .error _ =>
    let name := s.toLower
    if name = "off" then some none else (Level.ofName? name).map some

/-- The condition of a text: a name, with an equals sign where the value is to be a certain one. -/
def conditionOf (s : String) : Condition :=
  ⟨String.ofList (s.toList.takeWhile (· ≠ '=')), s.toList.contains '='⟩

/-- How far the reader of a directive has come; a piece begins at the place that is kept. -/
inductive Progress where
  | beginning
  /-- In a level, or in the name of a part. -/
  | word
  | span (start : Nat)
  | condition (start : Nat)
  /-- After the braces around a condition. -/
  | braces
  /-- After the brackets around a span. -/
  | brackets
  | level (start : Nat)
  deriving Repr, DecidableEq

/-- A character that a directive may begin with, brackets aside. -/
def isInitial (c : Char) : Bool := c = '-' || c = ':' || c = '_' || Text.isAlphanumeric c

/-- The piece of a text between two places, which are counted in bytes. -/
def piece (whole : Bytes) (start stop : Nat) : String :=
  String.ofList (Utf8.decodeLossy ((whole.drop start).take (stop - start)))

/-- What the character at a place does to the reader. -/
def step (whole : Bytes) (d : Directive) (p : Progress) (here : Nat) (c : Char) :
    Except Misreading (Directive × Progress) :=
  match p with
  | .beginning =>
    if c = '[' then .ok (d, .span (here + 1))
    else if isInitial c then .ok (d, .word)
    else .error .malformed
  | .word =>
    if c = '=' then .ok ({ d with target := piece whole 0 here }, .level (here + 1))
    else if c = '[' then .ok ({ d with target := piece whole 0 here }, .span (here + 1))
    else .ok (d, .word)
  | .span start =>
    if c = ']' then .ok ({ d with span := some (piece whole start here) }, .brackets)
    else if c = '\x7b' then
      let span := if start = here then none else some (piece whole start here)
      .ok ({ d with span := span }, .condition (here + 1))
    else .ok (d, .span start)
  | .condition start =>
    if c = '\x7d' then
      if start = here then .error .malformed
      else
        .ok ({ d with condition := some (conditionOf (piece whole start here)) }, .braces)
    else .ok (d, .condition start)
  | .braces => if c = ']' then .ok (d, .brackets) else .error .malformed
  | .brackets => if c = '=' then .ok (d, .level (here + 1)) else .error .malformed
  | .level start => .ok (d, .level start)

/-- What the end of the text makes of the directive. -/
def finish (whole : Bytes) (d : Directive) : Progress → Except Misreading Directive
  | .word =>
    let word := piece whole 0 whole.length
    match levelOf? word with
    | some level => .ok { d with level := level }
    | none => .ok { d with target := word }
  | .level start =>
    let word := piece whole start whole.length
    if word.isEmpty then .ok d
    else
      match levelOf? word with
      | some level => .ok { d with level := level }
      | none => .error .badLevel
  | .brackets => .ok d
  | _ => .error .malformed

/-- Reads on in a directive, character by character. -/
def readOn (whole : Bytes) (d : Directive) (p : Progress) (here : Nat) :
    List Char → Except Misreading Directive
  | [] => finish whole d p
  | c :: rest =>
    match step whole d p here c with
    | .error e => .error e
    | .ok (d, p) => readOn whole d p (here + (Utf8.encodeChar c).length) rest

/--
Reads a directive; without a level everything is told. The reader goes through the text without
the blanks around it, while the pieces are cut from the whole text at the places it finds.
-/
def read (s : String) : Except Misreading Directive :=
  readOn (utf8 s) ⟨"", none, none, some .trace⟩ .beginning 0 (Text.trim s.toList)

/-- Whether it is about a record. -/
def covers (d : Directive) (r : Record) : Bool :=
  r.origin.name.startsWith d.target &&
    d.condition.all fun c => c.name == "message" || r.fields.any fun f => f.1 == c.name

/-- Whether two directives are about the same records. -/
def isLike (d e : Directive) : Bool := d.target == e.target && d.condition == e.condition

/--
Whether a directive decides rather than another one about the same record: the longer name of a
part does, then the one with a condition, then the later name in it.
-/
def precedes (d e : Directive) : Bool :=
  let (m, n) := ((utf8 d.target).length, (utf8 e.target).length)
  if m ≠ n then n < m
  else
    match d.condition, e.condition with
    | some c, some b => decide (b.name < c.name)
    | some _, none => true
    | none, _ => false

end Directive

end Lockstep.Journal
