import Lockstep.Json.Parser
import Lockstep.Message.Basic
import Lockstep.SessionError

/-!
# Reading messages

A line is a message if it is a JSON object whose `type` names a kind and whose fields suit that
kind. Keys that the kind does not know are ignored, and an address that is null is absent. Every
line that is no message fails in the same way, with its text and the first reason.
-/

namespace Lockstep.Message

/-- What a field has to hold. -/
inductive Expected where
  | text
  /-- A natural number of sixteen bits. -/
  | short
  /-- A natural number of 32 bits. -/
  | long
  deriving Repr, DecidableEq

/-- What is expected, as a message names it. -/
def Expected.name : Expected → String
  | .text => "a string"
  | .short => "u16"
  | .long => "u32"

/-- Why a line is no message. -/
inductive Flaw where
  | json (fault : Json.Fault)
  | notObject
  | typeNotText
  | noType
  | unknownType (name : String)
  | noLine
  | mismatch (expected : Expected) (found : Json.Value)

/-- A value as the message of a mismatch names it. -/
def describe : Json.Value → String
  | .null => "null"
  | .bool true => "boolean `true`"
  | .bool false => "boolean `false`"
  | .number (.real isNegative magnitude) =>
    let text := String.ofList (Json.Number.render (.real isNegative magnitude))
    s!"floating point `{text}`"
  | .number n => s!"integer `{String.ofList n.render}`"
  | .string s => s!"string {Quoted.quote s}"
  | .array _ => "sequence"
  | .object _ => "map"

/-- Whether a mismatch lies in the range of a number and not in its type. -/
def outOfRange : Expected → Json.Value → Bool
  | .short, .number (.natural _) | .short, .number (.negative _) => true
  | .long, .number (.natural _) | .long, .number (.negative _) => true
  | _, _ => false

/-- The flaw of the given text in words. -/
def Flaw.message (text : List Char) : Flaw → String
  | .json fault => fault.message text
  | .notObject => "not a JSON object"
  | .typeNotText => "'type' is not a string"
  | .noType => "missing 'type' field"
  | .unknownType name =>
    s!"unknown variant `{name}`, expected one of `serverinit`, `clientinit`, `break`, " ++
      "`continue`, `finish`"
  | .noLine => "missing field `linenumber`"
  | .mismatch expected found =>
    let kind := if outOfRange expected found then "value" else "type"
    s!"invalid {kind}: {describe found}, expected {expected.name}"

/-- The host of an opening message; absent or null is none. -/
def hostOf : Option Json.Value → Except Flaw (Option String)
  | none | some .null => .ok none
  | some (.string s) => .ok (some s)
  | some other => .error (.mismatch .text other)

/-- The port of an opening message; absent or null is none. -/
def portOf : Option Json.Value → Except Flaw (Option UInt16)
  | none | some .null => .ok none
  | some (.number (.natural n)) =>
    if n ≤ Decimal.max16 then .ok (some (UInt16.ofNat n))
    else .error (.mismatch .short (.number (.natural n)))
  | some other => .error (.mismatch .short other)

/-- The line of a break. -/
def lineOf : Option Json.Value → Except Flaw UInt32
  | none => .error .noLine
  | some (.number (.natural n)) =>
    if n ≤ Decimal.max32 then .ok (UInt32.ofNat n)
    else .error (.mismatch .long (.number (.natural n)))
  | some other => .error (.mismatch .long other)

/-- The message of an object; where two fields are wrong, the host is named before the port. -/
def ofMembers (members : List (String × Json.Value)) : Except Flaw Message :=
  match Json.member? members "type" with
  | none => .error .noType
  | some (.string name) =>
    match Kind.ofName? name with
    | none => .error (.unknownType name)
    | some .clientInit => .ok .clientInit
    | some .resume => .ok .resume
    | some .finish => .ok .finish
    | some .serverInit => do
      let host ← hostOf (Json.member? members "host")
      let port ← portOf (Json.member? members "port")
      return .serverInit host port
    | some .breakAt => return .breakAt (← lineOf (Json.member? members "linenumber"))
  | some _ => .error .typeNotText

/-- The message of a JSON value. -/
def ofJson : Json.Value → Except Flaw Message
  | .object members => ofMembers members
  | _ => .error .notObject

/-- The message that a text spells. -/
def ofText (text : List Char) : Except Flaw Message :=
  match Json.parse text with
  | .error fault => .error (.json fault)
  | .ok value => ofJson value

/-- Whether a character belongs to the end of a line. -/
def isLineEnd (c : Char) : Bool := c == '\r' || c == '\n'

/-- The message of a line, whose line feeds and carriage returns at the end are left out. -/
def decode (line : List Char) : Except SessionError Message :=
  let text := Text.dropTrailing isLineEnd line
  match ofText text with
  | .ok m => .ok m
  | .error flaw => .error (.malformedLine text (flaw.message text))

end Lockstep.Message
