import Lockstep.Shell.Real
import Lockstep.Shell.State

/-!
# Printing commands

`echo` puts its arguments on a line, `printf` puts them where a format says. In both a backslash
introduces characters that are hard to write; a format is used again until no argument is left.
-/

namespace Lockstep.Shell

/-- The character of a letter after a backslash. -/
def controlOf? (c : Char) : Option Char :=
  match c with
  | 'a' => some '\x07'
  | 'b' => some '\x08'
  | 'e' => some '\x1b'
  | 'f' => some '\x0c'
  | 'n' => some '\n'
  | 'r' => some '\r'
  | 't' => some '\t'
  | 'v' => some '\x0b'
  | '\\' => some '\\'
  | _ => none

/-- Reads at most `count` octal digits into a byte. -/
def readOctal (count value : Nat) (s : Text) : Char × Text :=
  match count, s with
  | count + 1, c :: rest =>
    if isOctal c then readOctal count (value * 8 + (c.toNat - 48)) rest
    else (Char.ofNat (value % 256), c :: rest)
  | _, s => (Char.ofNat (value % 256), s)

/-- The character that a text after a backslash stands for, and the rest of the text. -/
def readEscape (s : Text) : Char × Text :=
  match s with
  | [] => ('\\', [])
  | c :: rest =>
    match controlOf? c with
    | some d => (d, rest)
    | none => if isOctal c then readOctal 3 0 s else ('\\', s)

/-- The text with its escapes put in, and whether `\c` cut it off. -/
def unescape (fuel : Nat) (s : Text) : Text × Bool :=
  match fuel, s with
  | 0, _ | _, [] => ([], false)
  | fuel + 1, '\\' :: rest =>
    match rest with
    | 'c' :: _ => ([], true)
    | _ =>
      let rest :=
        match rest with
        | '0' :: d :: more => if isOctal d then d :: more else rest
        | _ => rest
      let (c, rest) := readEscape rest
      let r := unescape fuel rest
      (c :: r.1, r.2)
  | fuel + 1, c :: rest =>
    let r := unescape fuel rest
    (c :: r.1, r.2)

/-- The texts with blanks between them. -/
def spaced (texts : List Text) : Text := [' '].intercalate texts

/-- The arguments of `echo` with blanks between them, up to the one that is cut off. -/
def echoText (newline : Bool) : List Text → Text
  | [] => if newline then ['\n'] else []
  | arg :: rest =>
    let (text, cut) := unescape (arg.length + 1) arg
    if cut then text
    else text ++ (if rest.isEmpty then [] else [' ']) ++ echoText newline rest

/-- Puts the arguments on a line; without its end after `-n`. -/
def echo (args : List Text) : Run Nat := do
  match args with
  | ['-', 'n'] :: rest => put (echoText false rest)
  | _ => put (echoText true args)
  return 0

/-- What a directive of a format asks for. -/
structure Directive where
  flags : Text
  width : Nat
  precision : Option Nat
  conversion : Char

namespace Directive

/-- Whether a flag is given. -/
def has (d : Directive) (flag : Char) : Bool := d.flags.contains flag

/-- Fills a text up to the width. -/
def pad (d : Directive) (zero : Bool) (sign body : Text) : Text :=
  let missing := d.width - (sign.length + body.length)
  if d.has '-' then sign ++ body ++ List.replicate missing ' '
  else if zero && d.has '0' then sign ++ List.replicate missing '0' ++ body
  else List.replicate missing ' ' ++ sign ++ body

/-- The sign in front of a number. -/
def sign (d : Directive) (negative : Bool) : Text :=
  if negative then ['-'] else if d.has '+' then ['+'] else if d.has ' ' then [' '] else []

/-- The digits of a number, as many as the precision asks for. -/
def digits (d : Directive) (base n : Nat) : Text :=
  let all := if n = 0 && d.precision == some 0 then [] else Nat.toDigits base n
  List.replicate (d.precision.getD 0 - all.length) '0' ++ all

/-- An integer with a sign. -/
def signed (d : Directive) (n : Int) : Text :=
  d.pad d.precision.isNone (d.sign (n < 0)) (d.digits 10 n.natAbs)

/-- An integer without a sign. -/
def unsigned (d : Directive) (n : Nat) : Text :=
  match d.conversion with
  | 'o' =>
    let body := d.digits 8 n
    let body := if d.has '#' && body.head? ≠ some '0' then '0' :: body else body
    d.pad d.precision.isNone [] body
  | 'x' =>
    d.pad d.precision.isNone (if d.has '#' && n ≠ 0 then ['0', 'x'] else []) (d.digits 16 n)
  | 'X' =>
    let body := (d.digits 16 n).map Char.toUpper
    d.pad d.precision.isNone (if d.has '#' && n ≠ 0 then ['0', 'X'] else []) body
  | _ => d.pad d.precision.isNone [] (d.digits 10 n)

/-- A real number. -/
def real (d : Directive) (r : Real) : Text :=
  let sign := d.sign r.negative
  let points := d.has '#'
  let places := d.precision.getD 6
  let (finite, start, body) : Bool × Text × Text :=
    match r.magnitude with
    | none => (false, [], "nan".toList)
    | some .infinite => (false, [], "inf".toList)
    | some (.finite m e) =>
      let (num, den) := Binary64.ratio m e
      match d.conversion.toLower with
      | 'f' => (true, [], fixedText points places num den)
      | 'e' => (true, [], scientificText points places num den)
      | 'g' => (true, [], generalText points places num den)
      | _ => (true, ['0', 'x'], hexadecimalText points d.precision m e)
  let upper (t : Text) : Text := if d.conversion.isUpper then t.map Char.toUpper else t
  d.pad finite (sign ++ upper start) (upper body)

end Directive

/-- What an argument of `printf` was read as. -/
structure Converted (α : Type) where
  value : α
  rest : Text
  isThere : Bool
  outOfRange : Bool

/-- Complains of an argument of `printf` that is no number; whether it is one. -/
def complainOfNumber {α : Type} (arg : Text) (c : Converted α) : Run Bool := do
  if !c.rest.isEmpty then
    if c.isThere then complain s!"{asString arg}: not completely converted"
    else complain s!"{asString arg}: expected numeric value"
    return false
  if c.outOfRange then
    complain s!"{asString arg}: Numerical result out of range"
    return false
  return true

/-- The character that an argument quotes, as a number. -/
def quotedCharacter? (arg : Text) : Option Nat :=
  match arg with
  | '\'' :: rest | '"' :: rest => some (rest.headD '\x00').toNat
  | _ => none

/-- The integer of an argument. -/
def integerArgument (signed : Bool) (arg : Text) : Run (Int × Bool) := do
  match quotedCharacter? arg with
  | some n => return ((n : Int), true)
  | none =>
    let found := leadingInteger true arg
    let (low, high) : Int × Int :=
      if signed then (smallest, largest) else (1 - wordCount, wordCount - 1)
    let isIn := low ≤ found.value && found.value ≤ high
    let beyond := if !signed || found.value > 0 then high else low
    let value := if isIn then found.value else beyond
    let good ← complainOfNumber arg ⟨value, found.rest, found.isThere, !isIn⟩
    return (value, good)

/-- The real number of an argument. -/
def realArgument (arg : Text) : Run (Real × Bool) := do
  match quotedCharacter? arg with
  | some n => return (⟨false, some (Binary64.ofNat n)⟩, true)
  | none =>
    let found := leadingReal arg
    let good ← complainOfNumber arg ⟨found.value, found.rest, found.isThere, found.outOfRange⟩
    return (found.value, good)

/-- What a conversion puts, whether it went well, and whether the output ends with it. -/
def convert (d : Directive) (arg : Option Text) : Run (Text × Bool × Bool) := do
  let text := arg.getD []
  match d.conversion with
  | 's' => return (d.pad false [] (text.take (d.precision.getD text.length)), true, false)
  | 'c' => return (d.pad false [] [text.headD '\x00'], true, false)
  | 'b' =>
    let (t, cut) := unescape (text.length + 1) text
    return (d.pad false [] (t.take (d.precision.getD t.length)), true, cut)
  | 'd' | 'i' =>
    let (n, good) ← integerArgument true text
    return (d.signed n, good, false)
  | 'o' | 'u' | 'x' | 'X' =>
    let (n, good) ← integerArgument false text
    return (d.unsigned (word n), good, false)
  | _ =>
    let (r, good) ← realArgument text
    return (d.real r, good, false)

/-- The state of a format that is being used. -/
structure Printed where
  arguments : List Text
  good : Bool
  ended : Bool

/-- A width or precision: digits, or an asterisk that takes an argument. -/
def takeMeasure (p : Printed) (format : Text) : Run (Option Int × Printed × Text) := do
  match format with
  | '*' :: rest =>
    let (n, good) ← integerArgument true (p.arguments.headD [])
    return (some n, { p with arguments := p.arguments.tail, good := p.good && good }, rest)
  | _ =>
    let ds := format.takeWhile Char.isDigit
    let n := if ds.isEmpty then none else some ((digitsValue 10 ds : Nat) : Int)
    return (n, p, format.drop ds.length)

/-- Goes through a format once. -/
def runFormat (fuel : Nat) (p : Printed) (format : Text) : Run Printed := do
  match fuel, format with
  | 0, _ | _, [] => return p
  | fuel + 1, '%' :: '%' :: rest =>
    put ['%']
    runFormat fuel p rest
  | fuel + 1, '%' :: start =>
    let flags := start.takeWhile fun c => "#-+ 0".toList.contains c
    let (width, p, rest) ← takeMeasure p (start.drop flags.length)
    let (precision, p, rest) ←
      match rest with
      | '.' :: rest => do
        let (n, p, rest) ← takeMeasure p rest
        pure (some (n.getD 0), p, rest)
      | _ => pure (none, p, rest)
    match rest with
    | [] => fail "missing format character"
    | c :: rest =>
      if !"scbdiouxXaAeEfFgG".toList.contains c then
        let directive := start.take (start.length - rest.length)
        fail s!"%{asString directive}: invalid directive"
      let flags := if width.getD 0 < 0 then '-' :: flags else flags
      let precision := precision.bind fun n => if n < 0 then none else some n.toNat
      let d : Directive := ⟨flags, (width.getD 0).natAbs, precision, c⟩
      let (text, good, cut) ← convert d p.arguments.head?
      put text
      let p : Printed := ⟨p.arguments.tail, p.good && good, cut⟩
      if cut then return p
      runFormat fuel p rest
  | fuel + 1, '\\' :: rest =>
    let (c, rest) := readEscape rest
    put [c]
    runFormat fuel p rest
  | fuel + 1, c :: rest =>
    put [c]
    runFormat fuel p rest

/-- Goes through a format until no argument is left. -/
def repeatFormat (fuel : Nat) (format : Text) (p : Printed) : Run Nat := do
  match fuel with
  | 0 => return 0
  | fuel + 1 =>
    let after ← runFormat (format.length + 1) p format
    let isUsed := after.arguments.length < p.arguments.length
    if !after.ended && isUsed && !after.arguments.isEmpty then repeatFormat fuel format after
    else return if after.good then 0 else 1

/-- Puts the arguments where a format says. -/
def printf (args : List Text) : Run Nat := do
  match args with
  | [] => fail "usage: printf format [arg ...]"
  | format :: args => repeatFormat (args.length + 1) format ⟨args, true, false⟩

end Lockstep.Shell
