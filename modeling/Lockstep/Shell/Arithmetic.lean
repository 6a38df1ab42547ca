import Lockstep.Shell.State

/-!
# Arithmetic of the shell

Expressions over integers of 64 bits, which wrap around. An operator binds its operands as in
everyday arithmetic, conditions and assignments last. What a condition does not need is read but not
evaluated, so that a division by zero there does no harm.
-/

namespace Lockstep.Shell.Arithmetic

/-- What is wrong with an expression. -/
inductive Flaw where
  | expectingPrimary
  | expectingEnd
  | expectingParenthesis
  | expectingColon
  | divisionByZero
  /-- A quotient does not fit into a word, which ends the shell. -/
  | overflow
  /-- A variable is no number, or cannot have the value. -/
  | variable (fault : VariableFault)

/-- The flaw of an expression in words. -/
def Flaw.message (source : Text) : Flaw → String
  | .variable fault => fault.message
  | .expectingPrimary => s!"arithmetic expression: expecting primary: \"{asString source}\""
  | .expectingEnd => s!"arithmetic expression: expecting EOF: \"{asString source}\""
  | .expectingParenthesis => s!"arithmetic expression: expecting ')': \"{asString source}\""
  | .expectingColon => s!"arithmetic expression: expecting ':': \"{asString source}\""
  | .divisionByZero => s!"arithmetic expression: division by zero: \"{asString source}\""
  | .overflow => ""

/-- A piece of an expression. -/
inductive Lexeme where
  | finish
  | bad
  | number (n : Int)
  | variable (name : Text)
  | sign (text : String)
  deriving Repr, DecidableEq

/-- The signs, of which a longer one comes before those that it begins with. -/
def signs : List String :=
  ["<<=", ">>=", "<<", ">>", "<=", ">=", "==", "!=", "||", "&&", "+=", "-=", "*=", "/=", "%=",
    "&=", "|=", "^=", "=", "<", ">", "!", "~", "(", ")", "?", ":", "+", "-", "*", "/", "%", "&",
    "|", "^"]

/-- The operators that join two operands, loosest first. -/
def levels : List (List String) :=
  [["|"], ["^"], ["&"], ["==", "!="], ["<=", ">=", "<", ">"], ["<<", ">>"], ["+", "-"],
    ["*", "/", "%"]]

/-- The signs of assignments, each with the operator that is applied before. -/
def assignments : List (String × String) :=
  [("=", ""), ("<<=", "<<"), (">>=", ">>"), ("+=", "+"), ("-=", "-"), ("*=", "*"), ("/=", "/"),
    ("%=", "%"), ("&=", "&"), ("|=", "|"), ("^=", "^")]

/-- The operator of an assignment, empty if it has none. -/
def assignment? (sign : String) : Option String :=
  (assignments.find? fun a => a.1 == sign).map (·.2)

/-- The lexeme that a text begins with, and the rest of the text. -/
def lexeme (text : Text) : Lexeme × Text :=
  match text.dropWhile fun c => c == ' ' || c == '\t' || c == '\n' with
  | [] => (.finish, [])
  | c :: rest =>
    let text := c :: rest
    if c.isDigit then
      let found := leadingInteger true text
      (.number (min found.value largest), found.rest)
    else if isNameStart c then
      (.variable (text.takeWhile isNameChar), text.dropWhile isNameChar)
    else
      match signs.find? fun s => s.toList.isPrefixOf text with
      | some s => (.sign s, text.drop s.length)
      | none => (.bad, text)

/-- Reads from an expression. -/
abbrev Reader := StateT (Text × State) (Except Flaw)

/-- The next lexeme. -/
def peek : Reader Lexeme := return (lexeme (← get).1).1

/-- Passes over the next lexeme. -/
def skip : Reader Unit := modify fun p => ((lexeme p.1).2, p.2)

/-- Takes the next lexeme if it is the given sign. -/
def takeSign (s : String) : Reader Bool := do
  if (← peek) == .sign s then
    skip
    return true
  return false

/-- The number of a truth value. -/
def truth (b : Bool) : Int := if b then 1 else 0

/-- Applies an operation on bits. -/
def bitwise (f : Nat → Nat → Nat) (a b : Int) : Int := wrap (f (word a) (word b))

/-- The factor of a shift; only the lowest six bits of the distance count. -/
def shiftFactor (b : Int) : Int := Nat.pow 2 (b % 64).toNat

/-- Refuses a division that has no result in a word. -/
def checkDivision (a b : Int) : Reader Unit := do
  if b = 0 then throw .divisionByZero
  if a = smallest && b = -1 then throw .overflow

/-- Applies an operator to two operands. -/
def apply (o : String) (a b : Int) : Reader Int :=
  match o with
  | "*" => pure (wrap (a * b))
  | "/" => do
    checkDivision a b
    return Int.tdiv a b
  | "%" => do
    checkDivision a b
    return Int.tmod a b
  | "+" => pure (wrap (a + b))
  | "-" => pure (wrap (a - b))
  | "<<" => pure (wrap (a * shiftFactor b))
  | ">>" => pure (a / shiftFactor b)
  | "<=" => pure (truth (a ≤ b))
  | ">=" => pure (truth (a ≥ b))
  | "<" => pure (truth (a < b))
  | ">" => pure (truth (a > b))
  | "==" => pure (truth (a == b))
  | "!=" => pure (truth (a != b))
  | "&" => pure (bitwise (· &&& ·) a b)
  | "^" => pure (bitwise (· ^^^ ·) a b)
  | _ => pure (bitwise (· ||| ·) a b)

/-- The value of a variable as a number. -/
def valueOf (name : Text) : Reader Int := do
  let text := ((← get).2.value? name).getD []
  match integer? true text with
  | some n => return n
  | none => throw (.variable (.illegalNumber text))

/-- Gives a variable a number. -/
def store (name : Text) (value : Int) : Reader Unit := do
  let (text, s) ← get
  match s.give false name (ofString s!"{value}") with
  | .ok s => set (text, s)
  | .error fault => throw (.variable fault)

mutual

/-- Reads an expression; its value counts only if it is `live`. -/
def expression (fuel : Nat) (live : Bool) : Reader Int := do
  match fuel with
  | 0 => throw .expectingPrimary
  | fuel + 1 =>
    let start ← get
    match ← peek with
    | .variable name =>
      skip
      let operator :=
        match ← peek with
        | .sign s => assignment? s
        | _ => none
      match operator with
      | none =>
        set start
        choice fuel live
      | some o =>
        skip
        let value ← expression fuel live
        if !live then return value
        let value ← if o = "" then pure value else apply o (← valueOf name) value
        store name value
        return value
    | _ => choice fuel live

/-- Reads a choice between two values. -/
def choice (fuel : Nat) (live : Bool) : Reader Int := do
  match fuel with
  | 0 => throw .expectingPrimary
  | fuel + 1 =>
    let test ← disjunction fuel live
    if !(← takeSign "?") then return test
    let yes ← expression fuel (live && test ≠ 0)
    if !(← takeSign ":") then throw .expectingColon
    let no ← choice fuel (live && test = 0)
    return if test ≠ 0 then yes else no

/-- Reads alternatives. -/
def disjunction (fuel : Nat) (live : Bool) : Reader Int := do
  match fuel with
  | 0 => throw .expectingPrimary
  | fuel + 1 =>
    let left ← conjunction fuel live
    if !(← takeSign "||") then return left
    let right ← disjunction fuel (live && left = 0)
    return truth (left ≠ 0 || right ≠ 0)

/-- Reads conditions that must all hold. -/
def conjunction (fuel : Nat) (live : Bool) : Reader Int := do
  match fuel with
  | 0 => throw .expectingPrimary
  | fuel + 1 =>
    let left ← joined fuel live levels
    if !(← takeSign "&&") then return left
    let right ← conjunction fuel (live && left ≠ 0)
    return truth (left ≠ 0 && right ≠ 0)

/-- Reads an operand and what is joined to it at the given levels. -/
def joined (fuel : Nat) (live : Bool) (levels : List (List String)) : Reader Int := do
  match fuel, levels with
  | 0, _ => throw .expectingPrimary
  | fuel + 1, [] => operand fuel live
  | fuel + 1, level :: tighter =>
    let left ← joined fuel live tighter
    joinedTo fuel live level tighter left

/-- Reads what is joined to a left operand at one level. -/
def joinedTo (fuel : Nat) (live : Bool) (level : List String) (tighter : List (List String))
    (left : Int) : Reader Int := do
  match fuel with
  | 0 => throw .expectingPrimary
  | fuel + 1 =>
    match ← peek with
    | .sign o =>
      if !level.contains o then return left
      skip
      let right ← joined fuel live tighter
      let value ← if live then apply o left right else pure right
      joinedTo fuel live level tighter value
    | _ => return left

/-- Reads an operand. -/
def operand (fuel : Nat) (live : Bool) : Reader Int := do
  match fuel with
  | 0 => throw .expectingPrimary
  | fuel + 1 =>
    match ← peek with
    | .number n =>
      skip
      return n
    | .variable name =>
      skip
      if live then valueOf name else return 0
    | .sign "+" =>
      skip
      operand fuel live
    | .sign "-" =>
      skip
      return wrap (-(← operand fuel live))
    | .sign "!" =>
      skip
      return truth ((← operand fuel live) == 0)
    | .sign "~" =>
      skip
      return -(← operand fuel live) - 1
    | .sign "(" =>
      skip
      let value ← expression fuel live
      if !(← takeSign ")") then throw .expectingParenthesis
      return value
    | _ => throw .expectingPrimary

end

/-- The value of an expression and the state after it. -/
def evaluate (source : Text) (s : State) : Except Flaw (Int × State) := do
  let whole : Reader Int := do
    let value ← expression (24 * (source.length + 2)) true
    if (← peek) != .finish then throw .expectingEnd
    return value
  let (value, _, s) ← whole.run (source, s)
  return (value, s)

end Lockstep.Shell.Arithmetic
