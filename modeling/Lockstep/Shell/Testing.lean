import Lockstep.Shell.State

/-!
# Conditions

`test` decides conditions on texts, numbers and files. Its arguments are read by descent:
conditions are negated, joined by `-a` and `-o`, and grouped by parentheses. A word that could be an
operator is an operand where it stands in the place of one, and up to four arguments are read as
what their number suggests.
-/

namespace Lockstep.Shell

open Files

/-- What an argument of a condition is. -/
inductive Role where
  | operand
  | unary
  | binary
  | either
  | both
  | negation
  | opening
  | closing
  | finish
  deriving Repr, DecidableEq

/-- Tests of one operand. -/
def unaryTests : List String :=
  ["-r", "-w", "-x", "-e", "-f", "-d", "-c", "-b", "-p", "-u", "-g", "-k", "-s", "-t", "-z", "-n",
    "-h", "-O", "-G", "-L", "-S"]

/-- Tests of two operands. -/
def binaryTests : List String :=
  ["=", "!=", "<", ">", "-eq", "-ne", "-ge", "-gt", "-le", "-lt", "-nt", "-ot", "-ef"]

/-- What an argument may be apart from an operand. -/
def operatorRole? (t : Text) : Option Role :=
  let s := String.ofList t
  if unaryTests.contains s then some .unary
  else if binaryTests.contains s then some .binary
  else
    match s with
    | "!" => some .negation
    | "-a" => some .both
    | "-o" => some .either
    | "(" => some .opening
    | ")" => some .closing
    | _ => none

/-- What the first of some arguments is. -/
def roleOf : List Text → Role
  | [] => .finish
  | t :: rest =>
    match operatorRole? t, rest with
    | none, _ => .operand
    | some .unary, [] | some .opening, [] => .operand
    | some .unary, o :: _ :: _ =>
      if operatorRole? o == some .binary then .operand else .unary
    | some role, _ => role

/-- Decides a condition. -/
abbrev Condition := StateT (List Text) (Except String)

/-- What a path leads to, following links or not, with its canonical path. -/
def lookUp? (s : State) (follow : Bool) (path : Text) : Option (List String × Node) :=
  match s.tree.find follow (asString path) with
  | .ok (.node place n) => some (place, n)
  | _ => none

/-- The number of an operand. -/
def operandNumber (t : Text) : Except String Int :=
  match integer? false t with
  | some n => .ok n
  | none => .error s!"Illegal number: {asString t}"

/-- Decides a test of one operand. -/
def testUnary (s : State) (o : String) (t : Text) : Except String Bool :=
  let file (p : Node → Bool) : Except String Bool :=
    .ok (((lookUp? s true t).map fun found => p found.2).getD false)
  match o with
  | "-n" => .ok !t.isEmpty
  | "-z" => .ok t.isEmpty
  | "-e" | "-r" | "-w" | "-O" | "-G" => file fun _ => true
  | "-f" => file fun
      | .file _ _ | .program _ => true
      | _ => false
  | "-d" => file Node.isDirectory
  | "-s" => file fun
      | .file content _ => !content.isEmpty
      | .device _ => false
      | _ => true
  | "-x" => file fun
      | .file _ executable => executable
      | .device _ => false
      | _ => true
  | "-c" => file fun
      | .device _ => true
      | _ => false
  | "-h" | "-L" => .ok <|
      match lookUp? s false t with
      | some (_, .link _) => true
      | _ => false
  | "-k" => .ok <|
      match lookUp? s true t with
      | some (place, _) => place == ["tmp"] || place == ["var", "tmp"]
      | none => false
  | "-t" => (operandNumber t).map fun _ => false
  | _ => .ok false

/-- Decides a test of two operands. -/
def testBinary (s : State) (o : String) (a b : Text) : Except String Bool := do
  let numbers (p : Int → Int → Bool) : Except String Bool := do
    let x ← operandNumber a
    let y ← operandNumber b
    return p x y
  match o with
  | "=" => return a == b
  | "!=" => return a != b
  | "<" => return decide (a < b)
  | ">" => return decide (b < a)
  | "-eq" => numbers (· == ·)
  | "-ne" => numbers (· != ·)
  | "-lt" => numbers fun x y => decide (x < y)
  | "-le" => numbers fun x y => decide (x ≤ y)
  | "-gt" => numbers fun x y => decide (x > y)
  | "-ge" => numbers fun x y => decide (x ≥ y)
  | "-ef" =>
    return match lookUp? s true a, lookUp? s true b with
      | some x, some y => x.1 == y.1
      | _, _ => false
  | _ => return false

/-- A mistake at an argument. -/
def misplaced {α : Type} (t : Text) (message : String) : Condition α :=
  throw (if t.isEmpty then message else s!"{asString t}: {message}")

mutual

/-- Decides alternatives. The last argument that was read stays in front. -/
def testEither (fuel : Nat) (s : State) : Condition Bool := do
  match fuel with
  | 0 => return false
  | fuel + 1 =>
    let left ← testBoth fuel s
    let args ← get
    if roleOf args.tail != .either then return left
    set (args.drop 2)
    let right ← testEither fuel s
    return left || right

/-- Decides conditions that must all hold. -/
def testBoth (fuel : Nat) (s : State) : Condition Bool := do
  match fuel with
  | 0 => return false
  | fuel + 1 =>
    let left ← testNot fuel s
    let args ← get
    if roleOf args.tail != .both then return left
    set (args.drop 2)
    let right ← testBoth fuel s
    return left && right

/-- Decides a condition that may be negated. -/
def testNot (fuel : Nat) (s : State) : Condition Bool := do
  match fuel with
  | 0 => return false
  | fuel + 1 =>
    let args ← get
    if roleOf args != .negation then return ← testPrimary fuel s (roleOf args)
    if roleOf args.tail == .finish then return true
    set args.tail
    return !(← testNot fuel s)

/-- Decides a single condition, which begins with an argument of the given kind. -/
def testPrimary (fuel : Nat) (s : State) (role : Role) : Condition Bool := do
  match fuel with
  | 0 => return false
  | fuel + 1 =>
    let args ← get
    match role, args with
    | .finish, _ | _, [] => return false
    | .opening, _ :: rest =>
      set rest
      if roleOf rest == .closing then return false
      let value ← testEither fuel s
      let after := (← get).tail
      set after
      if roleOf after != .closing then throw "closing paren expected"
      return value
    | .unary, o :: rest =>
      match rest with
      | [] => misplaced o "argument expected"
      | t :: _ =>
        set rest
        testUnary s (asString o) t
    | _, a :: rest =>
      if roleOf rest != .binary then return !a.isEmpty
      match rest with
      | o :: b :: more =>
        set (b :: more)
        testBinary s (asString o) a b
      | _ => misplaced (rest.headD []) "argument expected"

end

/-- Decides a condition that begins with an argument of the given kind. -/
def testFrom (s : State) (operandFirst : Bool) (args : List Text) : Except String Bool := do
  let fuel := 4 * args.length + 8
  let whole : Condition Bool := do
    let value ←
      if operandFirst then
        match args with
        | [a, o, b] =>
          set [b]
          (testBinary s (asString o) a b : Except String Bool)
        | _ => testEither fuel s
      else testEither fuel s
    match ← get with
    | t :: _ :: _ => misplaced t "unexpected operator"
    | _ => return value
  (·.1) <$> whole.run args

/-- Decides arguments, whose number says how they are read. Three or four of them may be negated as
a whole, but not more than once. -/
def testArguments (fuel : Nat) (s : State) (negated : Bool) (args : List Text) :
    Except String Bool :=
  match fuel with
  | 0 => .ok false
  | fuel + 1 =>
    let decide (operandFirst : Bool) (args : List Text) : Except String Bool :=
      (testFrom s operandFirst args).map (· != negated)
    let shortened : Except String Bool :=
      let inner := args.tail.dropLast
      if args.head? == some ['('] && args.getLast? == some [')'] then decide false inner
      else if args.head? == some ['!'] then testArguments fuel s true args.tail
      else decide false args
    match args with
    | [] => .ok false
    | [_, o, _] =>
      if operatorRole? o == some .binary then decide true args else shortened
    | [_, _, _, _] => shortened
    | _ => decide false args

/-- Decides a condition; a bracket that was opened has to be closed. -/
def test (name : String) (args : List Text) : Run Nat := do
  let closed := (args.getLast?.bind List.head?) == some ']'
  if name = "[" && !closed then fail "missing ]"
  let args := if name = "[" then args.dropLast else args
  match testArguments 8 (← get) false args with
  | .ok value => return if value then 0 else 1
  | .error message => fail message

end Lockstep.Shell
