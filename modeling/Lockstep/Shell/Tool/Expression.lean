import Lockstep.Shell.Tool.Basic

/-!
# Programs that work on expressions

Lines are searched for a regular expression, which is made of atoms that may be repeated; other
expressions have a value.
-/

namespace Lockstep.Shell

/-- An element of a regular expression. -/
inductive Atom where
  | literal (c : Char)
  | any
  | bracket (negated : Bool) (inside : Text)

/-- A regular expression without groups: atoms, each with whether it is repeated. -/
structure Expression where
  atStart : Bool
  atoms : List (Atom × Char)
  atEnd : Bool

/-- Reads the atoms of a regular expression; a mark after each says how often it may come. -/
def readAtoms (fuel : Nat) (extended : Bool) (s : Text) : List (Atom × Char) × Bool :=
  match fuel, s with
  | 0, _ | _, [] => ([], false)
  | _ + 1, ['$'] => ([], true)
  | fuel + 1, c :: rest =>
    let (atom, rest) : Atom × Text :=
      match c, rest with
      | '\\', d :: rest => (.literal d, rest)
      | '.', _ => (.any, rest)
      | '[', _ =>
        let start := rest.takeWhile (fun d => d == '^')
        let after := rest.drop start.length
        let first := after.take 1
        let inside := first ++ (after.drop 1).takeWhile (· ≠ ']')
        (.bracket (!start.isEmpty) inside, (after.drop inside.length).drop 1)
      | _, _ => (.literal c, rest)
    let (mark, rest) :=
      match rest with
      | '*' :: rest => ('*', rest)
      | '+' :: more => if extended then ('+', more) else ('1', rest)
      | '?' :: more => if extended then ('?', more) else ('1', rest)
      | _ => ('1', rest)
    let (atoms, atEnd) := readAtoms fuel extended rest
    ((atom, mark) :: atoms, atEnd)

/-- Whether a character fits. -/
def Atom.accepts (a : Atom) (c : Char) : Bool :=
  match a with
  | .literal d => c == d
  | .any => true
  | .bracket negated inside =>
    let shielded := inside.flatMap fun d => if d == '\\' then [d, d] else [d]
    match inBrackets (shielded.length + 2) c false (shielded ++ [']']) with
    | some (found, _) => found != negated
    | none => false

/-- Whether atoms match at the front of a text. -/
def agreesAtFront (fuel : Nat) (atEnd : Bool) (atoms : List (Atom × Char)) (s : Text) : Bool :=
  match fuel, atoms with
  | 0, _ => false
  | _ + 1, [] => !atEnd || s.isEmpty
  | fuel + 1, (a, mark) :: rest =>
    let one : Bool :=
      match s with
      | c :: s =>
        a.accepts c &&
          agreesAtFront fuel atEnd (if mark == '*' then atoms
            else if mark == '+' then (a, '*') :: rest else rest) s
      | [] => false
    one || ((mark == '*' || mark == '?') && agreesAtFront fuel atEnd rest s)

/-- The text from each of its places on. -/
def suffixes : Text → List Text
  | [] => [[]]
  | c :: rest => (c :: rest) :: suffixes rest

/-- Whether a regular expression matches somewhere in a line. -/
def occurs (extended : Bool) (pattern line : Text) : Bool :=
  let (atStart, body) :=
    match pattern with
    | '^' :: body => (true, body)
    | _ => (false, pattern)
  let (atoms, atEnd) := readAtoms (body.length + 1) extended body
  let here (s : Text) : Bool :=
    agreesAtFront (2 * (atoms.length + s.length) + 2) atEnd atoms s
  if atStart then here line else (suffixes line).any here

/-- Puts the lines that fit a pattern. -/
def grepTool (args : List Text) : Run Nat := do
  let (options, rest) := splitOptions args
  let letters := options.flatMap List.tail
  let has (c : Char) : Bool := letters.contains c
  match rest with
  | [] =>
    putError "Usage: grep [OPTION]... PATTERNS [FILE]...\n"
    putError "Try 'grep --help' for more information.\n"
    return 2
  | pattern :: paths =>
    let fold (t : Text) : Text := if has 'i' then t.map Char.toLower else t
    let isHit (line : Text) : Bool :=
      let line := fold line
      let pattern := fold pattern
      let hit :=
        if has 'x' then line == pattern
        else if has 'F' then (suffixes line).any fun s => pattern.isPrefixOf s
        else occurs (has 'E') pattern line
      hit != has 'v'
    let (found, good) ← contents
      (fun path cause => fault "grep" s!"{asString path}: {reason cause}") paths
    let mut hits := 0
    for (path, text) in found do
      let lines := (linesOf text).zip (List.range text.length)
      let mine := lines.filter fun l => isHit l.1
      hits := hits + mine.length
      let label : Text := if paths.length > 1 then path ++ [':'] else []
      if has 'c' then put (label ++ ofString s!"{mine.length}\n")
      else if !has 'q' then
        for (line, n) in mine do
          let number := if has 'n' then ofString s!"{n + 1}:" else []
          put (label ++ number ++ line ++ ['\n'])
    return if !good then 2 else if hits > 0 then 0 else 1

/-- Puts the value of an expression. -/
def exprTool (args : List Text) : Run Nat := do
  match args with
  | [] => do
    discard (misuse "expr" "missing operand")
    return 2
  | [t] =>
    put (t ++ ['\n'])
    return if t.isEmpty || t == ['0'] then 1 else 0
  | [a, o, b] =>
    let answer (n : Int) : Run Nat := do
      putString s!"{n}\n"
      return if n = 0 then 1 else 0
    let compare (p : Ordering → Bool) : Run Nat :=
      let order :=
        match operand? a, operand? b with
        | some x, some y => compareOfLessAndEq x y
        | _, _ => compareOfLessAndEq (asString a) (asString b)
      answer (if p order then 1 else 0)
    match asString o with
    | "=" => compare (· == .eq)
    | "!=" => compare (· != .eq)
    | "<" => compare (· == .lt)
    | "<=" => compare (· != .gt)
    | ">" => compare (· == .gt)
    | ">=" => compare (· != .lt)
    | "|" =>
      let t := if a.isEmpty || a == ['0'] then b else a
      put (t ++ ['\n'])
      return if t.isEmpty || t == ['0'] then 1 else 0
    | "&" =>
      let t := if a.isEmpty || a == ['0'] || b.isEmpty || b == ['0'] then ['0'] else a
      put (t ++ ['\n'])
      return if t == ['0'] then 1 else 0
    | ":" =>
      let lengths := (List.range (a.length + 1)).reverse
      let hit := lengths.find? fun n =>
        occurs false ('^' :: b ++ ['$']) (a.take n)
      answer ((hit.getD 0 : Nat) : Int)
    | operator =>
      match operand? a, operand? b with
      | some x, some y =>
        match operator with
        | "+" => answer (x + y)
        | "-" => answer (x - y)
        | "*" => answer (x * y)
        | "/" | "%" =>
          if y = 0 then
            fault "expr" "division by zero"
            return 2
          answer (if operator = "/" then Int.tdiv x y else Int.tmod x y)
        | _ =>
          fault "expr" s!"syntax error: unexpected argument '{asString o}'"
          return 2
      | _, _ =>
        fault "expr" "non-integer argument"
        return 2
  | _ =>
    fault "expr" s!"syntax error: unexpected argument '{asString (args.getD 1 [])}'"
    return 2

end Lockstep.Shell
