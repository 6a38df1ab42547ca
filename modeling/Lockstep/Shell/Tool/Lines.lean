import Lockstep.Shell.Tool.Basic

/-!
# Programs that work on lines

These programs put files or the input on the output, as a whole or in parts, in another order, or
changed character by character.
-/

namespace Lockstep.Shell

/-- Puts files one after another. -/
def catTool (args : List Text) : Run Nat := do
  let (options, paths) := splitOptions args
  match options.find? fun o => o.any fun c => !"-unAETvbes".toList.contains c with
  | some o =>
    let bad := (o.tail.find? fun c => !"unAETvbes".toList.contains c).getD '-'
    misuse "cat" s!"invalid option -- '{asString [bad]}'"
  | none =>
    let mut good := true
    for path in if paths.isEmpty then [['-']] else paths do
      match ← content path 0 with
      | .ok text =>
        put text
        if !(← deliver "cat") then return 1
      | .error cause =>
        fault "cat" s!"{asString path}: {reason cause}"
        good := false
        if cause == .badDescriptor && ((← get).stream? 0).isNone then
          fault "cat" "closing standard input: Bad file descriptor"
    return if good then 0 else 1

/-- Lines, words and bytes of a text. -/
def countText (t : Text) : Nat × Nat × Nat :=
  let isBlank (c : Char) : Bool := c == ' ' || (9 ≤ c.toNat && c.toNat ≤ 13)
  let step (p : Nat × Bool) (c : Char) : Nat × Bool :=
    if isBlank c then (p.1, false) else if p.2 then p else (p.1 + 1, true)
  (t.count '\n', (t.foldl step (0, false)).1, t.length)

/-- Counts lines, words and bytes. -/
def wcTool (args : List Text) : Run Nat := do
  let (options, paths) := splitOptions args
  let letters := options.flatMap List.tail
  let wants (c : Char) : Bool := if letters.isEmpty then c != 'm' else letters.contains c
  let (found, good) ← contents
    (fun path cause => fault "wc" s!"{asString path}: {reason cause}") paths
  let chosen (n : Nat × Nat × Nat) : List Nat :=
    (if wants 'l' then [n.1] else []) ++ (if wants 'w' then [n.2.1] else []) ++
      (if wants 'm' && !letters.isEmpty then [n.2.2] else []) ++
      (if wants 'c' then [n.2.2] else [])
  let rows := found.map fun f => (f.1, chosen (countText f.2))
  let total := found.foldl (fun n f =>
    let m := countText f.2
    (n.1 + m.1, n.2.1 + m.2.1, n.2.2 + m.2.2)) (0, 0, 0)
  let width :=
    if paths.isEmpty || paths.contains ['-'] then
      if (chosen total).length > 1 then 7 else 1
    else if (chosen total).length ≤ 1 && paths.length ≤ 1 then 1
    else (Nat.repr total.2.2).length
  let row (name : Text) (ns : List Nat) : Text :=
    let cells := ns.map fun n =>
      let digits := (Nat.repr n).toList
      List.replicate (width - digits.length) ' ' ++ digits
    spaced cells ++ (if name == ['-'] && paths.isEmpty then [] else ' ' :: name) ++ ['\n']
  for (name, ns) in rows do
    put (row name ns)
  if paths.length > 1 then put (row "total".toList (chosen total))
  return if good then 0 else 1

/-- The characters that a set of `tr` names. -/
def charSet (fuel : Nat) (s : Text) : Text :=
  match fuel, s with
  | 0, _ | _, [] => []
  | fuel + 1, '[' :: ':' :: rest =>
    let name := rest.takeWhile (· ≠ ':')
    match rest.drop name.length with
    | ':' :: ']' :: more =>
      ((List.range 256).map Char.ofNat).filter (inClass name) ++ charSet fuel more
    | _ => '[' :: charSet fuel (':' :: rest)
  | fuel + 1, '\\' :: c :: rest =>
    if isOctal c then
      let (d, rest) := readOctal 3 0 (c :: rest)
      d :: charSet fuel rest
    else (controlOf? c).getD c :: charSet fuel rest
  | fuel + 1, a :: '-' :: b :: rest =>
    if a ≤ b then
      ((List.range (b.toNat - a.toNat + 1)).map fun n => Char.ofNat (a.toNat + n)) ++
        charSet fuel rest
    else a :: charSet fuel ('-' :: b :: rest)
  | fuel + 1, c :: rest => c :: charSet fuel rest

/-- The text with each run of a character of the set cut down to one. -/
def squeeze (set : Text) (last : Option Char) : Text → Text
  | [] => []
  | c :: rest =>
    if set.contains c && last == some c then squeeze set last rest
    else c :: squeeze set (some c) rest

/-- Puts other characters for some, deletes or squeezes them. -/
def trTool (args : List Text) : Run Nat := do
  let (options, sets) := splitOptions args
  let letters := options.flatMap List.tail
  let has (c : Char) : Bool := letters.contains c
  let set (t : Text) : Text := charSet (t.length + 1) t
  match sets with
  | [] => misuse "tr" "missing operand"
  | first :: rest =>
    let sources := set first
    let sources := if has 'c' || has 'C' then
      ((List.range 256).map Char.ofNat).filter fun c => !sources.contains c else sources
    if has 'd' then
      let text ← readAll 0
      let text := text.filter fun c => !sources.contains c
      put (if has 's' then squeeze (set (rest.headD [])) none text else text)
      return 0
    match rest with
    | [] =>
      if has 's' then
        put (squeeze sources none (← readAll 0))
        return 0
      fault "tr" s!"missing operand after '{asString first}'"
      putError "Two strings must be given when translating.\n"
      putError "Try 'tr --help' for more information.\n"
      return 1
    | second :: _ =>
      let images := set second
      let text ← readAll 0
      let missing := List.replicate (sources.length - images.length) (images.getLastD ' ')
      let table := sources.zip (images ++ missing)
      let text := text.map fun c =>
        ((table.reverse.find? fun p => p.1 == c).map (·.2)).getD c
      put (if has 's' then squeeze images none text else text)
      return 0

/-- The count of `head` or `tail` and whether it counts bytes, and the paths. -/
def countOptions (args : List Text) : Option (Text × Bool × List Text) :=
  match args with
  | ['-', 'n'] :: n :: rest => some (n, false, rest)
  | ['-', 'c'] :: n :: rest => some (n, true, rest)
  | ('-' :: 'n' :: n) :: rest => some (n, false, rest)
  | ('-' :: 'c' :: n) :: rest => some (n, true, rest)
  | ('-' :: d :: ds) :: rest => if d.isDigit then some (d :: ds, false, rest) else none
  | _ => some ("10".toList, false, args)

/-- Puts the beginning or the end of files. -/
def headOrTail (program : String) (args : List Text) : Run Nat := do
  match countOptions args with
  | none =>
    let bad := (args.headD []).tail.take 1
    misuse program s!"invalid option -- '{asString bad}'"
  | some (count, bytes, paths) =>
    let sign := if count.head? == some '-' || count.head? == some '+' then count.take 1 else []
    match natural? (count.drop sign.length) with
    | none =>
      let what := if bytes then "bytes" else "lines"
      fault program s!"invalid number of {what}: '{asString count}'"
      return 1
    | some n =>
      let mut good := true
      for path in if paths.isEmpty then [['-']] else paths do
        match ← content path (if bytes then n else 0) with
        | .error cause =>
          if cause == .isDirectory then
            fault program s!"error reading '{asString path}': {reason cause}"
          else fault program s!"cannot open '{asString path}' for reading: {reason cause}"
          good := false
        | .ok text =>
          let cut (xs : List Text) : List Text :=
            if program = "head" then
              if sign == ['-'] then xs.take (xs.length - n) else xs.take n
            else if sign == ['+'] then xs.drop (n - 1) else xs.drop (xs.length - n)
          if bytes then put ((cut (text.map fun c => [c])).flatten)
          else
            let lines := linesOf text
            let kept := unlines (cut lines)
            let endsOpen := text.getLast? != some '\n' && !text.isEmpty
            let keepsLast := program = "tail" || (cut lines).length == lines.length
            put (if endsOpen && keepsLast then kept.dropLast else kept)
      return if good then 0 else 1

/-- The numbers from one to another by steps. -/
def steps (fuel : Nat) (a step b : Int) : List Int :=
  match fuel with
  | 0 => []
  | fuel + 1 =>
    if (step > 0 && a > b) || (step < 0 && a < b) then [] else a :: steps fuel (a + step) step b

/-- Puts numbers in a row. -/
def seqTool (args : List Text) : Run Nat := do
  match args.find? fun a => (operand? a).isNone with
  | some bad => misuse "seq" s!"invalid floating point argument: '{asString bad}'"
  | none =>
    let numbers := args.filterMap operand?
    let list (a step b : Int) : Run Nat := do
      let count := (b - a).natAbs / max 1 step.natAbs + 1
      for n in steps (count + 1) a step b do
        putString s!"{n}\n"
      return 0
    match numbers with
    | [b] => list 1 1 b
    | [a, b] => list a 1 b
    | [a, step, b] => list a step b
    | _ => misuse "seq" "missing operand"

/-- Puts the lines in order. -/
def sortTool (args : List Text) : Run Nat := do
  let (options, paths) := splitOptions args
  let letters := options.flatMap List.tail
  let has (c : Char) : Bool := letters.contains c
  let (found, good) ← contents
    (fun path cause => fault "sort" s!"cannot read: {asString path}: {reason cause}") paths
  if !good then return 2
  let lines := found.flatMap fun f => linesOf f.2
  let value (t : Text) : Int :=
    let t := t.dropWhile (· == ' ')
    match t with
    | '-' :: ds => -(((natural? (ds.takeWhile Char.isDigit)).getD 0 : Nat) : Int)
    | _ => (((natural? (t.takeWhile Char.isDigit)).getD 0 : Nat) : Int)
  let le (a b : Text) : Bool :=
    if has 'n' && value a ≠ value b then value a ≤ value b else inOrder a b
  let sorted := lines.mergeSort (if has 'r' then fun a b => le b a else le)
  let sorted := if has 'u' then sorted.eraseDups else sorted
  put (unlines sorted)
  return 0

/-- Runs of equal lines with their lengths. -/
def runs : List Text → List (Text × Nat)
  | [] => []
  | t :: rest =>
    match runs rest with
    | (u, n) :: more => if t == u then (u, n + 1) :: more else (t, 1) :: (u, n) :: more
    | [] => [(t, 1)]

/-- Puts one line for lines that are equal and follow one another. -/
def uniqTool (args : List Text) : Run Nat := do
  let (options, paths) := splitOptions args
  let letters := options.flatMap List.tail
  let (found, good) ← contents
    (fun path cause => fault "uniq" s!"{asString path}: {reason cause}") paths
  let groups := runs (found.flatMap fun f => linesOf f.2)
  let groups :=
    if letters.contains 'd' then groups.filter (·.2 > 1)
    else if letters.contains 'u' then groups.filter (·.2 == 1)
    else groups
  for (line, n) in groups do
    let digits := (Nat.repr n).toList
    let label :=
      if letters.contains 'c' then List.replicate (7 - digits.length) ' ' ++ digits ++ [' '] else []
    put (label ++ line ++ ['\n'])
  return if good then 0 else 1

/-- Puts parts of lines. -/
def cutTool (args : List Text) : Run Nat := do
  let value (letter : Char) : Option Text :=
    match args.dropWhile fun a => a.take 2 ≠ ['-', letter] with
    | (_ :: _ :: []) :: v :: _ => some v
    | (_ :: _ :: v) :: _ => some v
    | _ => none
  let ranges (spec : Text) : List (Nat × Nat) :=
    (splitAt ',' spec).map fun r =>
      match splitAt '-' r with
      | [n] => ((natural? n).getD 0, (natural? n).getD 0)
      | [a, b] => ((natural? a).getD 1, (natural? b).getD 1000000)
      | _ => (0, 0)
  let chosen {α : Type} (rs : List (Nat × Nat)) (xs : List α) : List α :=
    ((xs.zip (List.range xs.length)).filter fun x =>
      rs.any fun r => r.1 ≤ x.2 + 1 && x.2 + 1 ≤ r.2).map (·.1)
  let text ← readAll 0
  match value 'f', (value 'c').or (value 'b') with
  | some spec, _ =>
    let d := ((value 'd').bind List.head?).getD '\t'
    for line in linesOf text do
      let fields := splitAt d line
      let line :=
        if fields.length ≤ 1 then line else [d].intercalate (chosen (ranges spec) fields)
      put (line ++ ['\n'])
    return 0
  | none, some spec =>
    for line in linesOf text do
      put (chosen (ranges spec) line ++ ['\n'])
    return 0
  | none, none =>
    misuse "cut" "you must specify a list of bytes, characters, or fields"

/-- Puts the input, and copies it to files. -/
def teeTool (args : List Text) : Run Nat := do
  let (options, paths) := splitOptions args
  let text ← readAll 0
  put text
  let mut status := 0
  for path in paths do
    let t := (← get).tree
    let result :=
      if options.contains ['-', 'a'] then t.append (asString path) (toBytes text)
      else t.write (asString path) (toBytes text)
    match result with
    | .ok t => setTree t
    | .error cause =>
      fault "tee" s!"{asString path}: {reason cause}"
      status := 1
  return status

/-- Changes each line of the input, or of files. -/
def mapLines (program : String) (f : List Text → List Text) (args : List Text) : Run Nat := do
  let (found, good) ← contents
    (fun path cause => fault program s!"{asString path}: {reason cause}") args
  put (unlines (f (found.flatMap fun t => linesOf t.2)))
  return if good then 0 else 1

end Lockstep.Shell
