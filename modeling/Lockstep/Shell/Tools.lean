import Lockstep.Shell.Tool.Expression
import Lockstep.Shell.Tool.Files
import Lockstep.Shell.Tool.Lines

/-!
# Programs of the system

The programs by their names. Those that run other programs are only named here.
-/

namespace Lockstep.Shell

open Files

/-- Lets time pass. -/
def sleepTool (args : List Text) : Run Nat := do
  if args.isEmpty then return ← misuse "sleep" "missing operand"
  if let some ('-' :: c :: _) := args.find? fun a => a.head? == some '-' then
    return ← misuse "sleep" s!"invalid option -- '{asString [c]}'"
  let isTime (t : Text) : Bool :=
    let t := if "smhd".toList.contains (t.getLastD ' ') then t.dropLast else t
    !t.isEmpty && t.all fun c => c.isDigit || c == '.'
  match args.find? fun a => !isTime a with
  | some bad => misuse "sleep" s!"invalid time interval '{asString bad}'"
  | none => return 0

/-- Puts the values of exported variables. -/
def printenvTool (args : List Text) : Run Nat := do
  let s ← get
  match args with
  | [] =>
    for (name, value) in s.environment do
      put (name ++ '=' :: value ++ ['\n'])
    return 0
  | name :: _ =>
    match s.environment.find? fun v => v.1 == name with
    | some (_, value) =>
      put (value ++ ['\n'])
      return 0
    | none => return 1

/-- The text with its escapes put in, which may be written to the base sixteen, too, and whether
`\c` cut it off. -/
def unescapeWide (fuel : Nat) (s : Text) : Text × Bool :=
  match fuel, s with
  | 0, _ | _, [] => ([], false)
  | _ + 1, '\\' :: 'c' :: _ => ([], true)
  | fuel + 1, '\\' :: 'x' :: d :: rest =>
    if isHexadecimal d then
      let digits := d :: (rest.take 1).filter isHexadecimal
      let r := unescapeWide fuel (rest.drop (digits.length - 1))
      (Char.ofNat (digitsValue 16 digits) :: r.1, r.2)
    else
      let r := unescapeWide fuel (d :: rest)
      ('\\' :: 'x' :: r.1, r.2)
  | fuel + 1, '\\' :: rest =>
    let rest :=
      match rest with
      | '0' :: d :: more => if isOctal d then d :: more else rest
      | _ => rest
    let (c, rest) := readEscape rest
    let r := unescapeWide fuel rest
    (c :: r.1, r.2)
  | fuel + 1, c :: rest =>
    let r := unescapeWide fuel rest
    (c :: r.1, r.2)

/-- Puts the arguments on a line. Letters in front of them say whether its end is left out and
whether escapes mean something. -/
def echoTool (args : List Text) : Run Nat := do
  let isOption (a : Text) : Bool :=
    a.head? == some '-' && a.length > 1 && a.tail.all fun c => "neE".toList.contains c
  let options := args.takeWhile isOption
  let letters := options.flatMap List.tail
  let text := spaced (args.drop options.length)
  let last := letters.reverse.find? fun c => c ≠ 'n'
  let (text, cut) :=
    if last == some 'e' then unescapeWide (text.length + 1) text else (text, false)
  put (if cut || letters.contains 'n' then text else text ++ ['\n'])
  return 0

/-- Decides a condition in the name of a program. -/
def testTool (name : String) (args : List Text) : Run Nat := do
  let isBracket := name = "["
  if isBracket && args.getLast? != some [']'] then
    fault name "missing ']'"
    return 2
  match testArguments 8 (← get) false (if isBracket then args.dropLast else args) with
  | .ok value => return if value then 0 else 1
  | .error message =>
    fault name message
    return 2

/-- The programs that run no other program. -/
def toolNames : List String :=
  ["true", "false", "echo", "printf", "test", "[", "cat", "wc", "tr", "head", "tail", "seq",
    "sleep", "ls", "mkdir", "rmdir", "rm", "touch", "cp", "mv", "ln", "chmod", "grep", "sort",
    "uniq", "cut", "rev", "tac", "basename", "dirname", "expr", "tee", "readlink", "realpath",
    "pwd", "printenv", "sync", "uname", "whoami"]

/-- The programs that run others. -/
def runnerNames : List String := ["sh", "dash", "bash", "env", "nohup", "nice"]

/-- The status of a program whose output cannot be written. -/
def undelivered (name : String) : Nat :=
  if ["ls", "grep", "sort"].contains name then 2 else if name = "expr" then 3 else 1

/-- Runs a program that runs no other. -/
def runTool (name : String) (args : List Text) : Run Nat := do
  match name with
  | "true" | "sync" => return 0
  | "false" => return 1
  | "echo" => echoTool args
  | "printf" => printf args
  | "test" | "[" => testTool name args
  | "cat" => catTool args
  | "wc" => wcTool args
  | "tr" => trTool args
  | "head" | "tail" => headOrTail name args
  | "seq" => seqTool args
  | "sleep" => sleepTool args
  | "ls" => lsTool args
  | "mkdir" => mkdirTool args
  | "rmdir" | "rm" => rmTool name args
  | "touch" => touchTool args
  | "cp" | "mv" => copyOrMove name args
  | "ln" => lnTool args
  | "chmod" => chmodTool args
  | "grep" => grepTool args
  | "sort" => sortTool args
  | "uniq" => uniqTool args
  | "cut" => cutTool args
  | "rev" => mapLines name (·.map List.reverse) args
  | "tac" => mapLines name List.reverse args
  | "basename" => basenameTool args
  | "dirname" => dirnameTool args
  | "expr" => exprTool args
  | "tee" => teeTool args
  | "readlink" | "realpath" => linkTool name args
  | "pwd" =>
    putString s!"{showPath (← get).tree.workingDirectory}\n"
    return 0
  | "printenv" => printenvTool args
  | "uname" =>
    putString "Linux\n"
    return 0
  | "whoami" =>
    putString "root\n"
    return 0
  | _ => return 0

end Lockstep.Shell
