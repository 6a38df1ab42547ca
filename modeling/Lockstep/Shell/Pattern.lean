import Lockstep.Files.Tree
import Lockstep.Shell.Command

/-!
# Patterns of the shell

A pattern matches texts and names of files: `*` stands for any text, `?` for any character, and
brackets for one of the characters in them. A backslash takes away the meaning of the character
after it. A word that has been expanded is made of cells, which remember what was quoted; as a
pattern it has a backslash in front of each quoted character that would mean something.
-/

namespace Lockstep.Shell

/-- A character of an expanded word, or a mark that something was quoted there. -/
inductive Cell where
  | mark
  | char (c : Char) (quoted : Bool)
  deriving Repr, DecidableEq

/-- Text as cells. -/
def cellsOf (quoted : Bool) (t : Text) : List Cell := t.map fun c => .char c quoted

/-- The text of cells. -/
def textOf (cells : List Cell) : Text :=
  cells.filterMap fun
    | .mark => none
    | .char c _ => some c

/-- A text in which some characters have a meaning. -/
abbrev Pattern := Text

/-- Whether a quoted character needs a backslash in a pattern. -/
def meansSomething (c : Char) : Bool := "!*?[]=~:/-\\".toList.contains c

/-- The pattern of cells; `shielded` says whether a backslash that is not quoted comes before. -/
def Pattern.ofCells (shielded : Bool) : List Cell → Pattern
  | [] => []
  | .mark :: rest => ofCells false rest
  | .char c quoted :: rest =>
    if !quoted && c == '\\' then c :: ofCells true rest
    else if quoted && meansSomething c && !shielded then '\\' :: c :: ofCells false rest
    else c :: ofCells false rest

/-- The characters that a class in brackets stands for. -/
def inClass (name : Text) (c : Char) : Bool :=
  match String.ofList name with
  | "alpha" => c.isAlpha
  | "digit" => c.isDigit
  | "alnum" => c.isAlphanum
  | "upper" => c.isUpper
  | "lower" => c.isLower
  | "space" => c == ' ' || (9 ≤ c.toNat && c.toNat ≤ 13)
  | "blank" => c == ' ' || c == '\t'
  | "punct" => 33 ≤ c.toNat && c.toNat ≤ 126 && !c.isAlphanum
  | "cntrl" => c.toNat < 32 || c.toNat == 127
  | "print" => 32 ≤ c.toNat && c.toNat ≤ 126
  | "graph" => 33 ≤ c.toNat && c.toNat ≤ 126
  | "xdigit" => c.isDigit || ('a' ≤ c && c ≤ 'f') || ('A' ≤ c && c ≤ 'F')
  | _ => false

/-- The names of the classes. -/
def classNames : List String :=
  ["alnum", "alpha", "blank", "cntrl", "digit", "graph", "lower", "print", "punct", "space",
    "upper", "xdigit"]

/-- The class that a text names, with what follows it. -/
def class? (p : Text) : Option (Text × Text) :=
  match p with
  | ':' :: rest =>
    let name := rest.takeWhile (· ≠ ':')
    match rest.drop name.length with
    | ':' :: ']' :: rest => if classNames.contains (asString name) then some (name, rest) else none
    | _ => none
  | _ => none

/-- The place of a byte in the order of ranges, in which those above 127 come first. -/
def rank (c : Char) : Nat := if c.toNat < 128 then c.toNat + 128 else c.toNat - 128

/-- The text without a backslash in front. -/
def dropBackslash : Text → Text
  | '\\' :: rest => rest
  | t => t

/--
Whether brackets hold a character, and the pattern after them. The pattern given begins in the
brackets; nothing comes out if they are not closed.
-/
def inBrackets (fuel : Nat) (x : Char) (found : Bool) (p : Pattern) : Option (Bool × Pattern) :=
  match fuel, p with
  | 0, _ | _, [] => none
  | fuel + 1, c :: rest =>
    let goOn (found : Bool) (rest : Pattern) : Option (Bool × Pattern) :=
      match rest with
      | ']' :: after => some (found, after)
      | _ => inBrackets fuel x found rest
    match if c == '[' then class? rest else none with
    | some (name, after) => goOn (found || inClass name x) after
    | none =>
      match if c == '\\' then rest else c :: rest with
      | [] => none
      | low :: rest =>
        match rest with
        | '-' :: high =>
          match dropBackslash high with
          | [] => none
          | top :: after =>
            if high.head? == some ']' then goOn (found || x == low) rest
            else goOn (found || (rank low ≤ rank x && rank x ≤ rank top)) after
        | _ => goOn (found || x == low) rest

/-- Whether a pattern matches a whole text. -/
def Pattern.agrees (fuel : Nat) (p : Pattern) (s : Text) : Bool :=
  match fuel, p, s with
  | 0, _, _ => false
  | _ + 1, [], s => s.isEmpty
  | fuel + 1, '*' :: rest, s =>
    agrees fuel rest s ||
      match s with
      | [] => false
      | _ :: s => agrees fuel p s
  | _ + 1, _ :: _, [] => false
  | fuel + 1, c :: rest, x :: s =>
    match c, rest with
    | '?', _ => agrees fuel rest s
    | '[', _ =>
      let (negated, inside) :=
        match rest with
        | '!' :: inside => (true, inside)
        | _ => (false, rest)
      match inBrackets (inside.length + 1) x false inside with
      | some (found, rest) => found != negated && agrees fuel rest s
      | none => x == '[' && agrees fuel rest s
    | '\\', d :: rest => x == d && agrees fuel rest s
    | _, _ => x == c && agrees fuel rest s

/-- Whether a pattern matches a whole text. -/
def Pattern.accepts (p : Pattern) (s : Text) : Bool := p.agrees (p.length + s.length + 1) s

/--
The value without a matching part at one end, the shortest or the longest one. Where the value has
borders between arguments, a part is compared up to the first one, and parts that are made longer
from the front end there, too.
-/
def stripMatch (atEnd longest : Bool) (p : Pattern) (value : List Cell) : List Cell :=
  let text := textOf value
  let beforeBorder (t : Text) : Text := t.takeWhile (· ≠ '\x00')
  let part (n : Nat) : Text := beforeBorder (if atEnd then text.drop n else text.take n)
  let fromFront := List.range ((beforeBorder text).length + 1)
  let places :=
    if atEnd == longest then fromFront else (List.range (text.length + 1)).reverse
  match places.find? fun n => p.accepts (part n) with
  | some n => if atEnd then value.take n else value.drop n
  | none => value

/-- Whether the brackets are closed in a text that begins in them. -/
def closesBrackets : Text → Bool
  | [] => false
  | '\\' :: c :: rest => rest.head? == some ']' || (c ≠ '/' && closesBrackets rest)
  | _ :: rest => rest.head? == some ']' || closesBrackets rest

/-- Whether a component of a path stands for names of files. -/
def isMagic : Text → Bool
  | [] => false
  | '*' :: _ | '?' :: _ => true
  | '\\' :: _ :: rest => isMagic rest
  | '[' :: '!' :: rest => closesBrackets rest || isMagic ('!' :: rest)
  | '[' :: rest => closesBrackets rest || isMagic rest
  | _ :: rest => isMagic rest
  termination_by t => t.length

/-- The text of a pattern in which nothing has a meaning. -/
def withoutBackslashes : Pattern → Text
  | '\\' :: c :: rest => c :: withoutBackslashes rest
  | c :: rest => c :: withoutBackslashes rest
  | [] => []

/-- The components of a pattern of a path, which slashes separate, quoted or not. -/
def Pattern.components : Pattern → List Pattern
  | [] => [[]]
  | '\\' :: '/' :: rest | '/' :: rest => [] :: components rest
  | '\\' :: c :: rest =>
    match components rest with
    | part :: parts => ('\\' :: c :: part) :: parts
    | [] => [['\\', c]]
  | c :: rest =>
    match components rest with
    | part :: parts => (c :: part) :: parts
    | [] => [[c]]

/-- The paths that match components, after a path with a slash at its end. -/
def matchingPaths (tree : Files.Tree) (done : Text) : List Pattern → List Text
  | [] => [done]
  | p :: rest =>
    let join (name : Text) : Text := done ++ name ++ if rest.isEmpty then [] else ['/']
    if !(p :: rest).any isMagic then
      let path := done ++ withoutBackslashes (['/'].intercalate (p :: rest))
      match tree.find false (asString path) with
      | .ok (.node _ _) => [path]
      | _ => []
    else if !isMagic p then matchingPaths tree (join (withoutBackslashes p)) rest
    else
      let directory := if done.isEmpty then "." else asString done
      let isDotted := (dropBackslash p).head? == some '.'
      let special := if isDotted then [['.'], ['.', '.']] else []
      let names := special ++ (tree.names directory).map ofString
      let fitting := names.filter fun name =>
        (isDotted || name.head? ≠ some '.') && p.accepts name
      fitting.flatMap fun name => matchingPaths tree (join name) rest

/-- Whether a text comes no later than another where they are sorted by their characters. -/
def inOrder : Text → Text → Bool
  | [], _ => true
  | _ :: _, [] => false
  | c :: s, d :: t => if c = d then inOrder s t else c.toNat < d.toNat

/-- The names of files that a field stands for; without any, its text. -/
def fieldPaths (tree : Files.Tree) (field : List Cell) : List Text :=
  let text := textOf field
  if !text.any fun c => c == '*' || c == '?' || c == '[' then [text]
  else
    let parts := Pattern.components (Pattern.ofCells false field)
    match if parts.any isMagic then matchingPaths tree [] parts else [] with
    | [] => [text]
    | found => found.mergeSort inOrder

end Lockstep.Shell
