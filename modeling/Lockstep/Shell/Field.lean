import Lockstep.Shell.Pattern

/-!
# Fields

An expanded word is split into fields at separators, where the text may be split. Blanks that are
separators are dropped around fields; any other separator ends a field, even an empty one. Borders
between arguments separate fields whatever the separators are. A number of fields may be given, of
which the last one takes all that is left.
-/

namespace Lockstep.Shell

/-- Where a piece of text may be split. -/
inductive Region where
  | fixed
  /-- At separators. -/
  | split
  /-- At borders between arguments only. -/
  | listed
  deriving Repr, DecidableEq

/-- A piece of an expanded word. -/
structure Piece where
  region : Region
  cells : List Cell
  deriving Repr

/-- The border between two arguments. -/
def border : Cell := .char '\x00' false

/-- The separators that are blanks. -/
def isBlankSeparator (c : Char) : Bool := c == ' ' || c == '\t' || c == '\n' || c == '\x00'

/-- A word that is being split. -/
structure Splitter where
  /-- The field that is being collected, last cells first. -/
  field : List Cell
  /-- The fields before it, last ones first. -/
  fields : List (List Cell)
  /-- Whether blanks after a separator are being dropped. -/
  dropping : Bool
  /-- How many fields there may be yet, if their number is given. -/
  left : Option Nat
  /-- Where the last field ends if nothing but separators follows. -/
  stop : Option Nat

namespace Splitter

/-- Takes a cell in a region in which text is split. -/
def take (separators : Text) (region : Region) (afterList : Bool) (s : Splitter) (cell : Cell) :
    Splitter :=
  let (separates, blank) :=
    match cell with
    | .mark => (false, false)
    | .char c _ =>
      let separates := c == '\x00' || (region == Region.split && separators.contains c)
      (separates, separates && isBlankSeparator c)
  if s.left == some 0 then
    let stop :=
      if blank then s.stop.or (some s.field.length)
      else if separates && s.dropping then s.stop
      else none
    { s with field := cell :: s.field, stop := stop, dropping := s.dropping && blank }
  else if s.dropping then
    if separates then { s with dropping := blank }
    else { s with field := [cell], dropping := false }
  else if separates then
    let dropping := blank && region == Region.split && !afterList
    if s.field.isEmpty && dropping then s
    else if s.left == some 1 then
      { s with
        field := cell :: s.field, stop := some s.field.length, left := some 0,
        dropping := dropping }
    else
      { s with
        field := [], fields := s.field.reverse :: s.fields, left := s.left.map (· - 1),
        dropping := dropping }
  else { s with field := cell :: s.field }

/-- Takes a piece; `afterList` says whether the last piece that may be split was a list. -/
def takePiece (separators : Text) (p : Splitter × Bool) (piece : Piece) : Splitter × Bool :=
  let (s, afterList) := p
  match piece.region with
  | .fixed => ({ s with field := piece.cells.reverse ++ s.field }, afterList)
  | region =>
    (piece.cells.foldl (take separators region afterList) { s with dropping := false },
      region == Region.listed)

end Splitter

/-- The fields of a word, at most as many as given. -/
def splitFields (separators : Text) (limit : Option Nat) (pieces : List Piece) :
    List (List Cell) :=
  let (s, endsInList) := pieces.foldl (Splitter.takePiece separators) (⟨[], [], false, limit, none⟩,
    false)
  let last := s.field.reverse
  let last :=
    match s.stop with
    | some n => last.take n
    | none => last
  let fields := if last.isEmpty && !endsInList then s.fields else last :: s.fields
  fields.reverse

/-- The text of pieces. -/
def pieceText (pieces : List Piece) : Text := pieces.flatMap fun p => textOf p.cells

/-- The pattern of pieces. -/
def piecePattern (pieces : List Piece) : Pattern :=
  Pattern.ofCells false (pieces.flatMap (·.cells))

end Lockstep.Shell
