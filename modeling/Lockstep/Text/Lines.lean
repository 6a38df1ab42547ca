/-!
# Lines

A line of a stream reaches up to and including a separator; what stands after the last separator
is an unfinished line. The lines of a document leave the separator out, together with one
carriage return before it. Main statement: putting the pieces of a stream together gives the
stream back.
-/

namespace Lockstep.Lines

variable {α : Type}

/-- The pieces of a stream, each but perhaps the last ending in its only separator. -/
def splitAfter (sep : α → Bool) : List α → List (List α)
  | [] => []
  | a :: rest =>
    if sep a then [a] :: splitAfter sep rest
    else
      match splitAfter sep rest with
      | [] => [[a]]
      | piece :: pieces => (a :: piece) :: pieces

/-- The pieces make up the whole. -/
theorem flatten_splitAfter (sep : α → Bool) (s : List α) : (splitAfter sep s).flatten = s := by
  induction s with
  | nil => rfl
  | cons a rest ih =>
    by_cases h : sep a
    · simp [splitAfter, h, ih]
    · simp only [splitAfter, h]
      cases hs : splitAfter sep rest with
      | nil => simp_all
      | cons piece pieces => simp_all

/-- Takes the separator off a line, and one carriage return before the separator. -/
def stripEnd (line : List Char) : List Char :=
  match line.reverse with
  | '\n' :: '\r' :: body => body.reverse
  | '\n' :: body => body.reverse
  | _ => line

/-- The lines of a document. A carriage return that ends the document belongs to its last line. -/
def ofText (text : List Char) : List (List Char) :=
  (splitAfter (· == '\n') text).map stripEnd

end Lockstep.Lines
