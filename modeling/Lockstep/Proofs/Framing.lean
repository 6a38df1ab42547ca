import Lockstep.Text.Lines
import Lockstep.Wire.Source

/-!
# Lines of a byte stream

Bytes arrive in pieces, and a reader cuts lines from them. The cut does not depend on the pieces:
what a reader gets, one line after another, is the list that `Lines.splitAfter` makes of all the
bytes at once. `Supplies` is the view of a source that keeps this list and forgets the pieces, and
`Supplies.readLine` is all that later proofs need to know about reading.

A reader at the end of everything gets the empty line again and again, so the line that is read is
always the head of the list, or nothing.
-/

namespace Lockstep.Source

/-- A source that brings exactly these bytes: no read of it fails. -/
inductive Brings : Source → Bytes → Prop where
  | done : Brings [] []
  | bytes {rest : Source} {later : Bytes} (piece : Bytes) :
      Brings rest later → Brings (.bytes piece :: rest) (piece ++ later)
  | interrupted {rest : Source} {later : Bytes} :
      Brings rest later → Brings (.interrupted :: rest) later

theorem brings_ofBytes (bytes : Bytes) : (ofBytes bytes).Brings bytes := by
  have h := Brings.bytes bytes .done
  rwa [List.append_nil] at h

/-- What arrives later comes after what arrives now. -/
theorem Brings.append {s t : Source} {a b : Bytes} (hs : s.Brings a) (ht : t.Brings b) :
    Brings (s ++ t) (a ++ b) := by
  induction hs with
  | done => exact ht
  | bytes piece _ ih =>
      rw [List.cons_append, List.append_assoc]
      exact .bytes piece ih
  | interrupted _ ih => exact .interrupted ih

/-! ## Cutting one line -/

theorem cutLine_eq_none {bytes : Bytes} : cutLine bytes = none ↔ lineFeed ∉ bytes := by
  induction bytes with
  | nil => simp [cutLine]
  | cons b rest ih =>
      by_cases hb : b = lineFeed
      · simp [cutLine, hb]
      · simp [cutLine, hb, ih, Ne.symm hb]

/-- A cut gives back the bytes in order, and its line ends in its only line feed. -/
theorem cutLine_eq_some {bytes line left : Bytes} (h : cutLine bytes = some (line, left)) :
    ∃ body, lineFeed ∉ body ∧ line = body ++ [lineFeed] ∧ bytes = line ++ left := by
  induction bytes generalizing line with
  | nil => simp [cutLine] at h
  | cons b rest ih =>
      by_cases hb : b = lineFeed
      · simp only [cutLine, hb, if_true, Option.some.injEq, Prod.mk.injEq] at h
        obtain ⟨rfl, rfl⟩ := h
        exact ⟨[], by simp, rfl, by rw [hb]; rfl⟩
      · simp only [cutLine, hb, if_false, Option.map_eq_some_iff, Prod.mk.injEq] at h
        obtain ⟨⟨line', left'⟩, hcut, rfl, rfl⟩ := h
        obtain ⟨body, hbody, rfl, rfl⟩ := ih hcut
        exact ⟨b :: body, by simp [hbody, Ne.symm hb], rfl, rfl⟩

/-- Bytes before a line feed and the line feed are the first line. -/
theorem cutLine_body {body : Bytes} (h : lineFeed ∉ body) (rest : Bytes) :
    cutLine (body ++ lineFeed :: rest) = some (body ++ [lineFeed], rest) := by
  induction body with
  | nil => simp [cutLine]
  | cons b body ih =>
      rw [List.mem_cons, not_or] at h
      obtain ⟨hb, hbody⟩ := h
      simp [cutLine, Ne.symm hb, ih hbody]

/-- A line that is whole in the first piece is not changed by later ones. -/
theorem cutLine_append {a line left : Bytes} (h : cutLine a = some (line, left)) (b : Bytes) :
    cutLine (a ++ b) = some (line, left ++ b) := by
  obtain ⟨body, hbody, rfl, rfl⟩ := cutLine_eq_some h
  have := cutLine_body hbody (left ++ b)
  simpa using this

/-- A piece without a line feed stands before the first line of the rest. -/
theorem cutLine_append_of_not_mem {a : Bytes} (h : lineFeed ∉ a) (b : Bytes) :
    cutLine (a ++ b) = (cutLine b).map fun cut => (a ++ cut.1, cut.2) := by
  cases hb : cutLine b with
  | none =>
      rw [cutLine_eq_none] at hb
      rw [Option.map_none, cutLine_eq_none, List.mem_append]
      exact fun hab => hab.elim h hb
  | some cut =>
      obtain ⟨line, left⟩ := cut
      obtain ⟨body, hbody, rfl, rfl⟩ := cutLine_eq_some hb
      have hab : lineFeed ∉ a ++ body := by simp [h, hbody]
      simpa using cutLine_body hab left

/-! ## Reading does not depend on the pieces -/

/-- A reader in the middle of a line gets its end from whichever piece has it. -/
theorem readLineFrom_brings {s : Source} {bytes : Bytes} (h : s.Brings bytes) (pending : Bytes) :
    (∃ line left s', cutLine bytes = some (line, left) ∧ s'.Brings left ∧
        readLineFrom pending s = (.ok (pending ++ line), s')) ∨
      cutLine bytes = none ∧ readLineFrom pending s = (.ok (pending ++ bytes), []) := by
  -- the reader goes through the pieces as they come, and `pending` is what it has kept of the line
  induction h generalizing pending with
  | done => exact .inr ⟨rfl, by rw [List.append_nil]; rfl⟩
  | interrupted _ ih => exact ih pending
  | @bytes rest later piece hrest ih =>
      rw [readLineFrom]
      cases hcut : cutLine piece with
      | some cut =>
          obtain ⟨line, left⟩ := cut
          exact .inl ⟨line, left ++ later, _, cutLine_append hcut later, .bytes left hrest, rfl⟩
      | none =>
          -- the whole piece belongs to the line that is being read
          rw [cutLine_append_of_not_mem (cutLine_eq_none.mp hcut)]
          rcases ih (pending ++ piece) with ⟨line, left, s', h1, h2, h3⟩ | ⟨h1, h2⟩
          · exact .inl ⟨piece ++ line, left, s', by rw [h1]; rfl, h2, by simp [h3]⟩
          · exact .inr ⟨by rw [h1]; rfl, by simp [h2]⟩

/-! ## All lines at once -/

/-- The lines of bytes: each but perhaps the last ends in its only line feed. -/
abbrev linesOf (bytes : Bytes) : List Bytes := Lines.splitAfter (· == lineFeed) bytes

theorem linesOf_of_cutLine {bytes line left : Bytes} (h : cutLine bytes = some (line, left)) :
    linesOf bytes = line :: linesOf left := by
  induction bytes generalizing line with
  | nil => simp [cutLine] at h
  | cons b rest ih =>
      by_cases hb : b = lineFeed
      · simp only [cutLine, hb, if_true, Option.some.injEq, Prod.mk.injEq] at h
        obtain ⟨rfl, rfl⟩ := h
        simp [linesOf, Lines.splitAfter, hb]
      · simp only [cutLine, hb, if_false, Option.map_eq_some_iff, Prod.mk.injEq] at h
        obtain ⟨⟨line', left'⟩, hcut, rfl, rfl⟩ := h
        have hrest := ih hcut
        simp only [linesOf] at hrest
        simp [linesOf, Lines.splitAfter, hb, hrest]

theorem linesOf_of_not_mem {bytes : Bytes} (h : lineFeed ∉ bytes) :
    linesOf bytes = if bytes = [] then [] else [bytes] := by
  induction bytes with
  | nil => rfl
  | cons b rest ih =>
      rw [List.mem_cons, not_or] at h
      obtain ⟨hb, hrest⟩ := h
      have htail := ih hrest
      simp only [linesOf] at htail
      cases rest with
      | nil => simp [linesOf, Lines.splitAfter, Ne.symm hb]
      | cons c rest =>
          rw [if_neg (List.cons_ne_nil c rest)] at htail
          rw [linesOf, Lines.splitAfter, htail]
          simp [Ne.symm hb]

/-- The line that a reader gets after `k` others; after the last one it gets nothing. -/
def lineAt (lines : List Bytes) (k : Nat) : Bytes := lines.getD k []

theorem lineAt_zero (lines : List Bytes) : lineAt lines 0 = lines.headD [] := by
  cases lines <;> rfl

theorem lineAt_tail (lines : List Bytes) (k : Nat) :
    lineAt lines.tail k = lineAt lines (k + 1) := by
  cases lines <;> rfl

/-- A source from which these lines will be read, one after another. -/
def Supplies (s : Source) (lines : List Bytes) : Prop :=
  ∃ bytes, s.Brings bytes ∧ lines = linesOf bytes

theorem Brings.supplies {s : Source} {bytes : Bytes} (h : s.Brings bytes) :
    s.Supplies (linesOf bytes) := ⟨bytes, h, rfl⟩

/-- Lines that will be read are bytes that arrive. -/
theorem Supplies.brings {s : Source} {lines : List Bytes} (h : s.Supplies lines) :
    s.Brings lines.flatten := by
  obtain ⟨bytes, hbytes, rfl⟩ := h
  rw [Lines.flatten_splitAfter]
  exact hbytes

/-- **A reader takes the next line off the list,** or finds nothing where there is none. -/
theorem Supplies.readLine {s : Source} {lines : List Bytes} (h : s.Supplies lines) :
    (s.readLine).1 = .ok (lineAt lines 0) ∧ (s.readLine).2.Supplies lines.tail := by
  obtain ⟨bytes, hs, rfl⟩ := h
  rw [lineAt_zero]
  rcases readLineFrom_brings hs [] with ⟨line, left, s', hcut, hs', hread⟩ | ⟨hcut, hread⟩
  · rw [Source.readLine, hread, linesOf_of_cutLine hcut]
    exact ⟨rfl, left, hs', rfl⟩
  · -- the last line may be without its line feed, or missing
    rw [Source.readLine, hread, linesOf_of_not_mem (cutLine_eq_none.mp hcut)]
    by_cases hb : bytes = []
    · rw [if_pos hb, hb]
      exact ⟨rfl, [], .done, rfl⟩
    · rw [if_neg hb]
      exact ⟨rfl, [], .done, rfl⟩

end Lockstep.Source
