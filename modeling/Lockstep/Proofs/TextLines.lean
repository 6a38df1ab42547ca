import Lockstep.Text.Blank
import Lockstep.Text.Lines

/-!
# Lines of a text and their ends

What a line of a text is, and what is left of it without its blanks, both said without a reader. A
line feed ends a line, and one carriage return before it belongs to the end as well; what stands
after the last line feed is a line too, unless it is empty. `divided_iff` says that `Lines.ofText`
finds these lines and no others.

A text without the blanks at its ends neither begins nor ends in a blank, and this determines it:
`trims_iff` says that it is what `Text.trim` leaves.
-/

namespace Lockstep

namespace Lines

/-! ## Pieces of a stream -/

section Pieces

variable {α : Type} {sep : α → Bool}

theorem splitAfter_body {body : List α} (h : ∀ a ∈ body, sep a = false) {a : α} (ha : sep a = true)
    (rest : List α) :
    splitAfter sep (body ++ a :: rest) = (body ++ [a]) :: splitAfter sep rest := by
  induction body with
  | nil => simp [splitAfter, ha]
  | cons b body ih =>
      obtain ⟨hb, hbody⟩ := List.forall_mem_cons.mp h
      have hrest := ih hbody
      rw [List.cons_append, splitAfter, hb, hrest]
      simp

theorem splitAfter_unfinished {body : List α} (h : ∀ a ∈ body, sep a = false) (hne : body ≠ []) :
    splitAfter sep body = [body] := by
  induction body with
  | nil => exact absurd rfl hne
  | cons b body ih =>
      obtain ⟨hb, hbody⟩ := List.forall_mem_cons.mp h
      rw [splitAfter, hb]
      by_cases hnil : body = []
      · subst hnil
        rfl
      · rw [ih hbody hnil]
        simp

/-- No piece is empty. -/
theorem ne_nil_of_mem_splitAfter {s piece : List α} (h : piece ∈ splitAfter sep s) :
    piece ≠ [] := by
  induction s generalizing piece with
  | nil => exact absurd h List.not_mem_nil
  | cons a rest ih =>
      rw [splitAfter] at h
      split at h
      · rcases List.mem_cons.mp h with rfl | hrest
        · exact List.cons_ne_nil _ _
        · exact ih hrest
      · split at h
        · rw [List.mem_singleton.mp h]
          exact List.cons_ne_nil _ _
        · rename_i first pieces hpieces
          rcases List.mem_cons.mp h with rfl | hrest
          · exact List.cons_ne_nil _ _
          · exact ih (by rw [hpieces]; exact List.mem_cons_of_mem _ hrest)

/-- A separator is where a stream can be taken apart. -/
theorem splitAfter_append {s : List α} {a : α} (ha : sep a = true) (rest : List α) :
    splitAfter sep (s ++ a :: rest) = splitAfter sep (s ++ [a]) ++ splitAfter sep rest := by
  induction s with
  | nil => simp [splitAfter, ha]
  | cons b s ih =>
      by_cases hb : sep b = true
      · simp [splitAfter, hb, ih]
      · -- the first piece goes on in `s`, where there is one because of `a`
        have hwhole := flatten_splitAfter sep (s ++ [a])
        cases hfirst : splitAfter sep (s ++ [a]) with
        | nil =>
            rw [hfirst] at hwhole
            simp at hwhole
        | cons piece pieces =>
            rw [hfirst] at ih
            simp [splitAfter, hb, ih, hfirst]

end Pieces

/-! ## Lines of a text -/

/-- The lines that a text is divided into. -/
inductive Divided : List Char → List (List Char) → Prop
  | nothing : Divided [] []
  /-- After the last line feed. -/
  | last {line : List Char} : line ≠ [] → '\n' ∉ line → Divided line [line]
  | feed {line rest : List Char} {lines : List (List Char)} :
      '\n' ∉ line → line.getLast? ≠ some '\r' → Divided rest lines →
      Divided (line ++ '\n' :: rest) (line :: lines)
  | returnFeed {line rest : List Char} {lines : List (List Char)} :
      '\n' ∉ line → Divided rest lines → Divided (line ++ '\r' :: '\n' :: rest) (line :: lines)

theorem sep_of_not_mem {line : List Char} (h : '\n' ∉ line) : ∀ c ∈ line, (c == '\n') = false := by
  intro c hc
  have hne : c ≠ '\n' := fun e => h (e ▸ hc)
  simpa using hne

theorem stripEnd_of_not_mem {line : List Char} (h : '\n' ∉ line) : stripEnd line = line := by
  have hnot : ∀ body, line.reverse ≠ '\n' :: body := by
    intro body hbody
    have hmem : '\n' ∈ line.reverse := by rw [hbody]; exact List.mem_cons_self
    exact h (List.mem_reverse.mp hmem)
  unfold stripEnd
  split
  · rename_i heq
    exact absurd heq (hnot _)
  · rename_i heq
    exact absurd heq (hnot _)
  · rfl

theorem stripEnd_feed {line : List Char} (h : line.getLast? ≠ some '\r') :
    stripEnd (line ++ ['\n']) = line := by
  have hreverse : (line ++ ['\n']).reverse = '\n' :: line.reverse := by simp
  unfold stripEnd
  rw [hreverse]
  split
  · rename_i body heq
    -- a carriage return before the line feed would be the last character of the line
    have hbody : line.reverse = '\r' :: body := (List.cons.inj heq).2
    rw [← List.head?_reverse, hbody] at h
    exact absurd rfl h
  · rename_i body _ heq
    rw [← (List.cons.inj heq).2, List.reverse_reverse]
  · rename_i hnot
    exact absurd rfl (hnot line.reverse)

theorem stripEnd_returnFeed (line : List Char) : stripEnd (line ++ ['\r', '\n']) = line := by
  have hreverse : (line ++ ['\r', '\n']).reverse = '\n' :: '\r' :: line.reverse := by simp
  unfold stripEnd
  rw [hreverse]
  exact List.reverse_reverse line

theorem ofText_last {line : List Char} (hne : line ≠ []) (h : '\n' ∉ line) :
    ofText line = [line] := by
  rw [ofText, splitAfter_unfinished (sep_of_not_mem h) hne, List.map_singleton,
    stripEnd_of_not_mem h]

theorem ofText_feed {line : List Char} (h : '\n' ∉ line) (hend : line.getLast? ≠ some '\r')
    (rest : List Char) : ofText (line ++ '\n' :: rest) = line :: ofText rest := by
  rw [ofText, splitAfter_body (sep_of_not_mem h) (by decide), List.map_cons, stripEnd_feed hend]
  rfl

theorem ofText_returnFeed {line : List Char} (h : '\n' ∉ line) (rest : List Char) :
    ofText (line ++ '\r' :: '\n' :: rest) = line :: ofText rest := by
  have hbody : '\n' ∉ line ++ ['\r'] := by simpa using h
  have htext : line ++ '\r' :: '\n' :: rest = (line ++ ['\r']) ++ '\n' :: rest := by simp
  rw [ofText, htext, splitAfter_body (sep_of_not_mem hbody) (by decide), List.map_cons,
    List.append_assoc]
  exact congrArg (· :: _) (stripEnd_returnFeed line)

/-- Lines that are written with a line feed after each are the lines of what was written. -/
theorem ofText_fed {lines : List (List Char)}
    (h : ∀ line ∈ lines, '\n' ∉ line ∧ line.getLast? ≠ some '\r') :
    ofText (lines.flatMap (· ++ ['\n'])) = lines := by
  induction lines with
  | nil => rfl
  | cons line rest ih =>
      obtain ⟨⟨hline, hend⟩, hrest⟩ := List.forall_mem_cons.mp h
      rw [List.flatMap_cons, List.append_assoc, List.singleton_append, ofText_feed hline hend,
        ih hrest]

/-- What follows a line feed has lines of its own. -/
theorem ofText_append {a : List Char} (ha : a = [] ∨ a.getLast? = some '\n') (b : List Char) :
    ofText (a ++ b) = ofText a ++ ofText b := by
  rcases ha with rfl | hlast
  · rfl
  · obtain ⟨s, rfl⟩ := List.getLast?_eq_some_iff.mp hlast
    have hsplit : splitAfter (· == '\n') (s ++ '\n' :: b) =
        splitAfter (· == '\n') (s ++ ['\n']) ++ splitAfter (· == '\n') b :=
      splitAfter_append rfl b
    rw [List.append_assoc, List.singleton_append, ofText, hsplit, List.map_append]
    rfl

theorem divided_ofText (text : List Char) : Divided text (ofText text) := by
  induction hn : text.length using Nat.strongRecOn generalizing text with
  | ind n ih =>
      subst hn
      by_cases hfeed : '\n' ∈ text
      · -- what follows the first line feed is shorter than the text
        obtain ⟨line, rest, rfl, hline⟩ := List.eq_append_cons_of_mem hfeed
        have hrest := ih rest.length (by simp; omega) rest rfl
        by_cases hend : line.getLast? = some '\r'
        · obtain ⟨body, rfl⟩ := List.getLast?_eq_some_iff.mp hend
          have hbody : '\n' ∉ body := fun hmem => hline (List.mem_append_left _ hmem)
          rw [List.append_assoc, List.singleton_append, ofText_returnFeed hbody]
          exact .returnFeed hbody hrest
        · rw [ofText_feed hline hend]
          exact .feed hline hend hrest
      · by_cases hne : text = []
        · rw [hne]
          exact .nothing
        · rw [ofText_last hne hfeed]
          exact .last hne hfeed

/-- **The lines of a text are those that it is divided into,** and it is divided in one way. -/
theorem divided_iff {text : List Char} {lines : List (List Char)} :
    Divided text lines ↔ lines = ofText text := by
  constructor
  · intro h
    induction h with
    | nothing => rfl
    | last hne hline => exact (ofText_last hne hline).symm
    | feed hline hend _ ih => rw [ofText_feed hline hend, ih]
    | returnFeed hline _ ih => rw [ofText_returnFeed hline, ih]
  · intro h
    rw [h]
    exact divided_ofText text

/-- No line contains a line feed. -/
theorem Divided.lineFeed_not_mem {text : List Char} {lines : List (List Char)}
    (h : Divided text lines) : ∀ line ∈ lines, '\n' ∉ line := by
  induction h with
  | nothing => exact List.forall_mem_nil _
  | last _ hline => exact List.forall_mem_singleton.mpr hline
  | feed hline _ _ ih => exact List.forall_mem_cons.mpr ⟨hline, ih⟩
  | returnFeed hline _ ih => exact List.forall_mem_cons.mpr ⟨hline, ih⟩

end Lines

/-! ## Blanks at the ends -/

namespace Text

/-- The second text is the first one without the blanks at its ends. -/
structure Trims (s t : List Char) : Prop where
  ends : ∃ front back, s = front ++ t ++ back ∧ (∀ c ∈ front, isBlank c = true) ∧
    ∀ c ∈ back, isBlank c = true
  head : ∀ c, t.head? = some c → isBlank c = false
  last : ∀ c, t.getLast? = some c → isBlank c = false

theorem trimStart_of_blanks {front : List Char} (h : ∀ c ∈ front, isBlank c = true)
    (s : List Char) : trimStart (front ++ s) = trimStart s := List.dropWhile_append_of_pos h

theorem trimEnd_of_blanks {back : List Char} (h : ∀ c ∈ back, isBlank c = true)
    (s : List Char) : trimEnd (s ++ back) = trimEnd s := by
  have hreverse : ∀ c ∈ back.reverse, isBlank c = true := by
    intro c hc
    exact h c (List.mem_reverse.mp hc)
  rw [trimEnd, dropTrailing, List.reverse_append, List.dropWhile_append_of_pos hreverse]
  rfl

theorem trimStart_of_head {s : List Char} (h : ∀ c, s.head? = some c → isBlank c = false) :
    trimStart s = s := by
  cases s with
  | nil => rfl
  | cons c rest => exact List.dropWhile_cons_of_neg (by simp [h c rfl])

theorem trimEnd_of_last {s : List Char} (h : ∀ c, s.getLast? = some c → isBlank c = false) :
    trimEnd s = s := by
  have hreverse := trimStart_of_head (s := s.reverse) (by simpa using h)
  rw [trimStart] at hreverse
  rw [trimEnd, dropTrailing, hreverse, List.reverse_reverse]

theorem Trims.eq_trim {s t : List Char} (h : Trims s t) : t = trim s := by
  obtain ⟨⟨front, back, rfl, hfront, hback⟩, hhead, hlast⟩ := h
  rw [trim, List.append_assoc, trimStart_of_blanks hfront]
  by_cases ht : t = []
  · -- nothing but blanks
    subst ht
    have hnothing : trimStart back = [] := by
      have hall := trimStart_of_blanks hback []
      rwa [List.append_nil] at hall
    rw [List.nil_append, hnothing]
    rfl
  · have hstart : trimStart (t ++ back) = t ++ back := by
      refine trimStart_of_head ?_
      intro c hc
      obtain ⟨d, rest, rfl⟩ := List.exists_cons_of_ne_nil ht
      exact hhead c hc
    rw [hstart, trimEnd_of_blanks hback, trimEnd_of_last hlast]

theorem trims_trim (s : List Char) : Trims s (trim s) := by
  have hall : ∀ (l : List Char), ∀ c ∈ l.takeWhile isBlank, isBlank c = true :=
    fun l c hc => List.all_eq_true.mp List.all_takeWhile c hc
  have hhead : ∀ (l : List Char), ∀ c, (l.dropWhile isBlank).head? = some c → isBlank c = false := by
    intro l c hc
    have hnot := List.head?_dropWhile_not isBlank l
    rw [hc] at hnot
    simpa using hnot
  have hstart : s = s.takeWhile isBlank ++ trimStart s := List.takeWhile_append_dropWhile.symm
  have hend : trimStart s = trim s ++ ((trimStart s).reverse.takeWhile isBlank).reverse := by
    rw [trim, trimEnd, dropTrailing, ← List.reverse_append, List.takeWhile_append_dropWhile,
      List.reverse_reverse]
  refine ⟨⟨_, ((trimStart s).reverse.takeWhile isBlank).reverse, ?_, hall s, ?_⟩, ?_, ?_⟩
  · rw [List.append_assoc, ← hend]
    exact hstart
  · intro c hc
    exact hall _ c (List.mem_reverse.mp hc)
  · -- blanks at the end are taken off a text that has lost those in front of it
    intro c hc
    refine hhead s c ?_
    rw [trimStart] at hend
    rw [hend, List.head?_append, hc]
    rfl
  · intro c hc
    refine hhead (trimStart s).reverse c ?_
    rwa [trim, trimEnd, dropTrailing, List.getLast?_reverse] at hc

/-- **Trimming takes off the blanks at the ends,** and nothing else does. -/
theorem trims_iff {s t : List Char} : Trims s t ↔ t = trim s := by
  constructor
  · exact Trims.eq_trim
  · intro h
    rw [h]
    exact trims_trim s

theorem Trims.self {s t : List Char} (h : Trims s t) : Trims t t :=
  ⟨⟨[], [], by simp, by simp, by simp⟩, h.head, h.last⟩

/-- What is left was there before. -/
theorem Trims.mem {s t : List Char} (h : Trims s t) {c : Char} (hc : c ∈ t) : c ∈ s := by
  obtain ⟨front, back, rfl, -, -⟩ := h.ends
  simp [hc]

end Text

end Lockstep
