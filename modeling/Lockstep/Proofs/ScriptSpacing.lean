import Lockstep.Proofs.TextLines
import Lockstep.Script.Statement

/-!
# Spacing of a script

A script is the same however its lines end and whatever blanks stand at their ends. Line feeds may
become carriage returns with line feeds, and blanks may be added in front of a line and after it, as
often as one likes: `parse_relaid` says that what is read stays what it was, and a text that is no
script stays none for the same reason.

The reader looks at a line only through `Text.trim`, so two texts whose lines agree without their
blanks are read alike (`parse_congr`). A carriage return and a line feed are blanks as well. So it
does not matter which of them belong to a line and which to its end (`trimmed_ofText`), and both
changes of a text can be followed on its pieces.
-/

namespace Lockstep

open Text (isBlank trim)

/-! ## Blanks that are taken off -/

namespace Text

/-- Blanks that stand on one line. -/
def Spacing (s : List Char) : Prop := ∀ c ∈ s, isBlank c = true ∧ c ≠ '\n'

/-- Whether a text is spacing shows in its characters. -/
instance (s : List Char) : Decidable (Spacing s) := List.decidableBAll _ s

theorem spacing_nil : Spacing [] := List.forall_mem_nil _

theorem spacing_return : Spacing ['\r'] := by decide

theorem Spacing.append {s t : List Char} (hs : Spacing s) (ht : Spacing t) : Spacing (s ++ t) :=
  List.forall_mem_append.mpr ⟨hs, ht⟩

theorem Spacing.blank {s : List Char} (h : Spacing s) : ∀ c ∈ s, isBlank c = true :=
  fun c hc => (h c hc).1

theorem Spacing.lineFeed_not_mem {s : List Char} (h : Spacing s) : '\n' ∉ s :=
  fun hmem => (h '\n' hmem).2 rfl

/-- Blanks that are added at the ends are taken off again. -/
theorem trim_added {front back : List Char} (hfront : ∀ c ∈ front, isBlank c = true)
    (hback : ∀ c ∈ back, isBlank c = true) (s : List Char) :
    trim (front ++ s ++ back) = trim s := by
  obtain ⟨⟨before, after, hs, hbefore, hafter⟩, hhead, hlast⟩ := trims_trim s
  have htrims : Trims (front ++ s ++ back) (trim s) := by
    refine ⟨⟨front ++ before, after ++ back, ?_, ?_, ?_⟩, hhead, hlast⟩
    · calc front ++ s ++ back
        _ = front ++ (before ++ trim s ++ after) ++ back := by rw [← hs]
        _ = front ++ before ++ trim s ++ (after ++ back) := by simp
    · exact List.forall_mem_append.mpr ⟨hfront, hbefore⟩
    · exact List.forall_mem_append.mpr ⟨hafter, hback⟩
  exact htrims.eq_trim.symm

theorem trim_append_blanks {back : List Char} (h : ∀ c ∈ back, isBlank c = true) (s : List Char) :
    trim (s ++ back) = trim s := trim_added spacing_nil.blank h s

end Text

open Text (Spacing spacing_nil spacing_return trim_added trim_append_blanks)

/-! ## Pieces of a text -/

namespace Lines

/-- The lines of a text with their line feeds. -/
abbrev pieces (text : List Char) : List (List Char) := splitAfter (· == '\n') text

theorem blank_feed : ∀ c ∈ ['\n'], isBlank c = true := List.forall_mem_singleton.mpr (by decide)

theorem blank_returnFeed : ∀ c ∈ ['\r', '\n'], isBlank c = true :=
  List.forall_mem_cons.mpr ⟨by decide, blank_feed⟩

/-- The end of a line is made of blanks. -/
theorem trim_stripEnd (line : List Char) : trim (stripEnd line) = trim line := by
  unfold stripEnd
  split
  · rename_i body heq
    have hline : line = body.reverse ++ ['\r', '\n'] := by
      rw [← List.reverse_reverse line, heq]
      simp
    rw [hline, trim_append_blanks blank_returnFeed]
  · rename_i body _ heq
    have hline : line = body.reverse ++ ['\n'] := by
      rw [← List.reverse_reverse line, heq]
      simp
    rw [hline, trim_append_blanks blank_feed]
  · rfl

/-- It does not matter where the text of a line stops and its end begins. -/
theorem trimmed_ofText (text : List Char) :
    (ofText text).map trim = (pieces text).map trim := by
  rw [ofText, List.map_map]
  refine List.map_congr_left ?_
  intro line _
  exact trim_stripEnd line

/-- A line counts without its blanks, and its line feed is one. -/
theorem trimmed_feed {line : List Char} (h : '\n' ∉ line) (rest : List Char) :
    (pieces (line ++ '\n' :: rest)).map trim = trim line :: (pieces rest).map trim := by
  have hfirst : pieces (line ++ '\n' :: rest) = (line ++ ['\n']) :: pieces rest :=
    splitAfter_body (sep_of_not_mem h) rfl rest
  rw [hfirst, List.map_cons, trim_append_blanks blank_feed]

theorem trimmed_last {line : List Char} (h : '\n' ∉ line) (hne : line ≠ []) :
    (pieces line).map trim = [trim line] := by
  have hline : pieces line = [line] := splitAfter_unfinished (sep_of_not_mem h) hne
  rw [hline, List.map_singleton]

/-! ## Texts that differ in their spacing -/

/-- The text with a carriage return before each line feed. -/
def withReturns (text : List Char) : List Char :=
  text.flatMap fun c => if c = '\n' then ['\r', '\n'] else [c]

/-- The second text is the first one with blanks added at the ends of its lines. A carriage return
before a line feed may belong to the line or to its end. -/
inductive Spaced : List Char → List Char → Prop
  | nothing : Spaced [] []
  /-- After the last line feed. -/
  | last {line front back : List Char} : line ≠ [] → '\n' ∉ line → Spacing front → Spacing back →
      Spaced line (front ++ line ++ back)
  | feed {line front back rest rest' : List Char} : '\n' ∉ line → Spacing front → Spacing back →
      Spaced rest rest' → Spaced (line ++ '\n' :: rest) (front ++ line ++ back ++ '\n' :: rest')
  | returnFeed {line front back rest rest' : List Char} : '\n' ∉ line → Spacing front →
      Spacing back → Spaced rest rest' →
      Spaced (line ++ '\r' :: '\n' :: rest) (front ++ line ++ back ++ '\r' :: '\n' :: rest')

/-- The second text is what such changes make of the first one, one after another. -/
inductive Relaid : List Char → List Char → Prop
  | same {text : List Char} : Relaid text text
  | returns {text other : List Char} : Relaid text other → Relaid text (withReturns other)
  | spaced {text other another : List Char} : Relaid text other → Spaced other another →
      Relaid text another

theorem withReturns_of_not_mem {line : List Char} (h : '\n' ∉ line) : withReturns line = line := by
  induction line with
  | nil => rfl
  | cons c rest ih =>
      rw [List.mem_cons, not_or] at h
      obtain ⟨hc, hrest⟩ := h
      have hkeep : withReturns (c :: rest) = [c] ++ withReturns rest := by
        rw [withReturns, List.flatMap_cons, if_neg (Ne.symm hc)]
        rfl
      rw [hkeep, ih hrest]
      rfl

theorem withReturns_feed {line : List Char} (h : '\n' ∉ line) (rest : List Char) :
    withReturns (line ++ '\n' :: rest) = line ++ '\r' :: '\n' :: withReturns rest := by
  have hline := withReturns_of_not_mem h
  rw [withReturns] at hline
  rw [withReturns, List.flatMap_append, hline, List.flatMap_cons, if_pos rfl]
  rfl

/-- A carriage return before a line feed is a blank at the end of the line. -/
theorem spaced_withReturns (text : List Char) : Spaced text (withReturns text) := by
  obtain ⟨lines, hlines⟩ : ∃ lines, Divided text lines := ⟨_, divided_ofText text⟩
  induction hlines with
  | nothing => exact .nothing
  | last hne hline =>
      have hsame := Spaced.last hne hline spacing_nil spacing_nil
      rw [withReturns_of_not_mem hline]
      simpa using hsame
  | feed hline _ _ ih =>
      have hmore := Spaced.feed hline spacing_nil spacing_return ih
      rw [withReturns_feed hline]
      simpa using hmore
  | @returnFeed line rest _ hline _ ih =>
      -- the carriage return that was there is a part of the line now
      have hreturned : '\n' ∉ line ++ ['\r'] := by simpa using hline
      have htext : line ++ '\r' :: '\n' :: rest = line ++ ['\r'] ++ '\n' :: rest := by simp
      have hmore := Spaced.returnFeed hline spacing_nil spacing_return ih
      rw [htext, withReturns_feed hreturned]
      simpa using hmore

/-- **Spacing is taken off with the blanks of a line.** -/
theorem Spaced.trimmed {text other : List Char} (h : Spaced text other) :
    (ofText other).map trim = (ofText text).map trim := by
  rw [trimmed_ofText, trimmed_ofText]
  -- what is added to a line contains no line feed, so the lines stay the same lines
  have hadded : ∀ {line front back : List Char}, '\n' ∉ line → Spacing front → Spacing back →
      '\n' ∉ front ++ line ++ back := by
    intro line front back hline hfront hback
    simp [hline, hfront.lineFeed_not_mem, hback.lineFeed_not_mem]
  induction h with
  | nothing => rfl
  | @last line front back hne hline hfront hback =>
      have hother : front ++ line ++ back ≠ [] := by simp [hne]
      rw [trimmed_last hline hne, trimmed_last (hadded hline hfront hback) hother,
        trim_added hfront.blank hback.blank]
  | feed hline hfront hback _ ih =>
      rw [trimmed_feed hline, trimmed_feed (hadded hline hfront hback), ih,
        trim_added hfront.blank hback.blank]
  | @returnFeed line front back rest rest' hline hfront hback _ ih =>
      -- the carriage return goes with the blanks, before as after
      have htext : line ++ '\r' :: '\n' :: rest = [] ++ line ++ ['\r'] ++ '\n' :: rest := by simp
      have hother : front ++ line ++ back ++ '\r' :: '\n' :: rest' =
          front ++ line ++ (back ++ ['\r']) ++ '\n' :: rest' := by simp
      have hback' := hback.append spacing_return
      rw [htext, hother, trimmed_feed (hadded hline spacing_nil spacing_return),
        trimmed_feed (hadded hline hfront hback'), ih, trim_added hfront.blank hback'.blank,
        trim_added spacing_nil.blank spacing_return.blank]

theorem Relaid.trimmed {text other : List Char} (h : Relaid text other) :
    (ofText other).map trim = (ofText text).map trim := by
  induction h with
  | same => rfl
  | returns _ ih => rw [(spaced_withReturns _).trimmed, ih]
  | spaced _ hspaced ih => rw [hspaced.trimmed, ih]

end Lines

/-! ## What is read -/

namespace Script

open Lines (Relaid withReturns)

/-- A line is read without the blanks at its ends. -/
theorem readLine_congr {text other : List Char} (h : trim text = trim other) (line : UInt32) :
    readLine line text = readLine line other := by
  unfold readLine
  rw [h]

theorem readLines_congr {lines others : List (List Char)} (h : lines.map trim = others.map trim)
    (number : Nat) : readLines number lines = readLines number others := by
  induction lines generalizing others number with
  | nil =>
      rw [List.map_nil] at h
      rw [List.map_eq_nil_iff.mp h.symm]
  | cons line rest ih =>
      cases others with
      | nil => exact nomatch h
      | cons other others =>
          rw [List.map_cons, List.map_cons, List.cons.injEq] at h
          rw [readLines, readLines, readLine_congr h.1, ih h.2]

/-- Texts are read alike whose lines agree without their blanks. -/
theorem parse_congr {text other : List Char}
    (h : (Lines.ofText text).map trim = (Lines.ofText other).map trim) :
    parse text = parse other := readLines_congr h 1

/--
**Line ends and blanks at the ends of lines do not change a script.** Carriage returns may be put
before all line feeds, and blanks may be added at the beginning and the end of any lines, one change
after another: the statements stay the same, or the flaw does.
-/
theorem parse_relaid {text other : List Char} (h : Relaid text other) :
    parse other = parse text := parse_congr h.trimmed

/-- A tabulator in front of a repetition, a space that does not break after it, and a carriage
return at its end: it is the same repetition. -/
theorem parse_relaid_repetition :
    let text := "repeat 2: a\nb".toList
    let other := "\t repeat 2: a\u00a0\r\nb  ".toList
    Relaid text other ∧ parse other = parse text ∧ parse other = .ok [⟨1, "a", 2⟩, ⟨2, "b", 1⟩] := by
  intro text other
  have hlast : Lines.Spaced ['b'] ([] ++ ['b'] ++ [' ', ' ']) :=
    .last (by decide) (by decide) (by decide) (by decide)
  have hspaced : Lines.Spaced ("repeat 2: a".toList ++ '\r' :: '\n' :: ['b'])
      (['\t', ' '] ++ "repeat 2: a".toList ++ ['\u00a0'] ++
        '\r' :: '\n' :: ([] ++ ['b'] ++ [' ', ' '])) :=
    .returnFeed (by decide) (by decide) (by decide) hlast
  have hrelaid : Relaid text other := .spaced (.returns .same) hspaced
  have hsame := parse_relaid hrelaid
  have hread : parse text = .ok [⟨1, "a", 2⟩, ⟨2, "b", 1⟩] := rfl
  exact ⟨hrelaid, hsame, hsame.trans hread⟩

end Script

end Lockstep
