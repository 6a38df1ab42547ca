import Lockstep.Proofs.MessageText
import Lockstep.Proofs.ScriptParse

/-!
# Scripts written out

Every list of statements that could have been read from a script can be written as one. A statement
is written as a repetition on its line, with its count in digits and its command as it is, and all
other lines may hold anything that is no statement. What was written is what is read
(`placed_read`): the first colon is the one behind the count whatever the command holds, and a
command is never taken for a comment or for a repetition of its own.

`Placed` says where on a sheet of lines the statements stand, counting from any number, and goes
down the lines one by one (`Placed.tail`), as the reader does.
-/

namespace Lockstep

open Decimal (max32 digits)
open Text (isBlank Trims trims_iff trims_trim)

/-- The statement as a repetition. -/
def Statement.text (s : Statement) : List Char :=
  Script.repeatWord ++ (digits s.repeats ++ ':' :: ' ' :: s.command.toList)

namespace Text

/-- A character that is no blank stays in front of what comes after it. -/
theorem exists_trim_cons {c : Char} (hc : isBlank c = false) {front : List Char}
    (hfront : ∀ c ∈ front, isBlank c = true) (text : List Char) :
    ∃ t, trim (front ++ c :: text) = c :: t := by
  have hstart : trimStart (front ++ c :: text) = c :: text := by
    rw [trimStart_of_blanks hfront]
    exact List.dropWhile_cons_of_neg (by simp [hc])
  have hend : (text.reverse ++ [c]).dropWhile isBlank = text.reverse.dropWhile isBlank ++ [c] := by
    rw [List.dropWhile_append]
    split
    · rename_i hnothing
      rw [List.isEmpty_iff.mp hnothing]
      exact List.dropWhile_cons_of_neg (by simp [hc])
    · rfl
  refine ⟨(text.reverse.dropWhile isBlank).reverse, ?_⟩
  rw [trim, hstart, trimEnd, dropTrailing, List.reverse_cons, hend]
  simp

end Text

namespace Decimal

theorem isBlank_of_isDigit {c : Char} (h : isDigit c = true) : isBlank c = false := by
  simp only [isDigit, Bool.and_eq_true, decide_eq_true_eq] at h
  simp only [isBlank, Bool.or_eq_false_iff, Bool.and_eq_false_iff, decide_eq_false_iff_not,
    beq_eq_false_iff_ne]
  omega

/-- A numeral has no blanks at its ends. -/
theorem trims_digits (n : Nat) : Trims (digits n) (digits n) := by
  have hblank : ∀ c ∈ digits n, isBlank c = false :=
    fun c hc => isBlank_of_isDigit (Json.isDigit_of_mem_digits hc)
  refine ⟨⟨[], [], by simp, nofun, nofun⟩, ?_, ?_⟩
  · intro c hc
    exact hblank c (List.mem_of_head? hc)
  · intro c hc
    exact hblank c (List.mem_of_getLast? hc)

/-- **A number is spelled by its digits.** -/
theorem naturalText_digits (n : Nat) : NaturalText (digits n) n := by
  have hspelled := NaturalText.plain (Json.wholeText_digits n).digits
  rwa [Json.natOf_digits] at hspelled

theorem colon_not_mem_digits (n : Nat) : ':' ∉ digits n := by
  intro h
  exact absurd (Json.isDigit_of_mem_digits h) (by decide)

end Decimal

namespace Script

variable {number : Nat} {line : List Char} {lines rest : List (List Char)}
  {script later : List Statement} {s : Statement}

/-! ## One line -/

/-- A line that is no statement: it is blank, or a comment. -/
inductive Idle : List Char → Prop
  | blank {line : List Char} : (∀ c ∈ line, isBlank c = true) → Idle line
  | comment {front text : List Char} : (∀ c ∈ front, isBlank c = true) →
      Idle (front ++ '#' :: text)

theorem Idle.holds (h : Idle line) : Holds number line none := by
  cases h with
  | blank hblank => exact .blank ⟨⟨line, [], by simp, hblank, nofun⟩, nofun, nofun⟩
  | @comment front text hfront =>
      obtain ⟨t, ht⟩ := Text.exists_trim_cons (c := '#') (by decide) hfront text
      have htrims := trims_trim (front ++ '#' :: text)
      rw [ht] at htrims
      exact .comment htrims

theorem Tidy.command_ne_nil (h : Tidy s) : s.command.toList ≠ [] := by
  intro hnil
  exact h.nonempty (String.toList_inj.mp hnil)

/-- A statement ends as its command does. -/
theorem Tidy.getLast?_text (h : Tidy s) : s.text.getLast? = s.command.toList.getLast? := by
  have htext : s.text = repeatWord ++ digits s.repeats ++ [':', ' '] ++ s.command.toList := by
    simp [Statement.text]
  rw [htext, List.getLast?_append_of_ne_nil _ h.command_ne_nil]

/-- The first colon of a statement is the one behind its count. -/
theorem Tidy.repetition (h : Tidy s) :
    Repetition (digits s.repeats ++ ':' :: ' ' :: s.command.toList) s.repeats s.command.toList := by
  obtain ⟨-, hhead, hlast⟩ := h.trimmed
  have hcommand : Trims (' ' :: s.command.toList) s.command.toList := by
    have hspace : ∀ c ∈ [' '], isBlank c = true := List.forall_mem_singleton.mpr (by decide)
    exact ⟨⟨[' '], [], by simp, hspace, nofun⟩, hhead, hlast⟩
  exact ⟨⟨_, _, _, rfl, Decimal.colon_not_mem_digits _, Decimal.trims_digits _,
    Decimal.naturalText_digits _, hcommand⟩, h.positive, h.bounded, h.command_ne_nil⟩

/-- **A statement is what its line holds.** -/
theorem Tidy.holds_text (h : Tidy s) : Holds s.line.toNat s.text (some s) := by
  have htrims : Trims s.text s.text := by
    refine ⟨⟨[], [], by simp, nofun, nofun⟩, ?_, ?_⟩
    · intro c hc
      obtain rfl := Option.some.inj hc
      decide
    · intro c hc
      rw [h.getLast?_text] at hc
      exact h.trimmed.last c hc
  exact .repeated htrims h.repetition rfl String.ofList_toList.symm

/-! ## Where statements stand -/

/-- The script stands on these lines, the first of which has this number: each statement on its own
line, and nothing on the others. -/
structure Placed (number : Nat) (lines : List (List Char)) (script : List Statement) : Prop where
  written : ∀ s ∈ script, number ≤ s.line.toNat ∧
    lines[s.line.toNat - number]? = some s.text
  others : ∀ i line, lines[i]? = some line → (∀ s ∈ script, s.line.toNat ≠ number + i) → Idle line

/-- Below the first line stand all statements but those on it. -/
theorem Placed.tail (h : Placed number (line :: rest) script)
    (hlater : ∀ s ∈ later, s ∈ script ∧ number < s.line.toNat)
    (hgone : ∀ s ∈ script, s ∈ later ∨ s.line.toNat = number) :
    Placed (number + 1) rest later := by
  refine ⟨?_, ?_⟩
  · intro s hs
    obtain ⟨hmem, hlt⟩ := hlater s hs
    obtain ⟨-, htext⟩ := h.written s hmem
    have hindex : s.line.toNat - number = s.line.toNat - (number + 1) + 1 := by omega
    rw [hindex, List.getElem?_cons_succ] at htext
    exact ⟨hlt, htext⟩
  · intro i text htext hfree
    refine h.others (i + 1) text htext ?_
    intro s hs
    rcases hgone s hs with hmem | hfirst
    · have hne := hfree s hmem
      omega
    · omega

/-- **The lines say what was placed on them.** -/
theorem Placed.says (h : Placed number lines script) (hlines : script.Pairwise (·.line < ·.line))
    (htidy : ∀ s ∈ script, Tidy s) : Says number lines script := by
  induction lines generalizing number script with
  | nil =>
      cases script with
      | nil => exact .done
      | cons s later => exact nomatch (h.written s List.mem_cons_self).2
  | cons line rest ih =>
      by_cases hfree : ∀ s ∈ script, s.line.toNat ≠ number
      · -- nothing stands on the first line
        have hidle : Idle line := h.others 0 line rfl hfree
        have hrest : Placed (number + 1) rest script := by
          refine h.tail ?_ (fun s hs => .inl hs)
          intro s hs
          have hle := (h.written s hs).1
          have hne := hfree s hs
          exact ⟨hs, by omega⟩
        exact .skip hidle.holds (ih hrest hlines htidy)
      · cases script with
        | nil => exact absurd (List.forall_mem_nil _) hfree
        | cons s later =>
            obtain ⟨hs, hlater⟩ := List.pairwise_cons.mp hlines
            obtain ⟨hstidy, hltidy⟩ := List.forall_mem_cons.mp htidy
            have hle := (h.written s List.mem_cons_self).1
            -- a statement on the first line can only be the first one
            have hfirst : s.line.toNat = number := by
              by_contra hne
              refine hfree (List.forall_mem_cons.mpr ⟨hne, ?_⟩)
              intro t ht
              have hlt := UInt32.lt_iff_toNat_lt.mp (hs t ht)
              omega
            have htext := (h.written s List.mem_cons_self).2
            rw [hfirst, Nat.sub_self] at htext
            obtain rfl := Option.some.inj htext
            have hrest : Placed (number + 1) rest later := by
              refine h.tail ?_ ?_
              · intro t ht
                have hlt := UInt32.lt_iff_toNat_lt.mp (hs t ht)
                exact ⟨List.mem_cons_of_mem _ ht, by omega⟩
              · intro t ht
                rcases List.mem_cons.mp ht with rfl | hmem
                · exact .inr hfirst
                · exact .inl hmem
            exact .state (hfirst ▸ hstidy.holds_text) (ih hrest hlater hltidy)

/-! ## A sheet for every script -/

/-- The number of the last line that a statement stands on. -/
def lastLine (script : List Statement) : Nat :=
  script.foldr (fun s n => max s.line.toNat n) 0

/-- What stands below so many lines. -/
def row (script : List Statement) (i : Nat) : List Char :=
  ((script.find? fun s => s.line.toNat == i + 1).map Statement.text).getD []

/-- The lines of a script, with nothing on those where no statement stands. -/
def rows (script : List Statement) : List (List Char) :=
  (List.range (lastLine script)).map (row script)

/-- The script as a text. -/
def render (script : List Statement) : List Char := (rows script).flatMap (· ++ ['\n'])

theorem lastLine_le {n : Nat} (h : ∀ s ∈ script, s.line.toNat ≤ n) : lastLine script ≤ n := by
  induction script with
  | nil => exact Nat.zero_le n
  | cons s later ih =>
      obtain ⟨hs, hlater⟩ := List.forall_mem_cons.mp h
      exact Nat.max_le.mpr ⟨hs, ih hlater⟩

theorem le_lastLine : ∀ s ∈ script, s.line.toNat ≤ lastLine script := by
  induction script with
  | nil => exact List.forall_mem_nil _
  | cons s later ih =>
      refine List.forall_mem_cons.mpr ⟨Nat.le_max_left _ _, ?_⟩
      intro t ht
      exact (ih t ht).trans (Nat.le_max_right _ _)

/-- One statement stands on its line and no other. -/
theorem find?_line (hlines : script.Pairwise (·.line < ·.line)) (hs : s ∈ script) :
    (script.find? fun t => t.line.toNat == s.line.toNat) = some s := by
  induction script with
  | nil => exact absurd hs List.not_mem_nil
  | cons t later ih =>
      obtain ⟨ht, hlater⟩ := List.pairwise_cons.mp hlines
      rcases List.mem_cons.mp hs with rfl | hmem
      · exact List.find?_cons_of_pos (beq_self_eq_true _)
      · have hlt := UInt32.lt_iff_toNat_lt.mp (ht s hmem)
        have hne : ¬ (t.line.toNat == s.line.toNat) = true := by
          rw [beq_iff_eq]
          omega
        exact (List.find?_cons_of_neg (l := later) hne).trans (ih hlater hmem)

/-- A row is empty, or a statement stands on it. -/
theorem row_cases (script : List Statement) (i : Nat) :
    row script i = [] ∨ ∃ s ∈ script, s.line.toNat = i + 1 ∧ row script i = s.text := by
  rw [row]
  cases hfind : script.find? fun s => s.line.toNat == i + 1 with
  | none => exact .inl rfl
  | some s =>
      have hline := List.find?_some hfind
      exact .inr ⟨s, List.mem_of_find?_eq_some hfind, beq_iff_eq.mp hline, rfl⟩

/-- The statements stand on their rows. -/
theorem placed_rows (hlines : script.Pairwise (·.line < ·.line))
    (hfirst : ∀ s ∈ script, 1 ≤ s.line.toNat) : Placed 1 (rows script) script := by
  refine ⟨?_, ?_⟩
  · intro s hs
    have hone := hfirst s hs
    have hlast := le_lastLine s hs
    have hindex : s.line.toNat - 1 + 1 = s.line.toNat := by omega
    refine ⟨hone, ?_⟩
    rw [rows, List.getElem?_map, List.getElem?_range (by omega), Option.map_some, row, hindex,
      find?_line hlines hs]
    rfl
  · intro i line hline hfree
    rw [rows, List.getElem?_map, Option.map_eq_some_iff] at hline
    obtain ⟨j, hj, rfl⟩ := hline
    obtain ⟨hlt, rfl⟩ := List.getElem?_eq_some_iff.mp hj
    rw [List.getElem_range]
    rcases row_cases script i with hrow | ⟨s, hs, hrow, -⟩
    · rw [hrow]
      exact .blank (List.forall_mem_nil _)
    · have hne := hfree s hs
      omega

theorem Tidy.lineFeed_not_mem_text (h : Tidy s) : '\n' ∉ s.text := by
  have hdigits := Json.lineFeed_not_mem_digits s.repeats
  have hword : '\n' ∉ repeatWord := by decide
  simp [Statement.text, hdigits, hword, h.oneLine]

/-- A statement does not end in a carriage return. -/
theorem Tidy.getLast?_text_ne (h : Tidy s) : s.text.getLast? ≠ some '\r' := by
  rw [h.getLast?_text]
  intro hlast
  exact absurd (h.trimmed.last _ hlast) (by decide)

/-- The lines of the text are the rows. -/
theorem ofText_render (htidy : ∀ s ∈ script, Tidy s) :
    Lines.ofText (render script) = rows script := by
  refine Lines.ofText_fed ?_
  intro line hline
  obtain ⟨i, -, rfl⟩ := List.mem_map.mp hline
  rcases row_cases script i with hrow | ⟨s, hs, -, hrow⟩
  · rw [hrow]
    exact ⟨List.not_mem_nil, nofun⟩
  · rw [hrow]
    exact ⟨(htidy s hs).lineFeed_not_mem_text, (htidy s hs).getLast?_text_ne⟩

/--
**Every list of statements can be written as a script.** The statements stand on later and later
lines, counted from one, and each is a command without blanks at its ends that is on one line and
runs at least once. A text is read as exactly these statements if each of them is written as a
repetition on its line and the other lines, which are no more than there are numbers, are blank or
comments. There is such a text.
-/
theorem placed_read (hlines : script.Pairwise (·.line < ·.line))
    (hfirst : ∀ s ∈ script, 1 ≤ s.line.toNat) (htidy : ∀ s ∈ script, Tidy s) :
    (∀ text, (Lines.ofText text).length ≤ max32 → Placed 1 (Lines.ofText text) script →
        parse text = .ok script) ∧
      ∃ text, (Lines.ofText text).length ≤ max32 ∧ Placed 1 (Lines.ofText text) script := by
  refine ⟨?_, render script, ?_, ?_⟩
  · intro text hlength hplaced
    exact parse_eq_ok_iff.mpr ⟨hlength, hplaced.says hlines htidy⟩
  · have hbound : ∀ s ∈ script, s.line.toNat ≤ max32 := by
      intro s _
      have hlt := s.line.toNat_lt
      rw [max32]
      omega
    rw [ofText_render htidy, rows, List.length_map, List.length_range]
    exact lastLine_le hbound
  · rw [ofText_render htidy]
    exact placed_rows hlines hfirst

/-- A command that looks like a comment and one that looks like a repetition, between a comment, a
line of blanks and a line that ends with a carriage return. -/
theorem placed_read_lookalikes :
    let script : List Statement := [⟨2, "# a: b", 3⟩, ⟨4, "repeat 2: c", 4294967295⟩]
    let text := "# x\nrepeat 3: # a: b\r\n\t\nrepeat 4294967295: repeat 2: c".toList
    script.Pairwise (·.line < ·.line) ∧ (∀ s ∈ script, 1 ≤ s.line.toNat) ∧
      (∀ s ∈ script, Tidy s) ∧ (Lines.ofText text).length ≤ max32 ∧
      Placed 1 (Lines.ofText text) script ∧ parse text = .ok script := by
  intro script text
  have hlines : script.Pairwise (·.line < ·.line) := by decide
  have hfirst : ∀ s ∈ script, 1 ≤ s.line.toNat := by decide
  have htidy : ∀ s ∈ script, Tidy s := by
    refine List.forall_mem_cons.mpr ⟨?_, List.forall_mem_singleton.mpr ?_⟩
    · exact ⟨by decide, by decide, by decide, by decide, trims_iff.mpr (by decide)⟩
    · exact ⟨by decide, by decide, by decide, by decide, trims_iff.mpr (by decide)⟩
  have htext : Lines.ofText text = ["# x".toList, "repeat 3: # a: b".toList, ['\t'],
      "repeat 4294967295: repeat 2: c".toList] := by decide
  have hlength : (Lines.ofText text).length ≤ max32 := by
    rw [htext]
    decide
  have hplaced : Placed 1 (Lines.ofText text) script := by
    rw [htext]
    refine ⟨by decide +kernel, ?_⟩
    intro i line hline hfree
    match i with
    | 0 =>
        obtain rfl := Option.some.inj hline
        have hcomment : Idle ([] ++ '#' :: [' ', 'x']) := .comment (List.forall_mem_nil _)
        exact hcomment
    | 1 => exact absurd rfl (hfree _ List.mem_cons_self)
    | 2 =>
        obtain rfl := Option.some.inj hline
        exact .blank (List.forall_mem_singleton.mpr (by decide))
    | 3 => exact absurd rfl (hfree _ (List.mem_cons_of_mem _ List.mem_cons_self))
    | i + 4 => exact nomatch hline
  obtain ⟨hread, -⟩ := placed_read hlines hfirst htidy
  exact ⟨hlines, hfirst, htidy, hlength, hplaced, hread text hlength hplaced⟩

end Script

end Lockstep
