import Lockstep.Toml.Printer
import Mathlib.Tactic.SplitIfs

/-!
# Strings survive being written

A string is written in one of four forms, and the reader is one machine for all of them. Most
characters leave the machine as plain as they found it. Quotes in a long form do not: they may be
the first ones of the three that end the string, so the machine holds them back, up to two of them,
until another character shows that they belong to it. `Form.held` is the state with so many held
back quotes, and the invariant of the long forms is that what was read and what is held back are
what was written.

`Form.Takes` says what a stretch of text does to the machine, whatever comes before and after it.
The forms are put together from it, and `readString_render` closes the quotes.
-/

namespace Lockstep.Toml

open Hexadecimal (upperDigit)

/-! ## Characters -/

theorem upperDigit_value {n : Nat} (h : n < 16) : Hexadecimal.value? (upperDigit n) = some n := by
  revert n
  decide

/-- The characters that are written with a backslash in either form with escapes. -/
def IsEscaped (c : Char) : Prop := c = '"' ∨ c = '\\' ∨ c = '\t' ∨ isStringChar c = false

theorem toNat_of_not_isStringChar {c : Char} (h : isStringChar c = false) :
    c.toNat < 0x20 ∨ c.toNat = 0x7F := by
  simp only [isStringChar, Bool.or_eq_false_iff, Bool.and_eq_false_iff, decide_eq_false_iff_not]
    at h
  omega

/-- How a character is written with a backslash: with a letter, or with its number. -/
inductive EscapeText (c : Char) : List Char → Prop
  | letter {d : Char} (read : shortEscape? d = some c) (other : d ≠ 'u' ∧ d ≠ 'U' ∧ d ≠ '\r') :
    EscapeText c ['\\', d]
  | number :
    EscapeText c ['\\', 'u', '0', '0', upperDigit (c.toNat / 16), upperDigit (c.toNat % 16)]

theorem escapeText_escape (c : Char) : EscapeText c (escape c) := by
  unfold escape
  -- the characters with a letter of their own are computed, and the others go by their number
  split
  · rename_i h; subst h; exact .letter rfl (by decide)
  split
  · rename_i h; subst h; exact .letter rfl (by decide)
  split
  · rename_i h; subst h; exact .letter rfl (by decide)
  split
  · rename_i h; subst h; exact .letter rfl (by decide)
  split
  · rename_i h; subst h; exact .letter rfl (by decide)
  split
  · rename_i h; subst h; exact .letter rfl (by decide)
  split
  · rename_i h; subst h; exact .letter rfl (by decide)
  exact .number

theorem EscapeText.head {c : Char} {text : List Char} (h : EscapeText c text) :
    ∃ tail, text = '\\' :: tail := by
  cases h <;> exact ⟨_, rfl⟩

/-- The characters that are written with a backslash have small numbers. -/
theorem IsEscaped.toNat_lt {c : Char} (h : IsEscaped c) : c.toNat < 256 := by
  rcases h with rfl | rfl | rfl | h
  · decide
  · decide
  · decide
  · rcases toNat_of_not_isStringChar h with h | h <;> omega

/-- A character that is no control stands for itself, and so does a line feed. -/
theorem isControl_eq_false {c : Char} : isControl c = false ↔ isStringChar c = true ∨ c = '\n' := by
  rw [isControl]
  cases isStringChar c <;> simp

namespace Form

variable {f : Form} {state state' state'' : StringState} {text text' added added' : List Char}

/-! ## What a stretch of text does -/

/-- The text takes the reader from one state to another, and adds this to the string. -/
def Takes (f : Form) (state : StringState) (text : List Char) (state' : StringState)
    (added : List Char) : Prop :=
  ∀ done rest, f.readOn state done (text ++ rest) = f.readOn state' (added.reverse ++ done) rest

theorem Takes.nil : f.Takes state [] state [] := fun _ _ => rfl

theorem Takes.append (h : f.Takes state text state' added)
    (h' : f.Takes state' text' state'' added') :
    f.Takes state (text ++ text') state'' (added ++ added') := by
  intro done rest
  rw [List.append_assoc, h, h', List.reverse_append, List.append_assoc]

theorem Takes.one {c : Char} (h : f.step state c = .go state' added) :
    f.Takes state [c] state' added := by
  intro done rest
  rw [List.singleton_append, readOn, h]

theorem Takes.cons {c : Char} (h : f.step state c = .go state' added)
    (h' : f.Takes state' text state'' added') : f.Takes state (c :: text) state'' (added ++ added') :=
  (Takes.one h).append h'

/-! ## One character -/

/-- A character that stands for itself. -/
structure IsPlain (f : Form) (c : Char) : Prop where
  quote : c ≠ f.quote
  backslash : f.escapes = true → c ≠ '\\'
  shown : isStringChar c = true ∨ f.long = true ∧ c = '\n'

theorem stepPlain_plain {c : Char} (h : f.IsPlain c) : f.stepPlain c = .go .plain [c] := by
  have hbackslash : (f.escapes && decide (c = '\\')) = false := by
    cases he : f.escapes with
    | false => rfl
    | true => simpa using h.backslash he
  rw [stepPlain, if_neg h.quote, hbackslash, if_neg Bool.false_ne_true]
  rcases h.shown with hchar | ⟨hlong, rfl⟩
  · have hfeed : c ≠ '\n' := by
      rintro rfl
      exact absurd hchar (by decide)
    rw [if_neg hfeed, if_pos hchar]
  · rw [if_pos rfl, if_pos hlong]

/-- The characters with a letter of their own. -/
theorem takes_shortEscape {c d : Char} (hc : c ≠ 'u' ∧ c ≠ 'U') (h : shortEscape? c = some d) :
    f.Takes .opened [c] .plain [d] := by
  refine .one ?_
  show f.stepOpened c = _
  rw [stepOpened, if_neg hc.1, if_neg hc.2, h]

theorem takes_digit (owed value d : Nat) {c : Char} (hc : Hexadecimal.value? c = some d)
    (howed : owed > 1) :
    f.Takes (.digits owed value) [c] (.digits (owed - 1) (value * 16 + d)) [] := by
  refine .one ?_
  show stepDigits owed value c = _
  rw [stepDigits, hc]
  exact if_pos howed

theorem takes_lastDigit (value d : Nat) {c : Char} (hc : Hexadecimal.value? c = some d)
    (hscalar : isScalar (value * 16 + d) = true) :
    f.Takes (.digits 1 value) [c] .plain [Char.ofNat (value * 16 + d)] := by
  refine .one ?_
  show stepDigits 1 value c = _
  rw [stepDigits, hc]
  exact (if_neg (by decide)).trans (if_pos hscalar)

/-- A number of four digits, of which the first two are 0. -/
theorem takes_number {n : Nat} (h : n < 256) :
    f.Takes .opened ['u', '0', '0', upperDigit (n / 16), upperDigit (n % 16)] .plain
      [Char.ofNat n] := by
  have hletter : f.Takes .opened ['u'] (.digits 4 0) [] := .one rfl
  have hzeros : f.Takes (.digits 4 0) ['0', '0'] (.digits 2 0) [] :=
    (takes_digit 4 0 0 rfl (by decide)).append (takes_digit 3 0 0 rfl (by decide))
  have hhigh := takes_digit (f := f) 2 0 (n / 16) (upperDigit_value (by omega)) (by decide)
  rw [Nat.zero_mul, Nat.zero_add] at hhigh
  have hvalue : n / 16 * 16 + n % 16 = n := Nat.div_add_mod' n 16
  have hscalar : isScalar (n / 16 * 16 + n % 16) = true := by
    rw [hvalue, isScalar, Bool.or_eq_true, decide_eq_true_eq]
    omega
  have hlow := takes_lastDigit (f := f) (n / 16) (n % 16) (upperDigit_value (by omega)) hscalar
  rw [hvalue] at hlow
  exact hletter.append (hzeros.append (hhigh.append hlow))

/-- **A character with a backslash is read as the character,** where the backslash is read. -/
theorem takes_escape {c : Char} (hc : IsEscaped c) :
    ∃ tail, escape c = '\\' :: tail ∧ f.Takes .opened tail .plain [c] := by
  have htext := escapeText_escape c
  generalize escape c = text at htext ⊢
  cases htext with
  | letter read other => exact ⟨_, rfl, takes_shortEscape ⟨other.1, other.2.1⟩ read⟩
  | number =>
      have hnumber := takes_number (f := f) hc.toNat_lt
      rw [Char.ofNat_toNat] at hnumber
      exact ⟨_, rfl, hnumber⟩

/-! ## Quotes that are held back -/

/-- So many quotes have been read that may end the string or belong to it. -/
def held : Nat → StringState
  | 0 => .plain
  | count + 1 => .quotes (count + 1)

/-- How many quotes in a row may belong to the string. -/
def slack (f : Form) : Nat := if f.long then 2 else 0

theorem slack_le (f : Form) : f.slack ≤ 2 := by
  rw [slack]
  split <;> decide

theorem long_of_slack {run : Nat} (h : run < f.slack) : f.long = true := by
  cases hlong : f.long with
  | true => rfl
  | false =>
      rw [slack, hlong] at h
      exact absurd h (Nat.not_lt_zero run)

theorem after_nil (move : Move) : after [] move = move := by
  cases move <;> rfl

/-- Any other character shows that the quotes belong to the string. -/
theorem step_held {run : Nat} (hrun : run ≤ f.slack) {c : Char} (hc : c ≠ f.quote) :
    f.step (held run) c = after (List.replicate run f.quote) (f.stepPlain c) := by
  cases run with
  | zero => exact (after_nil _).symm
  | succ count =>
      have hfew : ¬ count + 1 ≥ 3 := by
        have := f.slack_le
        omega
      show (if c = f.quote then _ else if count + 1 ≥ 3 then _ else _ : Move) = _
      rw [if_neg hc, if_neg hfew]

/-- One more quote is held back too, as long as it cannot be the last one. -/
theorem takes_quote (hlong : f.long = true) {run : Nat} (hrun : run ≤ 3) :
    f.Takes (held run) [f.quote] (held (run + 1)) [] := by
  refine .one ?_
  cases run with
  | zero =>
      show f.stepPlain f.quote = _
      rw [stepPlain, if_pos rfl, if_pos hlong]
      rfl
  | succ count =>
      have hmore : ¬ count + 1 = 4 := by omega
      show (if f.quote = f.quote then if count + 1 = 4 then _ else _ else _ : Move) = _
      rw [if_pos rfl, if_neg hmore]
      rfl

theorem takes_plain {run : Nat} (hrun : run ≤ f.slack) {c : Char} (hc : f.IsPlain c) :
    f.Takes (held run) [c] (held 0) (List.replicate run f.quote ++ [c]) := by
  refine .one ?_
  rw [step_held hrun hc.quote, stepPlain_plain hc]
  rfl

theorem takes_escaped (hf : f.escapes = true ∧ f.quote = '"') {run : Nat} (hrun : run ≤ f.slack)
    {c : Char} (hc : IsEscaped c) :
    f.Takes (held run) (escape c) (held 0) (List.replicate run f.quote ++ [c]) := by
  obtain ⟨tail, htail, htakes⟩ := takes_escape (f := f) hc
  have hquote : '\\' ≠ f.quote := by
    rw [hf.2]
    decide
  have hopened : f.stepPlain '\\' = .go .opened [] := by
    rw [stepPlain, if_neg hquote, hf.1]
    rfl
  rw [htail]
  refine Takes.cons ?_ htakes
  rw [step_held hrun hquote, hopened]
  exact congrArg (Move.go .opened) (List.append_nil _)

/-! ## Whole strings -/

/-- With so many quotes held back before the text, what is read and what is held back after it are
these quotes and the string. -/
def Reads (f : Form) (run : Nat) (text s : List Char) : Prop :=
  ∃ run' added, run' ≤ f.slack ∧ f.Takes (held run) text (held run') added ∧
    List.replicate run f.quote ++ s = added ++ List.replicate run' f.quote

namespace Reads

variable {run : Nat} {s : List Char}

theorem nil (hrun : run ≤ f.slack) : f.Reads run [] [] :=
  ⟨run, [], hrun, .nil, List.append_nil _⟩

/-- A character that shows that the quotes before it belong to the string. -/
theorem settle {c : Char} (h : f.Takes (held run) text (held 0) (List.replicate run f.quote ++ [c]))
    (h' : f.Reads 0 text' s) : f.Reads run (text ++ text') (c :: s) := by
  obtain ⟨run', added, hrun', htakes, hs⟩ := h'
  refine ⟨run', _, hrun', h.append htakes, ?_⟩
  rw [List.replicate_zero, List.nil_append] at hs
  rw [hs]
  simp

theorem plain (hrun : run ≤ f.slack) {c : Char} (hc : f.IsPlain c) (h : f.Reads 0 text s) :
    f.Reads run (c :: text) (c :: s) :=
  settle (takes_plain hrun hc) h

theorem escaped (hf : f.escapes = true ∧ f.quote = '"') (hrun : run ≤ f.slack) {c : Char}
    (hc : IsEscaped c) (h : f.Reads 0 text s) : f.Reads run (escape c ++ text) (c :: s) :=
  settle (takes_escaped hf hrun hc) h

/-- A quote that stands for itself. -/
theorem quote (hrun : run < f.slack) (h : f.Reads (run + 1) text s) :
    f.Reads run (f.quote :: text) (f.quote :: s) := by
  obtain ⟨run', added, hrun', htakes, hs⟩ := h
  have hquote : f.Takes (held run) [f.quote] (held (run + 1)) [] :=
    takes_quote (long_of_slack hrun) (by have := f.slack_le; omega)
  refine ⟨run', _, hrun', hquote.append htakes, ?_⟩
  rw [List.nil_append, ← hs, List.replicate_succ', List.append_assoc]
  rfl

end Reads

/-- **What is written with escapes is read as it was.** -/
theorem reads_escapeAll (hf : f.escapes = true ∧ f.quote = '"') (s : List Char) {run : Nat}
    (hrun : run ≤ f.slack) : f.Reads run (escapeAll f.long run s) s := by
  induction s generalizing run with
  | nil => exact .nil hrun
  | cons c rest ih =>
      have hrest := ih (Nat.zero_le _)
      rw [escapeAll]
      split
      · rename_i hquote
        split
        · rename_i hmore
          obtain ⟨hlong, hfew⟩ := Bool.and_eq_true_iff.mp hmore
          have hnext : run < f.slack := by
            rw [slack, if_pos hlong]
            exact of_decide_eq_true hfew
          rw [show c = f.quote from hquote.trans hf.2.symm]
          exact .quote hnext (ih hnext)
        · exact .escaped hf hrun (.inl hquote) hrest
      rename_i hquote
      have hother : c ≠ f.quote := by
        rw [hf.2]
        exact hquote
      split
      · rename_i hfeed
        obtain ⟨hfeed, hlong⟩ := Bool.and_eq_true_iff.mp hfeed
        have hc : c = '\n' := of_decide_eq_true hfeed
        exact .plain hrun ⟨hother, fun _ => by rw [hc]; decide, .inr ⟨hlong, hc⟩⟩ hrest
      split
      · rename_i hescaped
        refine .escaped hf hrun ?_ hrest
        simp only [Bool.or_eq_true, decide_eq_true_eq, Bool.not_eq_true'] at hescaped
        exact .inr (or_assoc.mp hescaped)
      · rename_i hplain
        simp only [Bool.or_eq_true, decide_eq_true_eq, Bool.not_eq_true', not_or,
          Bool.not_eq_false] at hplain
        exact .plain hrun ⟨hother, fun _ => hplain.1.1, .inl hplain.2⟩ hrest

/-- The runs of quotes in a string are short enough to stand in this form, after `run` of them. -/
def Fits (f : Form) : Nat → List Char → Prop
  | _, [] => True
  | run, c :: rest => if c = f.quote then run < f.slack ∧ f.Fits (run + 1) rest else f.Fits 0 rest

/-- **What is written as it is, is read as it is,** if it has no controls and few quotes. -/
theorem reads_self (hf : f.escapes = false) {s : List Char}
    (hcontrol : ∀ c ∈ s, isStringChar c = true ∨ f.long = true ∧ c = '\n') {run : Nat}
    (hrun : run ≤ f.slack) (hfits : f.Fits run s) : f.Reads run s s := by
  induction s generalizing run with
  | nil => exact .nil hrun
  | cons c rest ih =>
      obtain ⟨hc, hrest⟩ := List.forall_mem_cons.mp hcontrol
      rw [Fits] at hfits
      split at hfits
      · rename_i hquote
        rw [hquote]
        exact .quote hfits.1 (ih hrest hfits.1 hfits.2)
      · rename_i hquote
        have hplain : f.IsPlain c := ⟨hquote, fun h => absurd (hf.symm.trans h) (by decide), hc⟩
        exact .plain hrun hplain (ih hrest (Nat.zero_le _) hfits)

/-! ## Quotes around strings -/

/-- The quotes at either end of a string. -/
def marks (f : Form) : List Char := List.replicate (if f.long then 3 else 1) f.quote

/-- The third quote in a row that does not belong to the string ends it. -/
theorem readOn_marks (hf : f.quote ≠ '\n') {run : Nat} (hrun : run ≤ f.slack) (done : List Char)
    (rest : List Char) :
    f.readOn (held run) done (f.marks ++ '\n' :: rest) =
      .ok (done.reverse ++ List.replicate run f.quote, '\n' :: rest) := by
  cases hlong : f.long with
  | false =>
      have hzero : run = 0 := by
        rw [slack, hlong] at hrun
        exact Nat.le_zero.mp hrun
      have hstop : f.step .plain f.quote = .stop [] := by
        show f.stepPlain f.quote = _
        rw [stepPlain, if_pos rfl, hlong]
        rfl
      rw [hzero, marks, hlong]
      show f.readOn .plain done (f.quote :: '\n' :: rest) = _
      rw [readOn, hstop]
      rfl
  | true =>
      have hmarks : f.marks = [f.quote] ++ ([f.quote] ++ [f.quote]) := by
        rw [marks, hlong]
        rfl
      have hslack := f.slack_le
      have htwo := (takes_quote hlong (show run ≤ 3 by omega)).append
        (takes_quote hlong (show run + 1 ≤ 3 by omega))
      rw [hmarks, ← List.append_assoc, List.append_assoc, htwo]
      show f.readOn (.quotes (run + 2)) done (f.quote :: '\n' :: rest) = _
      by_cases hlast : run = 2
      · -- two quotes of the string are held back, and with the three that end it no more can come
        subst hlast
        have hstop : f.step (.quotes 4) f.quote = .stop [f.quote, f.quote] := if_pos rfl
        rw [readOn, hstop]
        rfl
      · have hthree := takes_quote hlong (show run + 2 ≤ 3 by omega) done ('\n' :: rest)
        have hended : f.step (.quotes (run + 3)) '\n' = .ended (List.replicate run f.quote) := by
          show (if '\n' = f.quote then _ else if run + 3 ≥ 3 then _ else _ : Move) = _
          rw [if_neg hf.symm, if_pos (Nat.le_add_left 3 run), Nat.add_sub_cancel]
        refine hthree.trans ?_
        show f.readOn (.quotes (run + 3)) done ('\n' :: rest) = _
        rw [readOn, hended]

theorem Reads.close (hf : f.quote ≠ '\n') {s : List Char} (h : f.Reads 0 text s)
    (rest : List Char) :
    f.readOn .plain [] (text ++ (f.marks ++ '\n' :: rest)) = .ok (s, '\n' :: rest) := by
  obtain ⟨run, added, hrun, htakes, hs⟩ := h
  refine (htakes [] _).trans ?_
  rw [readOn_marks hf hrun, List.append_nil, List.reverse_reverse, ← hs]
  rfl

/-- A line feed after the opening quotes of a long string does not belong to it. -/
theorem read_first (hlong : f.long = true) (rest : List Char) :
    f.read ('\n' :: rest) = f.readOn .plain [] rest := if_pos hlong

theorem read_other {s : List Char} (h : f.long = true → s.head? ≠ some '\n') :
    f.read s = f.readOn .plain [] s := by
  unfold read
  split
  · rename_i rest
    exact if_neg fun hlong => h hlong rfl
  · rfl

end Form

/-! ## The form of a string -/

/-- The runs of a character that are counted, of which `now` goes on, and `best` was the longest. -/
theorem fits_of_runs {f : Form} (hlong : f.long = true) (s : List Char) (now best : Nat) :
    let step (runs : Nat × Nat) (d : Char) : Nat × Nat :=
      let now := if d = f.quote then runs.1 + 1 else 0
      (now, max now runs.2)
    best ≤ (s.foldl step (now, best)).2 ∧ ((s.foldl step (now, best)).2 ≤ 2 → f.Fits now s) := by
  intro step
  induction s generalizing now best with
  | nil => exact ⟨Nat.le_refl _, fun _ => trivial⟩
  | cons c rest ih =>
      obtain ⟨hbest, hfits⟩ := ih (if c = f.quote then now + 1 else 0)
        (max (if c = f.quote then now + 1 else 0) best)
      refine ⟨Nat.le_trans (Nat.le_max_right _ _) hbest, fun h => ?_⟩
      have hnow := Nat.le_trans (Nat.le_trans (Nat.le_max_left _ _) hbest) h
      have hrest := hfits h
      rw [Form.Fits]
      split
      · rename_i hc
        rw [if_pos hc] at hnow hrest
        exact ⟨by rw [Form.slack, if_pos hlong]; exact hnow, hrest⟩
      · rename_i hc
        rw [if_neg hc] at hrest
        exact hrest

/-- If no run is longer than two quotes, all of them fit in a long form. -/
theorem fits_of_longestRun {f : Form} (hlong : f.long = true) {s : List Char}
    (h : longestRun f.quote s ≤ 2) : f.Fits 0 s := (fits_of_runs hlong s 0 0).2 h

theorem fits_of_not_mem {f : Form} {s : List Char} (h : f.quote ∉ s) : f.Fits 0 s := by
  induction s with
  | nil => trivial
  | cons c rest ih =>
      obtain ⟨hc, hrest⟩ := not_or.mp (mt List.mem_cons.mpr h)
      rw [Form.Fits, if_neg (Ne.symm hc)]
      exact ih hrest

/-- A form without escapes is chosen only for a string that can stand in it as it is. -/
structure Form.Holds (f : Form) (s : List Char) : Prop where
  shown : ∀ c ∈ s, isStringChar c = true ∨ f.long = true ∧ c = '\n'
  fits : f.Fits 0 s

/-- The forms that are chosen for a string. -/
inductive Chosen (s : List Char) : Form → Prop
  | basic : Chosen s .basic
  | literal : Form.literal.Holds s → Chosen s .literal
  | longBasic : Chosen s .longBasic
  | longLiteral : Form.longLiteral.Holds s → Chosen s .longLiteral

theorem chosen_formFor (s : List Char) : Chosen s (formFor s) := by
  have hshown : s.any isControl = false → ∀ c ∈ s, isStringChar c = true ∨ c = '\n' :=
    fun h c hc => isControl_eq_false.mp (Bool.eq_false_iff.mpr (List.any_eq_false.mp h c hc))
  unfold formFor
  dsimp only
  split_ifs with _ hliteral _ hlong
  · exact .basic
  · simp only [Bool.and_eq_true, Bool.not_eq_true', List.contains_eq_mem,
      decide_eq_false_iff_not] at hliteral
    obtain ⟨⟨hcontrol, hquote⟩, hfeed⟩ := hliteral
    refine .literal ⟨fun c hc => .inl ?_, fits_of_not_mem hquote⟩
    exact (hshown hcontrol c hc).resolve_right fun h => hfeed (h ▸ hc)
  · exact .longBasic
  · simp only [Bool.and_eq_true, Bool.not_eq_true', decide_eq_true_eq] at hlong
    obtain ⟨hcontrol, hruns⟩ := hlong
    refine .longLiteral ⟨fun c hc => ?_, fits_of_longestRun rfl hruns⟩
    exact (hshown hcontrol c hc).imp id fun h => ⟨rfl, h⟩
  · exact .longBasic
  · exact .basic

/-! ## Written strings -/

/-- What stands between the quotes of a written string, but for the line feed that is left out. -/
def Form.body (f : Form) (s : List Char) : List Char :=
  if f.escapes then escapeAll f.long 0 s else s

/-- The line feed after the opening quotes. -/
def Form.first (f : Form) (s : List Char) : List Char :=
  if f.long && s.contains '\n' then ['\n'] else []

theorem renderString_eq (s : List Char) :
    renderString s = (formFor s).marks ++
      ((formFor s).first s ++ ((formFor s).body s ++ (formFor s).marks)) := by
  rw [renderString]
  simp only [List.append_assoc]
  rfl

theorem Chosen.reads {f : Form} {s : List Char} (h : Chosen s f) : f.Reads 0 (f.body s) s := by
  cases h with
  | basic => exact Form.reads_escapeAll ⟨rfl, rfl⟩ s (Nat.zero_le _)
  | longBasic => exact Form.reads_escapeAll ⟨rfl, rfl⟩ s (Nat.zero_le _)
  | literal hs => exact Form.reads_self rfl hs.shown (Nat.zero_le _) hs.fits
  | longLiteral hs => exact Form.reads_self rfl hs.shown (Nat.zero_le _) hs.fits

/-- The first character of a text with escapes is that of the string, or a backslash. -/
theorem head?_escapeAll (long : Bool) (c : Char) (rest : List Char) :
    (escapeAll long 0 (c :: rest)).head? = some '\\' ∨
      (escapeAll long 0 (c :: rest)).head? = some c ∧ (long = false → c ≠ '"') := by
  have hescape : ∀ text, (escape c ++ text).head? = some '\\' := by
    intro text
    obtain ⟨tail, htail⟩ := (escapeText_escape c).head
    rw [htail]
    rfl
  rw [escapeAll]
  split_ifs with hquote hmore
  · refine .inr ⟨rfl, fun hlong => ?_⟩
    rw [hlong] at hmore
    exact nomatch hmore
  · exact .inl (hescape _)
  · exact .inr ⟨rfl, fun _ => hquote⟩
  · exact .inl (hescape _)
  · exact .inr ⟨rfl, fun _ => hquote⟩

theorem head?_body (f : Form) (c : Char) (rest : List Char) :
    (f.body (c :: rest)).head? = some '\\' ∨
      (f.body (c :: rest)).head? = some c ∧ (f.escapes = true → f.long = false → c ≠ '"') := by
  rw [Form.body]
  split
  · exact (head?_escapeAll f.long c rest).imp id fun h => ⟨h.1, fun _ => h.2⟩
  · rename_i hescapes
    exact .inr ⟨rfl, fun h => absurd h hescapes⟩

namespace Chosen

variable {f : Form} {s : List Char}

theorem quote (h : Chosen s f) : f.quote ≠ '\n' ∧ f.quote ≠ '\\' := by
  cases h <;> decide

/-- The text after the opening quotes does not begin with a line feed that the reader leaves out. -/
theorem head?_of_no_feed (h : Chosen s f) (hs : '\n' ∉ s) (rest : List Char) :
    (f.body s ++ (f.marks ++ rest)).head? ≠ some '\n' := by
  cases s with
  | nil =>
      have hbody : f.body [] = [] := by cases h <;> rfl
      have hmarks : (f.marks ++ rest).head? = some f.quote := by cases h <;> rfl
      rw [hbody, List.nil_append, hmarks]
      exact fun e => h.quote.1 (Option.some.inj e)
  | cons c tail =>
      have hc : c ≠ '\n' := fun e => hs (e ▸ List.mem_cons_self)
      rcases head?_body f c tail with hhead | ⟨hhead, -⟩ <;> rw [List.head?_append, hhead]
      · exact fun e => absurd (Option.some.inj e) (by decide)
      · exact fun e => hc (Option.some.inj e)

/-- **A chosen form is read as the string that it was chosen for.** -/
theorem read (h : Chosen s f) (rest : List Char) :
    f.read (f.first s ++ (f.body s ++ (f.marks ++ '\n' :: rest))) = .ok (s, '\n' :: rest) := by
  have hclose := h.reads.close h.quote.1 rest
  cases hfirst : f.long && s.contains '\n' with
  | true =>
      rw [Form.first, hfirst, if_pos rfl, List.singleton_append,
        Form.read_first (Bool.and_eq_true_iff.mp hfirst).1, hclose]
  | false =>
      rw [Form.first, hfirst, if_neg Bool.false_ne_true, List.nil_append, Form.read_other, hclose]
      intro hlong
      rw [hlong, Bool.true_and, List.contains_eq_mem, decide_eq_false_iff_not] at hfirst
      exact h.head?_of_no_feed hfirst _

/-- One quote is not followed by two more in a short form. -/
theorem no_marks (h : Chosen s f) (hlong : f.long = false) (rest more : List Char) :
    f.first s ++ (f.body s ++ (f.marks ++ '\n' :: rest)) ≠ f.quote :: f.quote :: more := by
  have hfirst : f.first s = [] := by
    rw [Form.first, hlong]
    rfl
  rw [hfirst, List.nil_append]
  cases s with
  | nil =>
      have hbody : f.body [] = [] := by cases h <;> rfl
      have hmarks : f.marks = [f.quote] := by
        rw [Form.marks, hlong]
        rfl
      rw [hbody, hmarks]
      intro e
      obtain ⟨he, -⟩ := List.cons.inj (List.cons.inj e).2
      exact h.quote.1 he.symm
  | cons c tail =>
      intro e
      have hhead := congrArg List.head? e
      rcases head?_body f c tail with hbody | ⟨hbody, hbasic⟩ <;>
        rw [List.head?_append, hbody] at hhead
      · exact h.quote.2 (Option.some.inj hhead).symm
      · -- the string begins with a quote that would stand for itself
        have hquote : c = f.quote := Option.some.inj hhead
        cases h with
        | basic => exact hbasic rfl rfl hquote
        | longBasic => exact nomatch hlong
        | longLiteral hs => exact nomatch hlong
        | literal hs =>
            have hfits := hs.fits
            rw [Form.Fits, if_pos hquote] at hfits
            exact Nat.not_lt_zero _ hfits.1

end Chosen

theorem readString?_basic {t : List Char} (h : ∀ more, t ≠ '"' :: '"' :: more) :
    readString? ('"' :: t) = some (Form.basic.read t) := by
  unfold readString?
  split
  · rename_i more e
    exact absurd (List.cons.inj e).2 (h more)
  · rename_i e
    rw [(List.cons.inj e).2]
  · rename_i e
    exact absurd (List.cons.inj e).1 (by decide)
  · rename_i e
    exact absurd (List.cons.inj e).1 (by decide)
  · rename_i hno _ _
    exact absurd rfl (hno t)

theorem readString?_literal {t : List Char} (h : ∀ more, t ≠ '\'' :: '\'' :: more) :
    readString? ('\'' :: t) = some (Form.literal.read t) := by
  unfold readString?
  split
  · rename_i e
    exact absurd (List.cons.inj e).1 (by decide)
  · rename_i e
    exact absurd (List.cons.inj e).1 (by decide)
  · rename_i more e
    exact absurd (List.cons.inj e).2 (h more)
  · rename_i e
    rw [(List.cons.inj e).2]
  · rename_i hno
    exact absurd rfl (hno t)

/-- **A written string is read as it was,** and what comes after it is left. -/
theorem readString?_render (s rest : List Char) :
    readString? (renderString s ++ '\n' :: rest) = some (.ok (s, '\n' :: rest)) := by
  have hchosen := chosen_formFor s
  rw [renderString_eq]
  simp only [List.append_assoc]
  generalize formFor s = f at hchosen
  have hread := hchosen.read rest
  have hshort := fun hlong => hchosen.no_marks hlong rest
  cases hchosen with
  | basic =>
      exact (readString?_basic (hshort rfl)).trans (congrArg some hread)
  | literal hs =>
      exact (readString?_literal (hshort rfl)).trans (congrArg some hread)
  | longBasic => exact congrArg some hread
  | longLiteral hs => exact congrArg some hread

/-! ## What is never in a written string -/

/-- A written string begins with one of the two kinds of quotes. -/
theorem head_renderString (s : List Char) :
    ∃ q t, renderString s = q :: t ∧ (q = '"' ∨ q = '\'') := by
  have hchosen := chosen_formFor s
  rw [renderString_eq]
  generalize formFor s = f at hchosen
  cases hchosen with
  | basic | longBasic => exact ⟨_, _, rfl, .inl rfl⟩
  | literal | longLiteral => exact ⟨_, _, rfl, .inr rfl⟩

theorem ne_return_of_shown {c : Char} (h : isStringChar c = true ∨ c = '\n') : c ≠ '\r' := by
  rintro rfl
  revert h
  decide

theorem upperDigit_ne_return {n : Nat} (h : n < 16) : upperDigit n ≠ '\r' := by
  revert n
  decide

theorem return_not_mem_escape {c : Char} (hc : IsEscaped c) : '\r' ∉ escape c := by
  have htext := escapeText_escape c
  generalize escape c = text at htext ⊢
  cases htext with
  | letter read other => simp [other.2.2.symm]
  | number =>
      have hcode := hc.toNat_lt
      have hhigh := upperDigit_ne_return (n := c.toNat / 16) (by omega)
      have hlow := upperDigit_ne_return (n := c.toNat % 16) (by omega)
      simp [hhigh.symm, hlow.symm]

theorem return_not_mem_escapeAll (long : Bool) (s : List Char) (run : Nat) :
    '\r' ∉ escapeAll long run s := by
  have hcons : ∀ {c : Char} {text : List Char}, c ≠ '\r' → '\r' ∉ text → '\r' ∉ c :: text := by
    intro c text hc htext hmem
    exact (List.mem_cons.mp hmem).elim (hc ·.symm) htext
  have happend : ∀ {c : Char} {text : List Char}, IsEscaped c → '\r' ∉ text →
      '\r' ∉ escape c ++ text := by
    intro c text hc htext hmem
    exact (List.mem_append.mp hmem).elim (return_not_mem_escape hc) htext
  induction s generalizing run with
  | nil => exact List.not_mem_nil
  | cons c rest ih =>
      rw [escapeAll]
      split_ifs with hquote _ hfeed hescaped
      · exact hcons (hquote ▸ by decide) (ih _)
      · exact happend (.inl hquote) (ih _)
      · have hc : c = '\n' := of_decide_eq_true (Bool.and_eq_true_iff.mp hfeed).1
        exact hcons (hc ▸ by decide) (ih _)
      · simp only [Bool.or_eq_true, decide_eq_true_eq, Bool.not_eq_true'] at hescaped
        exact happend (.inr (or_assoc.mp hescaped)) (ih _)
      · simp only [Bool.or_eq_true, decide_eq_true_eq, Bool.not_eq_true', not_or,
          Bool.not_eq_false] at hescaped
        exact hcons (ne_return_of_shown (.inl hescaped.2)) (ih _)

/-- **No carriage return is written,** since a reader might join it with a line feed. -/
theorem return_not_mem_renderString (s : List Char) : '\r' ∉ renderString s := by
  have hchosen := chosen_formFor s
  rw [renderString_eq]
  generalize formFor s = f at hchosen
  have hmarks : '\r' ∉ f.marks := by cases hchosen <;> decide
  have hfirst : '\r' ∉ f.first s := by
    rw [Form.first]
    split <;> decide
  have hself : ∀ {g : Form}, g.Holds s → '\r' ∉ s := fun hs hmem =>
    ne_return_of_shown ((hs.shown _ hmem).imp id (·.2)) rfl
  have hbody : '\r' ∉ f.body s := by
    cases hchosen with
    | basic => exact return_not_mem_escapeAll false s 0
    | longBasic => exact return_not_mem_escapeAll true s 0
    | literal hs => exact hself hs
    | longLiteral hs => exact hself hs
  simp only [List.mem_append, not_or]
  exact ⟨hmarks, hfirst, hbody, hmarks⟩

end Lockstep.Toml
