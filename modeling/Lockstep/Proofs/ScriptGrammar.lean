import Lockstep.Proofs.JsonNumber
import Lockstep.Proofs.TextLines
import Lockstep.Script.Statement

/-!
# The grammar of a line of a script

What one line of a script says, without a reader. A line counts without the blanks at its ends. It
is blank, or a comment, or a command that runs once; and a line that begins with the word of
repetitions has to be a repetition, with a colon, a count before the first colon and a command
after it.

`Holds` says what a line holds and `Acceptable` which lines hold anything at all. The only lines
that are not acceptable are bad repetitions, and the flaw that the reader finds in them names their
number. The leaves come first: numerals, the first colon, the word at the beginning.
-/

namespace Lockstep

/-! ## Numerals -/

namespace Decimal

open Json (Digits natOf natFrom natFrom_cons le_natFrom)

/-- Digits, with or without a plus sign before them, spell a number. -/
inductive NaturalText : List Char → Nat → Prop
  | plain {ds : List Char} : Digits ds → NaturalText ds (natOf ds)
  | signed {ds : List Char} : Digits ds → NaturalText ('+' :: ds) (natOf ds)

theorem readDigits_eq_ok_iff {limit value n : Nat} {excess : Fault} {s : List Char}
    (hvalue : value ≤ limit) :
    readDigits limit excess value s = .ok n ↔
      (∀ c ∈ s, isDigit c = true) ∧ n = natFrom value s ∧ n ≤ limit := by
  induction s generalizing value with
  | nil =>
      rw [readDigits]
      constructor
      · intro h
        obtain rfl := Except.ok.inj h
        exact ⟨List.forall_mem_nil _, rfl, hvalue⟩
      · intro h
        rw [h.2.1]
        rfl
  | cons c rest ih =>
      rw [readDigits, natFrom_cons, List.forall_mem_cons]
      by_cases hc : isDigit c = true
      · rw [if_pos hc, and_iff_right hc]
        dsimp only
        by_cases hnext : value * 10 + valueOf c ≤ limit
        · rw [if_pos hnext]
          exact ih hnext
        · -- later digits do not make the number smaller
          rw [if_neg hnext]
          constructor
          · intro h
            exact nomatch h
          · intro h
            have hle := le_natFrom (value * 10 + valueOf c) rest
            omega
      · rw [if_neg hc]
        constructor
        · intro h
          exact nomatch h
        · intro h
          exact absurd h.1.1 hc

theorem readSome_eq_ok_iff {limit n : Nat} {excess : Fault} {s : List Char} :
    readSome limit excess s = .ok n ↔ Digits s ∧ n = natOf s ∧ n ≤ limit := by
  cases s with
  | nil =>
      constructor
      · intro h
        exact nomatch h
      · intro h
        exact absurd rfl h.1.nonempty
  | cons c rest =>
      rw [readSome, readDigits_eq_ok_iff (Nat.zero_le limit)]
      · constructor
        · intro h
          exact ⟨⟨List.cons_ne_nil _ _, h.1⟩, h.2⟩
        · intro h
          exact ⟨h.1.digit, h.2⟩
      · exact List.cons_ne_nil _ _

/-- A sign is no digit. -/
theorem not_digits_signed (ds : List Char) : ¬ Digits ('+' :: ds) := by
  intro h
  have hsign := h.digit '+' List.mem_cons_self
  exact absurd hsign (by decide)

/-- **A number is read from its numerals,** if it is not too large. -/
theorem readNatural_eq_ok_iff {limit n : Nat} {s : List Char} :
    readNatural limit s = .ok n ↔ NaturalText s n ∧ n ≤ limit := by
  unfold readNatural
  split
  · constructor
    · intro h
      exact nomatch h
    · intro h
      cases h.1 with
      | plain hds => exact absurd rfl hds.nonempty
  · rename_i ds
    rw [readSome_eq_ok_iff]
    constructor
    · intro ⟨hds, hn, hle⟩
      rw [hn] at hle ⊢
      exact ⟨.signed hds, hle⟩
    · intro ⟨htext, hle⟩
      cases htext with
      | plain hds => exact absurd hds (not_digits_signed ds)
      | signed hds => exact ⟨hds, rfl, hle⟩
  · rename_i hsign
    rw [readSome_eq_ok_iff]
    constructor
    · intro ⟨hds, hn, hle⟩
      rw [hn] at hle ⊢
      exact ⟨.plain hds, hle⟩
    · intro ⟨htext, hle⟩
      cases htext with
      | plain hds => exact ⟨hds, rfl, hle⟩
      | signed hds => exact absurd rfl (hsign _)

end Decimal

namespace Script

open Decimal (NaturalText max32 readNatural_eq_ok_iff)
open Text (Trims trims_iff trims_trim)

/-! ## Repetitions -/

/-- What follows the word of repetitions says how many times which command runs. -/
structure Repetition (rest : List Char) (count : Nat) (command : List Char) : Prop where
  /-- The numeral stands before the first colon, and the command after it. -/
  parts : ∃ before after numeral, rest = before ++ ':' :: after ∧ ':' ∉ before ∧
    Trims before numeral ∧ NaturalText numeral count ∧ Trims after command
  positive : 1 ≤ count
  bounded : count ≤ max32
  nonempty : command ≠ []

theorem cutColon?_eq_some_iff {s before after : List Char} :
    cutColon? s = some (before, after) ↔ s = before ++ ':' :: after ∧ ':' ∉ before := by
  have hsplit : s = s.takeWhile (· ≠ ':') ++ s.dropWhile (· ≠ ':') :=
    List.takeWhile_append_dropWhile.symm
  have hbefore : ':' ∉ s.takeWhile (· ≠ ':') := by
    intro hmem
    have hne := List.all_eq_true.mp List.all_takeWhile ':' hmem
    exact absurd hne (by decide)
  constructor
  · intro h
    unfold cutColon? at h
    split at h
    · exact nomatch h
    · rename_i c rest hdrop
      have hnot := List.head?_dropWhile_not (· ≠ ':') s
      rw [hdrop] at hnot
      have hc : c = ':' := by simpa using hnot
      obtain ⟨rfl, rfl⟩ := Prod.mk.inj (Option.some.inj h)
      rw [hdrop, hc] at hsplit
      exact ⟨hsplit, hbefore⟩
  · intro ⟨hs, hnot⟩
    have hall : ∀ c ∈ before, decide (c ≠ ':') = true := by
      intro c hc
      simpa using fun e : c = ':' => hnot (e ▸ hc)
    have hdrop : s.dropWhile (· ≠ ':') = ':' :: after := by
      rw [hs, List.dropWhile_append_of_pos hall]
      exact List.dropWhile_cons_of_neg (by simp)
    have htake : s.takeWhile (· ≠ ':') = before := by
      rw [hdrop] at hsplit
      exact (List.append_cancel_right (hs.symm.trans hsplit)).symm
    unfold cutColon?
    rw [hdrop, htake]

/-- A text without a colon is not cut. -/
theorem not_repetition_of_cutColon? {rest command : List Char} {count : Nat}
    (h : cutColon? rest = none) : ¬ Repetition rest count command := by
  intro hrepetition
  obtain ⟨before, after, _, hrest, hbefore, -⟩ := hrepetition.parts
  rw [cutColon?_eq_some_iff.mpr ⟨hrest, hbefore⟩] at h
  exact nomatch h

/-- **A repetition is read as what it says,** and nothing else is read. -/
theorem readRepeat_eq_ok_iff {line : UInt32} {rest command : List Char} {count : Nat} :
    readRepeat line rest = .ok (count, command) ↔ Repetition rest count command := by
  unfold readRepeat
  cases hcut : cutColon? rest with
  | none =>
      constructor
      · intro h
        exact nomatch h
      · intro h
        exact absurd h (not_repetition_of_cutColon? hcut)
  | some parts =>
      obtain ⟨before, after⟩ := parts
      obtain ⟨hrest, hbefore⟩ := cutColon?_eq_some_iff.mp hcut
      dsimp only
      constructor
      · intro h
        split at h
        · exact nomatch h
        · rename_i n hcount
          obtain ⟨hnumeral, hle⟩ := readNatural_eq_ok_iff.mp hcount
          split at h
          · exact nomatch h
          · rename_i hzero
            split at h
            · exact nomatch h
            · rename_i hempty
              obtain ⟨rfl, rfl⟩ := Prod.mk.inj (Except.ok.inj h)
              refine ⟨⟨before, after, _, hrest, hbefore, trims_trim before, hnumeral,
                trims_trim after⟩, by omega, hle, ?_⟩
              simpa using hempty
      · intro h
        obtain ⟨before', after', numeral, hrest', hbefore', hnumeral, hcount, hcommand⟩ := h.parts
        -- there is one first colon
        have hsame := cutColon?_eq_some_iff.mpr ⟨hrest', hbefore'⟩
        rw [hcut] at hsame
        obtain ⟨rfl, rfl⟩ := Prod.mk.inj (Option.some.inj hsame)
        have hread := readNatural_eq_ok_iff.mpr ⟨hcount, h.bounded⟩
        rw [trims_iff.mp hnumeral] at hread
        have hzero : count ≠ 0 := by have := h.positive; omega
        have hempty : command.isEmpty = false := by simpa using h.nonempty
        rw [hread]
        dsimp only
        rw [← trims_iff.mp hcommand, if_neg hzero, hempty]
        rfl

/-! ## Lines -/

/-- What a line with this number holds: one statement, or none. -/
inductive Holds (number : Nat) (line : List Char) : Option Statement → Prop
  | blank : Trims line [] → Holds number line none
  | comment {text : List Char} : Trims line ('#' :: text) → Holds number line none
  | once {text : List Char} {s : Statement} : Trims line text → text ≠ [] →
      text.head? ≠ some '#' → (¬ ∃ rest, text = repeatWord ++ rest) →
      s.line.toNat = number → s.command = String.ofList text → s.repeats = 1 →
      Holds number line (some s)
  | repeated {rest command : List Char} {s : Statement} : Trims line (repeatWord ++ rest) →
      Repetition rest s.repeats command → s.line.toNat = number →
      s.command = String.ofList command → Holds number line (some s)

/-- A line that begins with the word of repetitions is one. -/
def Acceptable (line : List Char) : Prop :=
  ∀ rest, Trims line (repeatWord ++ rest) → ∃ count command, Repetition rest count command

/-- The text of the flaw names this number of a line. -/
def Flaw.Names (flaw : Flaw) (number : Nat) : Prop :=
  ∃ before after, flaw.message = before ++ s!" on line {number}" ++ after ∧
    ∀ c, after.toList.head? = some c → Decimal.isDigit c = false

/-- The line that a flaw is on. -/
def Flaw.line? : Flaw → Option UInt32
  | .unreadable _ _ | .tooManyLines => none
  | .noColon line | .badCount line _ | .zeroCount line | .noCommand line => some line

/-- Only acceptable lines hold something. -/
theorem Holds.acceptable {number : Nat} {line : List Char} {held : Option Statement}
    (h : Holds number line held) : Acceptable line := by
  intro rest hrest
  -- a line has one text without its blanks, so the constructors exclude each other
  have hsame : ∀ {text : List Char}, Trims line text → text = repeatWord ++ rest := by
    intro text htext
    rw [trims_iff.mp htext, ← trims_iff.mp hrest]
  cases h with
  | blank hline => exact nomatch hsame hline
  | comment hline =>
      have hword : '#' = 'r' := (List.cons.inj (hsame hline)).1
      exact absurd hword (by decide)
  | once hline _ _ hno _ _ _ => exact absurd ⟨rest, hsame hline⟩ hno
  | repeated hline hrepetition _ _ =>
      obtain rfl := List.append_cancel_left (hsame hline)
      exact ⟨_, _, hrepetition⟩

theorem stripStart?_eq_some_iff {start s rest : List Char} :
    stripStart? start s = some rest ↔ s = start ++ rest := by
  induction start generalizing s with
  | nil =>
      rw [stripStart?]
      exact Option.some_inj
  | cons p start ih =>
      cases s with
      | nil =>
          constructor
          · intro h
            exact nomatch h
          · intro h
            exact nomatch h
      | cons c s =>
          rw [stripStart?, List.cons_append, List.cons.injEq]
          by_cases hp : p = c
          · rw [if_pos hp, ih, and_iff_right hp.symm]
          · rw [if_neg hp]
            constructor
            · intro h
              exact nomatch h
            · intro h
              exact absurd h.1.symm hp

/-- What follows the number in the text of a flaw is nothing, or begins with a colon. -/
theorem Flaw.names_of_message {flaw : Flaw} (before after : String) {number : Nat}
    (h : flaw.message = before ++ s!" on line {number}" ++ after)
    (hafter : after = "" ∨ ∃ text, after = ": " ++ text) : flaw.Names number := by
  refine ⟨before, after, h, ?_⟩
  intro c hc
  rcases hafter with rfl | ⟨text, rfl⟩
  · exact nomatch hc
  · rw [String.toList_append] at hc
    obtain rfl := Option.some.inj hc
    decide

theorem Flaw.message_noColon (line : UInt32) :
    (Flaw.noColon line).message =
      "Invalid repeat" ++ s!" on line {line.toNat}" ++ (": " ++ "expected 'repeat N: command'") := by
  have hstart : "Invalid repeat on line " = "Invalid repeat" ++ " on line " := by decide
  have hend : ": expected 'repeat N: command'" = ": " ++ "expected 'repeat N: command'" := by decide
  unfold Flaw.message
  rw [hstart, hend]
  simp only [toString, String.append_assoc]

theorem Flaw.message_badCount (line : UInt32) (fault : Decimal.Fault) :
    (Flaw.badCount line fault).message =
      "Invalid repeat count" ++ s!" on line {line.toNat}" ++ (": " ++ fault.message) := by
  have hstart : "Invalid repeat count on line " = "Invalid repeat count" ++ " on line " := by decide
  unfold Flaw.message
  rw [hstart]
  simp only [toString, String.append_assoc]

theorem Flaw.message_zeroCount (line : UInt32) :
    (Flaw.zeroCount line).message =
      "Repeat count must be positive" ++ s!" on line {line.toNat}" ++ "" := by
  have hstart : "Repeat count must be positive on line " =
      "Repeat count must be positive" ++ " on line " := by decide
  unfold Flaw.message
  rw [hstart]
  simp only [toString, String.append_assoc, String.append_empty]

theorem Flaw.message_noCommand (line : UInt32) :
    (Flaw.noCommand line).message =
      "Empty repeat command" ++ s!" on line {line.toNat}" ++ "" := by
  have hstart : "Empty repeat command on line " = "Empty repeat command" ++ " on line " := by decide
  unfold Flaw.message
  rw [hstart]
  simp only [toString, String.append_assoc, String.append_empty]

/-- A flaw that is on a line names this line. -/
theorem Flaw.names_of_line? {flaw : Flaw} {line : UInt32} (h : flaw.line? = some line) :
    flaw.Names line.toNat := by
  cases flaw with
  | unreadable path cause => exact nomatch h
  | tooManyLines => exact nomatch h
  | noColon line =>
      obtain rfl := Option.some.inj h
      exact names_of_message _ _ (message_noColon line) (.inr ⟨_, rfl⟩)
  | badCount line fault =>
      obtain rfl := Option.some.inj h
      exact names_of_message _ _ (message_badCount line fault) (.inr ⟨_, rfl⟩)
  | zeroCount line =>
      obtain rfl := Option.some.inj h
      exact names_of_message _ _ (message_zeroCount line) (.inl rfl)
  | noCommand line =>
      obtain rfl := Option.some.inj h
      exact names_of_message _ _ (message_noCommand line) (.inl rfl)

theorem readRepeat_line? {line : UInt32} {rest : List Char} {flaw : Flaw}
    (h : readRepeat line rest = .error flaw) : flaw.line? = some line := by
  unfold readRepeat at h
  split at h
  · obtain rfl := Except.error.inj h
    rfl
  · split at h
    · obtain rfl := Except.error.inj h
      rfl
    · dsimp only at h
      split at h
      · obtain rfl := Except.error.inj h
        rfl
      · split at h
        · obtain rfl := Except.error.inj h
          rfl
        · exact nomatch h

/-- **What is read from a line is what it holds.** -/
theorem readLine_holds {line : UInt32} {text : List Char} {held : Option Statement}
    (h : readLine line text = .ok held) : Holds line.toNat text held := by
  have htrim := trims_trim text
  unfold readLine at h
  dsimp only at h
  split at h
  · rename_i hnone
    obtain rfl := Except.ok.inj h
    cases htext : Text.trim text with
    | nil => exact .blank (htext ▸ htrim)
    | cons c rest =>
        rw [htext] at hnone htrim
        have hc : c = '#' := by simpa using hnone
        exact .comment (hc ▸ htrim)
  · rename_i hsome
    simp only [Bool.or_eq_true, List.isEmpty_iff, beq_iff_eq, not_or] at hsome
    obtain ⟨hne, hcomment⟩ := hsome
    split at h
    · rename_i hstrip
      obtain rfl := Except.ok.inj h
      refine .once htrim hne hcomment ?_ rfl rfl rfl
      intro ⟨rest, hrest⟩
      rw [stripStart?_eq_some_iff.mpr hrest] at hstrip
      exact nomatch hstrip
    · rename_i rest hstrip
      split at h
      · exact nomatch h
      · rename_i hread
        obtain rfl := Except.ok.inj h
        rw [stripStart?_eq_some_iff.mp hstrip] at htrim
        exact .repeated htrim (readRepeat_eq_ok_iff.mp hread) rfl rfl

/-- A line can only be refused as a repetition. -/
theorem readLine_error {line : UInt32} {text : List Char} {flaw : Flaw}
    (h : readLine line text = .error flaw) :
    ∃ rest, Text.trim text = repeatWord ++ rest ∧ readRepeat line rest = .error flaw := by
  unfold readLine at h
  dsimp only at h
  split at h
  · exact nomatch h
  · split at h
    · exact nomatch h
    · rename_i rest hstrip
      split at h
      · rename_i hread
        obtain rfl := Except.error.inj h
        exact ⟨rest, stripStart?_eq_some_iff.mp hstrip, hread⟩
      · exact nomatch h

/-- The flaw of a line is on this line. -/
theorem readLine_line? {line : UInt32} {text : List Char} {flaw : Flaw}
    (h : readLine line text = .error flaw) : flaw.line? = some line := by
  obtain ⟨rest, -, hread⟩ := readLine_error h
  exact readRepeat_line? hread

/-- **A line that is refused is not acceptable,** and its flaw names its number. -/
theorem readLine_refused {line : UInt32} {text : List Char} {flaw : Flaw}
    (h : readLine line text = .error flaw) : ¬ Acceptable text ∧ flaw.Names line.toNat := by
  refine ⟨?_, Flaw.names_of_line? (readLine_line? h)⟩
  intro haccept
  obtain ⟨rest, htrim, hread⟩ := readLine_error h
  obtain ⟨count, command, hrepetition⟩ := haccept rest (trims_iff.mpr htrim.symm)
  rw [readRepeat_eq_ok_iff.mpr hrepetition] at hread
  exact nomatch hread

end Script

end Lockstep
