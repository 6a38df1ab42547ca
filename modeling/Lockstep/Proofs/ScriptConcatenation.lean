import Lockstep.Proofs.ScriptParse

/-!
# Scripts one after another

A text that ends with a line feed can be followed by another text, and neither changes the lines of
the other (`Lines.ofText_append`). So a script may be put together from parts, and it is read as its
parts are: the first part that cannot be read fails the whole, and otherwise the statements of all
parts come one after another. A part does not know how many lines there are before it. All that
depends on them are numbers of lines, which are those of the part, counted on.

`lowered` counts on. It commutes with the reader of one line (`readLine_lowered`) and from there,
line by line, with the reader of all (`readLines_lowered`). That the second part is read after the
first one is `readLines_append`, which is an induction on the lines of the first.
-/

namespace Lockstep

open Decimal (max32)

/-- The same statement, so many lines further down. -/
def Statement.lowered (n : Nat) (s : Statement) : Statement :=
  { s with line := UInt32.ofNat n + s.line }

namespace Script

/-- The same flaw, so many lines further down. -/
def Flaw.lowered (n : Nat) : Flaw → Flaw
  | .unreadable path cause => .unreadable path cause
  | .tooManyLines => .tooManyLines
  | .noColon line => .noColon (UInt32.ofNat n + line)
  | .badCount line fault => .badCount (UInt32.ofNat n + line) fault
  | .zeroCount line => .zeroCount (UInt32.ofNat n + line)
  | .noCommand line => .noCommand (UInt32.ofNat n + line)

/-- What was read, so many lines further down. -/
def lower {α : Type} (n : Nat) (f : α → α) : Except Flaw α → Except Flaw α
  | .ok a => .ok (f a)
  | .error flaw => .error (flaw.lowered n)

variable {number n : Nat} {lines : List (List Char)} {flaw : Flaw}

theorem toNat_lowered {line : UInt32} (h : n + line.toNat ≤ max32) :
    (UInt32.ofNat n + line).toNat = n + line.toNat := by
  rw [max32] at h
  rw [UInt32.toNat_add, UInt32.toNat_ofNat']
  omega

theorem ofNat_lowered (n number : Nat) :
    UInt32.ofNat (n + number) = UInt32.ofNat n + UInt32.ofNat number := UInt32.ofNat_add n number

/-! ## One line -/

/-- A repetition says the same wherever it stands. -/
theorem readRepeat_lowered (n : Nat) (line : UInt32) (rest : List Char) :
    readRepeat (UInt32.ofNat n + line) rest = lower n id (readRepeat line rest) := by
  unfold readRepeat
  cases cutColon? rest with
  | none => rfl
  | some parts =>
      obtain ⟨count, command⟩ := parts
      dsimp only
      cases Decimal.readNatural max32 (Text.trim count) with
      | error fault => rfl
      | ok count =>
          dsimp only
          split
          · rfl
          · split <;> rfl

/-- A line says the same wherever it stands. -/
theorem readLine_lowered (n : Nat) (line : UInt32) (text : List Char) :
    readLine (UInt32.ofNat n + line) text =
      lower n (Option.map (Statement.lowered n)) (readLine line text) := by
  unfold readLine
  dsimp only
  split
  · rfl
  · cases stripStart? repeatWord (Text.trim text) with
    | none => rfl
    | some rest =>
        dsimp only
        rw [readRepeat_lowered]
        cases readRepeat line rest with
        | error flaw => rfl
        | ok read => rfl

/-- **The message of a flaw is the same further down,** but for the number of the line. -/
theorem Flaw.message_lowered {line : UInt32} (h : flaw.line? = some line)
    (hn : n + line.toNat ≤ max32) :
    ∃ before after, flaw.message = before ++ s!" on line {line.toNat}" ++ after ∧
      (flaw.lowered n).message = before ++ s!" on line {n + line.toNat}" ++ after := by
  have hline := toNat_lowered hn
  cases flaw with
  | unreadable path cause => exact nomatch h
  | tooManyLines => exact nomatch h
  | noColon line =>
      obtain rfl := Option.some.inj h
      refine ⟨_, _, message_noColon line, ?_⟩
      rw [← hline]
      exact message_noColon _
  | badCount line fault =>
      obtain rfl := Option.some.inj h
      refine ⟨_, _, message_badCount line fault, ?_⟩
      rw [← hline]
      exact message_badCount _ fault
  | zeroCount line =>
      obtain rfl := Option.some.inj h
      refine ⟨_, _, message_zeroCount line, ?_⟩
      rw [← hline]
      exact message_zeroCount _
  | noCommand line =>
      obtain rfl := Option.some.inj h
      refine ⟨_, _, message_noCommand line, ?_⟩
      rw [← hline]
      exact message_noCommand _

/-! ## All lines -/

/-- **Lines that follow others are read after them,** and not at all if those cannot be read. -/
theorem readLines_append (number : Nat) (a b : List (List Char)) :
    readLines number (a ++ b) =
      match readLines number a with
      | .error flaw => .error flaw
      | .ok first =>
        match readLines (number + a.length) b with
        | .error flaw => .error flaw
        | .ok later => .ok (first ++ later) := by
  induction a generalizing number with
  | nil =>
      simp only [List.nil_append, List.length_nil, Nat.add_zero, readLines]
      cases readLines number b <;> rfl
  | cons line rest ih =>
      rw [List.cons_append, readLines, readLines]
      split
      · rfl
      · cases readLine (UInt32.ofNat number) line with
        | error flaw => rfl
        | ok held =>
            dsimp only
            rw [ih (number + 1), List.length_cons, Nat.add_right_comm number 1, Nat.add_assoc]
            cases readLines (number + 1) rest with
            | error flaw => rfl
            | ok first =>
                dsimp only
                cases readLines (number + (rest.length + 1)) b with
                | error flaw => rfl
                | ok later => exact congrArg Except.ok (List.append_assoc _ _ _).symm

/-- **Lines say the same wherever they stand,** as long as there are numbers for them. -/
theorem readLines_lowered (hfits : n + number + lines.length ≤ max32 + 1) :
    readLines (n + number) lines =
      lower n (List.map (Statement.lowered n)) (readLines number lines) := by
  induction lines generalizing number with
  | nil => rfl
  | cons line rest ih =>
      rw [List.length_cons] at hfits
      have hrest := ih (show n + (number + 1) + rest.length ≤ max32 + 1 by omega)
      have hhere : ¬ number > max32 := by omega
      have hthere : ¬ n + number > max32 := by omega
      rw [readLines, readLines, if_neg hhere, if_neg hthere, ofNat_lowered, readLine_lowered,
        Nat.add_assoc, hrest]
      cases readLine (UInt32.ofNat number) line with
      | error flaw => rfl
      | ok held =>
          dsimp only [lower]
          cases readLines (number + 1) rest with
          | error flaw => rfl
          | ok later =>
              dsimp only
              cases held <;> rfl

/-- Line `k` is the first one that is not acceptable. -/
def Refused (lines : List (List Char)) (k : Nat) : Prop :=
  ∃ before line after, lines = before ++ line :: after ∧ before.length + 1 = k ∧
    (∀ earlier ∈ before, Acceptable earlier) ∧ ¬ Acceptable line

/-- A reader that fails stopped at the first line that is not acceptable. -/
theorem readLines_refused (hfits : number + lines.length ≤ max32 + 1)
    (h : readLines number lines = .error flaw) :
    ∃ k line, Refused lines k ∧ k ≤ lines.length ∧ flaw.line? = some line ∧
      line.toNat + 1 = number + k := by
  rcases readLines_stopsAt (by omega) h with ⟨before, hstops⟩ | ⟨-, hlong⟩
  · obtain ⟨line, after, rfl, hread⟩ := hstops.refused
    have hrefused := (readLine_refused hread).1
    refine ⟨before.length + 1, _, ⟨before, line, after, rfl, rfl, hstops.acceptable, hrefused⟩, ?_,
      readLine_line? hread, ?_⟩
    · rw [List.length_append, List.length_cons]
      omega
    · rw [toNat_ofNat_line hstops.reached]
      omega
  · omega

theorem Holds.line_eq {line : List Char} {s : Statement} (h : Holds number line (some s)) :
    s.line.toNat = number := by
  cases h with
  | once _ _ _ _ hs _ _ => exact hs
  | repeated _ _ hs _ => exact hs

/-- A statement is on one of the lines. -/
theorem Says.line_lt {script : List Statement} (h : Says number lines script) :
    ∀ s ∈ script, s.line.toNat < number + lines.length := by
  induction h with
  | done => exact List.forall_mem_nil _
  | skip _ _ ih =>
      intro s hs
      have hlt := ih s hs
      rw [List.length_cons]
      omega
  | state hline _ ih =>
      intro s hs
      rw [List.length_cons]
      rcases List.mem_cons.mp hs with rfl | hlater
      · have heq := hline.line_eq
        omega
      · have hlt := ih s hlater
        omega

/--
**A script may be put together from parts.** The first part is empty or ends with a line feed, and
all lines together have numbers. If the first part is no script, the whole fails as it does. If only
the second part is none, the whole fails for the same reason as the second part does at its first
line that is not acceptable, with the number of this line counted from the beginning of the whole.
Otherwise the whole has the statements of the first part and then those of the second, with their
lines counted on.
-/
theorem parse_append {a b : List Char} (ha : a = [] ∨ a.getLast? = some '\n')
    (hlines : (Lines.ofText (a ++ b)).length ≤ max32) :
    let n := (Lines.ofText a).length
    (∀ flaw, parse a = .error flaw → parse (a ++ b) = .error flaw) ∧
      (∀ first flaw, parse a = .ok first → parse b = .error flaw →
        parse (a ++ b) = .error (flaw.lowered n) ∧
          ∃ k, Refused (Lines.ofText b) k ∧ ∃ before after,
            flaw.message = before ++ s!" on line {k}" ++ after ∧
              (flaw.lowered n).message = before ++ s!" on line {n + k}" ++ after) ∧
      ∀ first later, parse a = .ok first → parse b = .ok later →
        parse (a ++ b) = .ok (first ++ later.map (Statement.lowered n)) ∧
          ∀ s ∈ later, (s.lowered n).line.toNat = n + s.line.toNat := by
  intro n
  have htext := Lines.ofText_append ha b
  rw [htext, List.length_append] at hlines
  have hfits : n + (Lines.ofText b).length ≤ max32 := hlines
  have hwhole := readLines_append 1 (Lines.ofText a) (Lines.ofText b)
  -- the lines of the second part are read with the numbers from `n + 1` on
  have hnumbers : n + 1 + (Lines.ofText b).length ≤ max32 + 1 := by omega
  have hsecond := readLines_lowered hnumbers
  rw [Nat.add_comm n 1] at hsecond
  rw [hsecond, ← htext] at hwhole
  refine ⟨?_, ?_, ?_⟩
  · intro flaw hfirst
    rw [parse] at hfirst ⊢
    rw [hwhole, hfirst]
  · intro first flaw hfirst hflaw
    rw [parse] at hfirst hflaw ⊢
    obtain ⟨k, line, hrefused, hk, hline, hnumber⟩ := readLines_refused (by omega) hflaw
    have hkline : line.toNat = k := by omega
    refine ⟨?_, k, hrefused, ?_⟩
    · rw [hwhole, hfirst, hflaw]
      rfl
    · rw [← hkline]
      exact Flaw.message_lowered hline (by omega)
  · intro first later hfirst hlater
    refine ⟨?_, ?_⟩
    · rw [parse] at hfirst hlater ⊢
      rw [hwhole, hfirst, hlater]
      rfl
    · intro s hs
      have hlt := (parse_eq_ok_iff.mp hlater).2.line_lt s hs
      exact toNat_lowered (by omega)

/-- A comment and a command, and after them a command and a count that is none: the flaw is on the
second line of the second part, and on the fourth of the whole. -/
theorem parse_append_bad_count :
    let a := "# first\necho a\n".toList
    let b := "echo b\nrepeat x: echo c\n".toList
    a.getLast? = some '\n' ∧ (Lines.ofText (a ++ b)).length ≤ max32 ∧
      parse a = .ok [⟨2, "echo a", 1⟩] ∧ parse b = .error (.badCount 2 .badDigit) ∧
      parse (a ++ b) = .error (.badCount 4 .badDigit) := by
  intro a b
  have hend : a.getLast? = some '\n' := by decide
  have hlines : (Lines.ofText (a ++ b)).length ≤ max32 := by decide
  have ha : parse a = .ok [⟨2, "echo a", 1⟩] := by decide
  have hb : parse b = .error (.badCount 2 .badDigit) := by decide
  obtain ⟨-, hsecond, -⟩ := parse_append (a := a) (b := b) (.inr hend) hlines
  exact ⟨hend, hlines, ha, hb, (hsecond _ _ ha hb).1⟩

end Script

end Lockstep
