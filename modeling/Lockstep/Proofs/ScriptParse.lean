import Lockstep.Proofs.Iterations
import Lockstep.Proofs.ScriptGrammar

/-!
# Which texts are scripts

A text is a script when its lines are, and lines are a script when each of them is acceptable:
`Says` puts together what the lines hold, one after another, and `readLines_eq_ok_iff` says that
the reader finds this and nothing else, as long as the numbers of the lines fit. If it finds
nothing, it stopped at the first line that is not acceptable (`Offence`), or it ran out of numbers.

All of it goes by induction on the lines, with the number of the first line left open.
-/

namespace Lockstep.Script

open Decimal (max32)
open Lines (Divided)
open Text (Trims trims_iff trims_trim)

/-! ## What lines say -/

/-- What the lines hold, where the first of them has this number. -/
inductive Says : Nat → List (List Char) → List Statement → Prop
  | done {number : Nat} : Says number [] []
  | skip {number : Nat} {line : List Char} {lines : List (List Char)} {script : List Statement} :
      Holds number line none → Says (number + 1) lines script → Says number (line :: lines) script
  | state {number : Nat} {line : List Char} {lines : List (List Char)} {s : Statement}
      {script : List Statement} :
      Holds number line (some s) → Says (number + 1) lines script →
      Says number (line :: lines) (s :: script)

/-- This flaw names the first line that is not acceptable. -/
structure Offence (number : Nat) (lines : List (List Char)) (flaw : Flaw) : Prop where
  first : ∃ before line after, lines = before ++ line :: after ∧
    (∀ earlier ∈ before, Acceptable earlier) ∧ ¬ Acceptable line ∧
    flaw.Names (number + before.length)

/-- A command that runs at least once, on one line and without blanks at its ends. -/
structure Tidy (s : Statement) : Prop where
  positive : 1 ≤ s.repeats
  bounded : s.repeats ≤ max32
  nonempty : s.command ≠ ""
  oneLine : '\n' ∉ s.command.toList
  trimmed : Trims s.command.toList s.command.toList

variable {number : Nat} {line : List Char} {lines : List (List Char)} {script : List Statement}
  {flaw : Flaw}

theorem toNat_ofNat_line (h : number ≤ max32) : (UInt32.ofNat number).toNat = number := by
  rw [UInt32.toNat_ofNat']
  rw [max32] at h
  omega

/-- What the first line holds comes first. -/
theorem says_cons_iff :
    Says number (line :: lines) script ↔ ∃ held later, Holds number line held ∧
      Says (number + 1) lines later ∧ script = held.toList ++ later := by
  constructor
  · intro h
    cases h with
    | skip hline hlines => exact ⟨none, _, hline, hlines, rfl⟩
    | state hline hlines => exact ⟨some _, _, hline, hlines, rfl⟩
  · intro ⟨held, later, hline, hlines, hscript⟩
    rw [hscript]
    cases held with
    | none => exact .skip hline hlines
    | some s => exact .state hline hlines

theorem Says.acceptable (h : Says number lines script) : ∀ line ∈ lines, Acceptable line := by
  induction h with
  | done => exact List.forall_mem_nil _
  | skip hline _ ih => exact List.forall_mem_cons.mpr ⟨hline.acceptable, ih⟩
  | state hline _ ih => exact List.forall_mem_cons.mpr ⟨hline.acceptable, ih⟩

/-- A statement comes from one of the lines. -/
theorem Says.held (h : Says number lines script) :
    ∀ s ∈ script, ∃ n line, line ∈ lines ∧ Holds n line (some s) := by
  induction h with
  | done => exact List.forall_mem_nil _
  | skip _ _ ih =>
      intro s hs
      obtain ⟨n, line, hmem, hholds⟩ := ih s hs
      exact ⟨n, line, List.mem_cons_of_mem _ hmem, hholds⟩
  | state hline _ ih =>
      intro s hs
      rcases List.mem_cons.mp hs with rfl | hlater
      · exact ⟨_, _, List.mem_cons_self, hline⟩
      · obtain ⟨n, line, hmem, hholds⟩ := ih s hlater
        exact ⟨n, line, List.mem_cons_of_mem _ hmem, hholds⟩

/-! ## One line -/

/-- What a line holds is read from it. -/
theorem Holds.readLine_eq {held : Option Statement} (h : Holds number line held)
    (hnumber : number ≤ max32) : readLine (UInt32.ofNat number) line = .ok held := by
  have hline := toNat_ofNat_line hnumber
  have hplace : ∀ {s : Statement}, s.line.toNat = number → s.line = UInt32.ofNat number := by
    intro s hs
    exact UInt32.toNat_inj.mp (hs.trans hline.symm)
  unfold readLine
  cases h with
  | blank htrim =>
      rw [← trims_iff.mp htrim]
      rfl
  | comment htrim =>
      rw [← trims_iff.mp htrim]
      rfl
  | @once text s htrim hne hcomment hword hs hcommand hrepeats =>
      -- the reader looks for the word of repetitions, and it is not there
      have hstrip : stripStart? repeatWord text = none := by
        cases hstrip : stripStart? repeatWord text with
        | none => rfl
        | some rest => exact absurd ⟨rest, stripStart?_eq_some_iff.mp hstrip⟩ hword
      have hnot : ¬ (text.isEmpty || text.head? == some '#') = true := by simp [hne, hcomment]
      rw [← trims_iff.mp htrim]
      dsimp only
      rw [if_neg hnot, hstrip]
      dsimp only
      rw [← hcommand, ← hplace hs, ← hrepeats]
  | @repeated rest command s htrim hrepetition hs hcommand =>
      have hnot : ¬ ((repeatWord ++ rest).isEmpty || (repeatWord ++ rest).head? == some '#') = true :=
        Bool.false_ne_true
      rw [← trims_iff.mp htrim]
      dsimp only
      rw [if_neg hnot, stripStart?_eq_some_iff.mpr rfl]
      dsimp only
      rw [readRepeat_eq_ok_iff.mpr hrepetition]
      dsimp only
      rw [← hcommand, ← hplace hs]

theorem tidy_of_trims {s : Statement} {source command : List Char} (htrim : Trims source command)
    (hfeed : '\n' ∉ source) (hne : command ≠ []) (hcommand : s.command = String.ofList command)
    (hpositive : 1 ≤ s.repeats) (hbounded : s.repeats ≤ max32) : Tidy s := by
  have hlist : s.command.toList = command := by rw [hcommand, String.toList_ofList]
  refine ⟨hpositive, hbounded, ?_, ?_, ?_⟩
  · intro hempty
    rw [hempty] at hlist
    exact hne hlist.symm
  · rw [hlist]
    intro hmem
    exact hfeed (htrim.mem hmem)
  · rw [hlist]
    exact htrim.self

theorem Holds.tidy {s : Statement} (h : Holds number line (some s)) (hfeed : '\n' ∉ line) :
    Tidy s := by
  cases h with
  | once htrim hne _ _ _ hcommand hrepeats =>
      have hbound : 1 ≤ max32 := by decide
      exact tidy_of_trims htrim hfeed hne hcommand hrepeats.ge (hrepeats ▸ hbound)
  | repeated htrim hrepetition _ hcommand =>
      obtain ⟨before, after, _, hrest, _, _, _, hafter⟩ := hrepetition.parts
      -- the command is a part of the line, so it is on one line as well
      have hsource : '\n' ∉ after := by
        intro hmem
        refine hfeed (htrim.mem ?_)
        rw [hrest]
        simp [hmem]
      exact tidy_of_trims hafter hsource hrepetition.nonempty hcommand hrepetition.positive
        hrepetition.bounded

/-! ## All lines -/

/-- **The reader finds what the lines say,** if their numbers fit. -/
theorem readLines_eq_ok_iff (hnumber : number ≤ max32 + 1) :
    readLines number lines = .ok script ↔
      number + lines.length ≤ max32 + 1 ∧ Says number lines script := by
  induction lines generalizing number script with
  | nil =>
      constructor
      · intro h
        obtain rfl := Except.ok.inj h
        exact ⟨hnumber, .done⟩
      · intro ⟨_, hsays⟩
        cases hsays with
        | done => rfl
  | cons line rest ih =>
      constructor
      · intro h
        obtain ⟨hle, held, later, hline, hrest, hscript⟩ := readLines_cons h
        obtain ⟨hlength, hsays⟩ := (ih (by omega)).mp hrest
        have hholds := readLine_holds hline
        rw [toNat_ofNat_line hle] at hholds
        exact ⟨by rw [List.length_cons]; omega,
          says_cons_iff.mpr ⟨held, later, hholds, hsays, hscript⟩⟩
      · intro ⟨hlength, hsays⟩
        rw [List.length_cons] at hlength
        have hle : number ≤ max32 := by omega
        have hfits : ¬ number > max32 := by omega
        obtain ⟨held, later, hline, hrest, rfl⟩ := says_cons_iff.mp hsays
        rw [readLines, if_neg hfits, hline.readLine_eq hle]
        dsimp only
        rw [(ih (by omega)).mpr ⟨by omega, hrest⟩]

/-- The reader stopped at this line: the ones before it can be read, and it is refused. -/
structure StopsAt (number : Nat) (lines before : List (List Char)) (flaw : Flaw) : Prop where
  reached : number + before.length ≤ max32
  acceptable : ∀ earlier ∈ before, Acceptable earlier
  refused : ∃ line after, lines = before ++ line :: after ∧
    readLine (UInt32.ofNat (number + before.length)) line = .error flaw

/-- **A reader that fails stopped at the first line that is refused,** or it ran out of numbers. -/
theorem readLines_stopsAt (hnumber : number ≤ max32 + 1)
    (h : readLines number lines = .error flaw) :
    (∃ before, StopsAt number lines before flaw) ∨
      flaw = .tooManyLines ∧ max32 + 1 < number + lines.length := by
  induction lines generalizing number with
  | nil =>
      rw [readLines] at h
      cases h
  | cons line rest ih =>
      rw [readLines] at h
      rw [List.length_cons]
      split at h
      · obtain rfl := Except.error.inj h
        exact .inr ⟨rfl, by omega⟩
      · rename_i hfits
        have hle : number ≤ max32 := by omega
        split at h
        · rename_i hline
          obtain rfl := Except.error.inj h
          exact .inl ⟨[], hle, List.forall_mem_nil _, line, rest, rfl, hline⟩
        · rename_i hline
          split at h
          · rename_i hrest
            obtain rfl := Except.error.inj h
            rcases ih (by omega) hrest with ⟨before, hstops⟩ | ⟨hmany, hlength⟩
            · obtain ⟨offender, after, rfl, hrefused⟩ := hstops.refused
              have hplace : number + 1 + before.length = number + (line :: before).length := by
                rw [List.length_cons]
                omega
              have haccept := (readLine_holds hline).acceptable
              refine .inl ⟨line :: before, ?_, ?_, offender, after, rfl, ?_⟩
              · exact hplace ▸ hstops.reached
              · exact List.forall_mem_cons.mpr ⟨haccept, hstops.acceptable⟩
              · exact hplace ▸ hrefused
            · exact .inr ⟨hmany, by omega⟩
          · cases h

/-- A reader that fails has come to an offence, or it has run out of numbers. -/
theorem readLines_error (hnumber : number ≤ max32 + 1)
    (h : readLines number lines = .error flaw) :
    Offence number lines flaw ∨ flaw = .tooManyLines ∧ max32 + 1 < number + lines.length := by
  refine (readLines_stopsAt hnumber h).imp_left ?_
  intro ⟨before, hreached, haccept, line, after, hlines, hread⟩
  obtain ⟨hrefused, hnames⟩ := readLine_refused hread
  rw [toNat_ofNat_line hreached] at hnames
  exact ⟨before, line, after, hlines, haccept, hrefused, hnames⟩

/-- Lines whose numbers fit are a script when each of them is acceptable. -/
theorem exists_says_iff (hlength : number + lines.length ≤ max32 + 1) :
    (∃ script, Says number lines script) ↔ ∀ line ∈ lines, Acceptable line := by
  constructor
  · intro ⟨script, hsays⟩
    exact hsays.acceptable
  · intro haccept
    have hnumber : number ≤ max32 + 1 := by omega
    cases hread : readLines number lines with
    | ok script => exact ⟨script, ((readLines_eq_ok_iff hnumber).mp hread).2⟩
    | error flaw =>
        rcases readLines_error hnumber hread with hoffence | ⟨_, hlong⟩
        · obtain ⟨_, line, _, hsplit, _, hrefused, _⟩ := hoffence.first
          exact absurd (haccept line (by rw [hsplit]; simp)) hrefused
        · omega

theorem parse_eq_ok_iff {text : List Char} :
    parse text = .ok script ↔
      (Lines.ofText text).length ≤ max32 ∧ Says 1 (Lines.ofText text) script := by
  rw [parse, readLines_eq_ok_iff (by decide), Nat.add_comm, Nat.add_le_add_iff_right]

/-- **A text is a script when each of its lines is acceptable,** and then it holds what its lines
say. Otherwise the flaw names the first line that is not, and a text with more lines than there are
numbers is no script at all. -/
theorem parse_grammar (text : List Char) :
    ∃ lines, (∀ others, Divided text others ↔ others = lines) ∧
      (∀ script, parse text = .ok script ↔ lines.length ≤ max32 ∧ Says 1 lines script) ∧
      (∀ script, parse text = .ok script → Ordered script ∧ ∀ s ∈ script, Tidy s) ∧
      (lines.length ≤ max32 →
        ((∃ script, parse text = .ok script) ↔ ∀ line ∈ lines, Acceptable line) ∧
        ∀ flaw, parse text = .error flaw → Offence 1 lines flaw) ∧
      (max32 < lines.length → ∃ flaw, parse text = .error flaw) := by
  refine ⟨Lines.ofText text, fun others => Lines.divided_iff, fun script => parse_eq_ok_iff,
    ?_, ?_, ?_⟩
  · intro script h
    refine ⟨parse_ordered h, ?_⟩
    intro s hs
    obtain ⟨_, line, hline, hholds⟩ := (parse_eq_ok_iff.mp h).2.held s hs
    exact hholds.tidy ((Lines.divided_ofText text).lineFeed_not_mem line hline)
  · intro hlength
    have hfits : 1 + (Lines.ofText text).length ≤ max32 + 1 := by omega
    refine ⟨?_, ?_⟩
    · rw [← exists_says_iff hfits]
      constructor
      · intro ⟨script, h⟩
        exact ⟨script, (parse_eq_ok_iff.mp h).2⟩
      · intro ⟨script, hsays⟩
        exact ⟨script, parse_eq_ok_iff.mpr ⟨hlength, hsays⟩⟩
    · intro flaw h
      rcases readLines_error (by decide) h with hoffence | ⟨_, hlong⟩
      · exact hoffence
      · omega
  · intro hlong
    cases h : parse text with
    | error flaw => exact ⟨flaw, rfl⟩
    | ok script =>
        have hfits := (parse_eq_ok_iff.mp h).1
        omega

end Lockstep.Script
