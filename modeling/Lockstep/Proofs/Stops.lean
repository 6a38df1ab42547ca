import Lockstep.Controller.Stepping
import Mathlib.Data.List.Destutter

/-!
# Where a target is suspended

The stepper decides line by line, from the last line that counted. Over a whole list of lines its
decisions have a plain description: of the lines of the target file, in order, those that differ
from the one before. `stopsFrom` is the stepper's recursion and `stops` the description, and
`stopsFrom_none` says that they agree.
-/

namespace Lockstep

/-- The lines of the target file, in order. -/
def targetLines (lines : List (UInt32 × Bool)) : List UInt32 := (lines.filter (·.2)).map (·.1)

/-- The lines at which a target is suspended: those of its file, without repetitions. -/
def stops (lines : List (UInt32 × Bool)) : List UInt32 := (targetLines lines).destutter (· ≠ ·)

/-- The new lines among those to come, after the last one that counted. -/
def stopsFrom (last : Option UInt32) : List (UInt32 × Bool) → List UInt32
  | [] => []
  | (line, inTarget) :: rest =>
    if inTarget ∧ last ≠ some line then line :: stopsFrom (some line) rest else stopsFrom last rest

theorem stopsFrom_cons_new {last : Option UInt32} {line : UInt32} (h : last ≠ some line)
    (rest : List (UInt32 × Bool)) :
    stopsFrom last ((line, true) :: rest) = line :: stopsFrom (some line) rest :=
  if_pos ⟨rfl, h⟩

theorem stopsFrom_cons_repeated (line : UInt32) (rest : List (UInt32 × Bool)) :
    stopsFrom (some line) ((line, true) :: rest) = stopsFrom (some line) rest :=
  if_neg fun h => h.2 rfl

theorem stopsFrom_cons_foreign (last : Option UInt32) (line : UInt32)
    (rest : List (UInt32 × Bool)) :
    stopsFrom last ((line, false) :: rest) = stopsFrom last rest :=
  if_neg fun h => absurd h.1 (by decide)

/-! ## The description -/

/-- After a line that counted, the new lines are the others that are left when repetitions go. -/
theorem destutter_eq_cons_stopsFrom (last : UInt32) (lines : List (UInt32 × Bool)) :
    (targetLines lines).destutter' (· ≠ ·) last = last :: stopsFrom (some last) lines := by
  induction lines generalizing last with
  | nil => rfl
  | cons event rest ih =>
      obtain ⟨line, inTarget⟩ := event
      cases inTarget with
      | false =>
          rw [stopsFrom_cons_foreign, ← ih]
          rfl
      | true =>
          show (line :: targetLines rest).destutter' (· ≠ ·) last = _
          by_cases h : last = line
          · -- a repetition goes in both, and `last` stays what the next line is compared with
            subst h
            rw [List.destutter'_cons_neg _ (by simp), stopsFrom_cons_repeated, ih]
          · have hnew : some last ≠ some line := fun e => h (Option.some.inj e)
            rw [List.destutter'_cons_pos _ h, stopsFrom_cons_new hnew, ih]

/-- **From the start, the stepper's decisions are the description.** -/
theorem stopsFrom_none (lines : List (UInt32 × Bool)) : stopsFrom none lines = stops lines := by
  induction lines with
  | nil => rfl
  | cons event rest ih =>
      obtain ⟨line, inTarget⟩ := event
      cases inTarget with
      | false =>
          rw [stopsFrom_cons_foreign, ih]
          rfl
      | true =>
          rw [stopsFrom_cons_new (Option.some_ne_none line).symm]
          exact (destutter_eq_cons_stopsFrom line rest).symm

end Lockstep
