import Lockstep.Proofs.Stops
import Lockstep.Script.Statement

/-!
# The iterations of a script

A script that was read has its statements on later and later lines, and runs each at least once
(`parse_ordered`). Written out, it is one row of iterations, and the stepper sees nothing else: it
suspends the target at a new line and not at one that is repeated. That it stops exactly once at
each statement follows from the order of the lines and from nothing else (`stopsFrom_iterations`).
-/

namespace Lockstep.Script

/-- The statements stand on later and later lines, and each runs at least once. -/
structure Ordered (script : List Statement) : Prop where
  lines : script.Pairwise (·.line < ·.line)
  repeats : ∀ s ∈ script, 0 < s.repeats

/-! ## Scripts that were read -/

theorem readRepeat_positive {line : UInt32} {rest : List Char} {count : Nat} {command : List Char}
    (h : readRepeat line rest = .ok (count, command)) : 0 < count := by
  unfold readRepeat at h
  split at h
  · exact nomatch h
  · split at h
    · exact nomatch h
    · rename_i count' _
      dsimp only at h
      split at h
      · exact nomatch h
      · rename_i hcount
        split at h
        · exact nomatch h
        · obtain ⟨rfl, -⟩ := Prod.mk.inj (Except.ok.inj h)
          exact Nat.pos_of_ne_zero hcount

theorem readLine_eq_some {line : UInt32} {text : List Char} {s : Statement}
    (h : readLine line text = .ok (some s)) : s.line = line ∧ 0 < s.repeats := by
  unfold readLine at h
  dsimp only at h
  split at h
  · exact nomatch h
  · split at h
    · obtain rfl := Option.some.inj (Except.ok.inj h)
      exact ⟨rfl, Nat.one_pos⟩
    · split at h
      · exact nomatch h
      · rename_i hread
        obtain rfl := Option.some.inj (Except.ok.inj h)
        exact ⟨rfl, readRepeat_positive hread⟩

theorem readLines_cons {number : Nat} {text : List Char} {rest : List (List Char)}
    {script : List Statement} (h : readLines number (text :: rest) = .ok script) :
    number ≤ Decimal.max32 ∧ ∃ statement statements,
      readLine (UInt32.ofNat number) text = .ok statement ∧
        readLines (number + 1) rest = .ok statements ∧ script = statement.toList ++ statements := by
  rw [readLines] at h
  split at h
  · exact nomatch h
  · rename_i hnumber
    split at h
    · exact nomatch h
    · rename_i statement hline
      split at h
      · exact nomatch h
      · rename_i statements hrest
        exact ⟨Nat.le_of_not_gt hnumber, statement, statements, hline, hrest,
          (Except.ok.inj h).symm⟩

/-- The lines are numbered from the first one on, so no number comes again. -/
theorem readLines_ordered {number : Nat} {lines : List (List Char)} {script : List Statement}
    (h : readLines number lines = .ok script) :
    Ordered script ∧ ∀ s ∈ script, number ≤ s.line.toNat := by
  induction lines generalizing number script with
  | nil =>
      obtain rfl := Except.ok.inj h
      exact ⟨⟨.nil, nofun⟩, nofun⟩
  | cons text rest ih =>
      obtain ⟨hnumber, statement, statements, hline, hrest, rfl⟩ := readLines_cons h
      obtain ⟨⟨hlines, hrepeats⟩, hlater⟩ := ih hrest
      cases statement with
      | none => exact ⟨⟨hlines, hrepeats⟩, fun s hs => Nat.le_of_succ_le (hlater s hs)⟩
      | some s =>
          obtain ⟨hs, hpositive⟩ := readLine_eq_some hline
          have hfirst : s.line.toNat = number := by
            rw [hs, UInt32.toNat_ofNat']
            refine Nat.mod_eq_of_lt ?_
            rw [Decimal.max32] at hnumber
            omega
          have hlt : ∀ t ∈ statements, s.line < t.line := by
            intro t ht
            have hnext := hlater t ht
            exact UInt32.lt_iff_toNat_lt.mpr (by omega)
          refine ⟨⟨List.pairwise_cons.mpr ⟨hlt, hlines⟩, ?_⟩, ?_⟩
          · exact List.forall_mem_cons.mpr ⟨hpositive, hrepeats⟩
          · exact List.forall_mem_cons.mpr
              ⟨hfirst.ge, fun t ht => Nat.le_of_succ_le (hlater t ht)⟩

/-- **What was read as a script is ordered.** -/
theorem parse_ordered {text : List Char} {script : List Statement}
    (h : parse text = .ok script) : Ordered script := (readLines_ordered h).1

/-! ## Iterations -/

/-- All the times that statements run. -/
def iterations (script : List Statement) : List Statement :=
  script.flatMap fun s => List.replicate s.repeats s

/-- The lines that the target comes to. -/
def places (row : List Statement) : List (UInt32 × Bool) := row.map fun s => (s.line, true)

theorem iterations_cons (s : Statement) (script : List Statement) :
    iterations (s :: script) = List.replicate s.repeats s ++ iterations script :=
  List.flatMap_cons

theorem iterations_append (script more : List Statement) :
    iterations (script ++ more) = iterations script ++ iterations more :=
  List.flatMap_append

theorem map_iterations {α : Type} (f : Statement → α) (script : List Statement) :
    (iterations script).map f = script.flatMap fun s => .replicate s.repeats (f s) := by
  rw [iterations, List.map_flatMap]
  refine List.flatMap_congr ?_
  intro s _
  exact List.map_replicate

/-- An iteration is one of a statement, after all those of the statements before it. -/
theorem iterations_split {script tried left : List Statement} {s : Statement}
    (h : iterations script = tried ++ s :: left) :
    ∃ before after i, script = before ++ s :: after ∧ i < s.repeats ∧
      tried = iterations before ++ List.replicate i s := by
  induction script generalizing tried with
  | nil => exact absurd h (by simp [iterations])
  | cons t rest ih =>
      rw [iterations_cons] at h
      -- the iteration is one of `t`, or it comes after all of them
      have hlater : ∀ more, tried = List.replicate t.repeats t ++ more →
          iterations rest = more ++ s :: left → ∃ before after i, t :: rest = before ++ s :: after ∧
            i < s.repeats ∧ tried = iterations before ++ List.replicate i s := by
        rintro more rfl hrest
        obtain ⟨before, after, i, rfl, hi, rfl⟩ := ih hrest
        exact ⟨t :: before, after, i, rfl, hi, by rw [iterations_cons, List.append_assoc]⟩
      rcases List.append_eq_append_iff.mp h with ⟨more, htried, hrest⟩ | ⟨more, ht, hrest⟩
      · exact hlater more htried hrest
      · cases more with
        | nil =>
            rw [List.append_nil] at ht
            exact hlater [] (by rw [ht, List.append_nil]) hrest.symm
        | cons u more =>
            obtain ⟨rfl, -⟩ := List.cons.inj hrest
            obtain ⟨hlength, htried, hmore⟩ := List.replicate_eq_append_iff.mp ht
            obtain ⟨rfl, -⟩ := List.cons.inj hmore
            rw [List.length_cons] at hlength
            exact ⟨[], rest, tried.length, rfl, by omega, htried⟩

/-! ## Where iterations stop -/

theorem stopsFrom_replicate (s : Statement) (n : Nat) (more : List (UInt32 × Bool)) :
    stopsFrom (some s.line) (places (List.replicate n s) ++ more) =
      stopsFrom (some s.line) more := by
  induction n with
  | zero => rfl
  | succ n ih =>
      rw [List.replicate_succ, places, List.map_cons, List.cons_append, stopsFrom_cons_repeated]
      exact ih

/-- **An ordered script stops once at each of its statements,** however often these run. -/
theorem stopsFrom_iterations {script : List Statement} (h : Ordered script) {last : Option UInt32}
    (hlast : ∀ s ∈ script, last ≠ some s.line) :
    stopsFrom last (places (iterations script)) = script.map (·.line) := by
  induction script generalizing last with
  | nil => rfl
  | cons s rest ih =>
      obtain ⟨hs, hlines⟩ := List.pairwise_cons.mp h.lines
      obtain ⟨hpositive, hrepeats⟩ := List.forall_mem_cons.mp h.repeats
      obtain ⟨hnew, -⟩ := List.forall_mem_cons.mp hlast
      have hrest : ∀ t ∈ rest, some s.line ≠ some t.line := by
        intro t ht heq
        exact UInt32.lt_irrefl _ (Option.some.inj heq ▸ hs t ht)
      obtain ⟨n, hn⟩ := Nat.exists_eq_succ_of_ne_zero (Nat.pos_iff_ne_zero.mp hpositive)
      rw [iterations_cons, hn, List.replicate_succ, List.cons_append, places, List.map_cons,
        stopsFrom_cons_new hnew, List.map_append, List.map_cons]
      refine congrArg (s.line :: ·) ?_
      rw [← ih ⟨hlines, hrepeats⟩ hrest]
      exact stopsFrom_replicate s n _

/-- A script that stops at one of its statements, after some iterations of it, is ordered too. -/
theorem Ordered.stopped {before after : List Statement} {s : Statement}
    (h : Ordered (before ++ s :: after)) {n : Nat} (hn : 0 < n) :
    Ordered (before ++ [{ s with repeats := n }]) where
  lines := by
    obtain ⟨hbefore, -, hs⟩ := List.pairwise_append.mp h.lines
    refine List.pairwise_append.mpr ⟨hbefore, List.pairwise_singleton _ _, ?_⟩
    intro t ht u hu
    rw [List.mem_singleton.mp hu]
    exact hs t ht s List.mem_cons_self
  repeats := by
    intro t ht
    rcases List.mem_append.mp ht with ht | ht
    · exact h.repeats t (List.mem_append_left _ ht)
    · rw [List.mem_singleton.mp ht]
      exact hn

/-- It stops once at this statement, and at those before it. -/
theorem stopsFrom_stopped {before after : List Statement} {s : Statement}
    (h : Ordered (before ++ s :: after)) (i : Nat) :
    stopsFrom none (places (iterations before ++ List.replicate (i + 1) s)) =
      (before ++ [s]).map (·.line) := by
  have hstops := stopsFrom_iterations (h.stopped (Nat.succ_pos i))
    (fun t _ => (Option.some_ne_none t.line).symm)
  rw [iterations_append, places, List.map_append] at hstops
  rw [places, List.map_append, List.map_replicate]
  simpa [iterations] using hstops

end Lockstep.Script
