import Lockstep.Controller.World
import Lockstep.Proofs.Gate
import Lockstep.Proofs.Iterations
import Lockstep.Proofs.Subject

/-!
# How far a script gets

A host makes something of each command, and this may depend on the commands before. A script runs
its iterations one after another and stops with the first that fails: this is `Host.attempt`, which
knows nothing of clients. `Course` says the same of the statements of the script, and
`attempt_course` puts the two together, with where the stepper stops for the iterations that run.
-/

namespace Lockstep

open Controller (executed)

/-! ## Commands -/

namespace Script

/-- Whether a command was started and succeeded. -/
def succeeded : Except SystemError Completion → Bool
  | .ok completion => completion.status.succeeded
  | .error _ => false

end Script

open Script (succeeded)

namespace Statement

/-- The command of a statement. -/
def invocation (shell : String) (s : Statement) : Invocation := ⟨s.line, shell, s.command⟩

/-- The fault of a statement whose command came to this, and whose output was passed on. -/
def fault? (shell : String) (s : Statement) : Except SystemError Completion → Option String
  | .error cause => some s!"line {s.line.toNat}: failed to spawn '{shell}': {cause.message}"
  | .ok completion =>
    if completion.status.succeeded then none
    else some s!"line {s.line.toNat}: '{s.command}' exited with {completion.status.message}"

variable {shell : String} {s : Statement} {r : Except SystemError Completion}

theorem fault?_eq_none : s.fault? shell r = none ↔ succeeded r = true := by
  cases r with
  | error cause => exact ⟨nofun, nofun⟩
  | ok completion =>
      rw [fault?, succeeded]
      split
      · rename_i h; exact iff_of_true rfl h
      · rename_i h; exact iff_of_false nofun h

/-- A fault begins with the line of its statement. -/
theorem fault?_names_line {text : String} (h : s.fault? shell r = some text) :
    ∃ rest, text = s!"line {s.line.toNat}: " ++ rest := by
  cases r with
  | error cause =>
      obtain rfl := Option.some.inj h
      refine ⟨s!"failed to spawn '{shell}': {cause.message}", ?_⟩
      rw [show ": failed to spawn '" = ": " ++ "failed to spawn '" from rfl]
      simp only [toString, String.append_assoc]
  | ok completion =>
      rw [fault?] at h
      split at h
      · exact nomatch h
      · obtain rfl := Option.some.inj h
        refine ⟨s!"'{s.command}' exited with {completion.status.message}", ?_⟩
        rw [show ": '" = ": " ++ "'" from rfl]
        simp only [toString, String.append_assoc]

end Statement

namespace Script

variable {shell : String} {ran good : List (Statement × Except SystemError Completion)}

/-- The first fault of a row of iterations. -/
def firstFault (shell : String) (ran : List (Statement × Except SystemError Completion)) :
    Option String :=
  ran.findSome? fun x => x.1.fault? shell x.2

theorem firstFault_eq_none :
    firstFault shell ran = none ↔ ∀ x ∈ ran, succeeded x.2 = true := by
  rw [firstFault, List.findSome?_eq_none_iff]
  exact forall₂_congr fun _ _ => Statement.fault?_eq_none

/-- The fault of an iteration is the first one if there was none before. -/
theorem firstFault_append (h : ∀ x ∈ good, succeeded x.2 = true) (s : Statement)
    (r : Except SystemError Completion) :
    firstFault shell (good ++ [(s, r)]) = s.fault? shell r := by
  have hgood : good.findSome? (fun x => x.1.fault? shell x.2) = none := firstFault_eq_none.mpr h
  rw [firstFault, List.findSome?_append, hgood]
  exact List.findSome?_singleton

/-- Where the stepper stops for a row of iterations, after the last line that counted. -/
def breaksFrom (last : Option UInt32) (ran : List (Statement × Except SystemError Completion)) :
    List UInt32 :=
  stopsFrom last (places (ran.map Prod.fst))

variable {last : Option UInt32} {s : Statement} {r : Except SystemError Completion}

theorem breaksFrom_repeated :
    breaksFrom (some s.line) ((s, r) :: ran) = breaksFrom (some s.line) ran :=
  stopsFrom_cons_repeated s.line _

/-- The stepper stops at a new line, and then the line is not new any more. -/
theorem breaksFrom_new (h : last ≠ some s.line) :
    breaksFrom last ((s, r) :: ran) = s.line :: breaksFrom (some s.line) ((s, r) :: ran) := by
  rw [breaksFrom_repeated]
  exact stopsFrom_cons_new h _

end Script

open Script (firstFault breaksFrom)

namespace Host

variable {η : Type} (host : Host η)

/-- What comes of commands that are run one after another. -/
def results : η → List Invocation → List (Invocation × Except SystemError Completion)
  | _, [] => []
  | h, i :: rest => (i, (host.invoke h i).1) :: results (host.invoke h i).2 rest

/-- The iterations that are run, with what came of each, where the first that fails is the last. -/
def attempt (shell : String) : η → List Statement → List (Statement × Except SystemError Completion)
  | _, [] => []
  | h, s :: rest =>
    let (r, h) := host.invoke h (s.invocation shell)
    (s, r) :: if succeeded r then attempt shell h rest else []

theorem attempt_cons (shell : String) (h : η) (s : Statement) (rest : List Statement) :
    host.attempt shell h (s :: rest) =
      (s, (host.invoke h (s.invocation shell)).1) ::
        if succeeded (host.invoke h (s.invocation shell)).1 then
          host.attempt shell (host.invoke h (s.invocation shell)).2 rest
        else [] := rfl

/-- The commands of the iterations that are run, with what came of each. -/
theorem attempt_results (shell : String) (h : η) (row : List Statement) :
    (host.attempt shell h row).map (fun x => (x.1.invocation shell, x.2)) =
      host.results h ((host.attempt shell h row).map (·.1.invocation shell)) := by
  induction row generalizing h with
  | nil => rfl
  | cons s rest ih =>
      rw [attempt_cons]
      split
      · exact congrArg (_ :: ·) (ih _)
      · rfl

/-- All iterations are run and succeed, or they are run up to the first that fails. -/
theorem attempt_cases (shell : String) (h : η) (row : List Statement) :
    let ran := host.attempt shell h row
    (ran.map Prod.fst = row ∧ ∀ x ∈ ran, succeeded x.2 = true) ∨
      ∃ good s r left, ran = good ++ [(s, r)] ∧ row = good.map Prod.fst ++ s :: left ∧
        (∀ x ∈ good, succeeded x.2 = true) ∧ succeeded r = false := by
  induction row generalizing h with
  | nil => exact .inl ⟨rfl, nofun⟩
  | cons s rest ih =>
      dsimp only
      rw [attempt_cons]
      cases hr : succeeded (host.invoke h (s.invocation shell)).1 with
      | false => exact .inr ⟨[], s, _, rest, rfl, rfl, nofun, hr⟩
      | true =>
          rw [if_pos rfl]
          rcases ih (host.invoke h (s.invocation shell)).2 with
            ⟨hran, hgood⟩ | ⟨good, t, r, left, hran, hrow, hgood, hbad⟩
          · exact .inl ⟨congrArg (s :: ·) hran, List.forall_mem_cons.mpr ⟨hr, hgood⟩⟩
          · let x := (s, (host.invoke h (s.invocation shell)).1)
            refine .inr ⟨x :: good, t, r, left, ?_, ?_, ?_, hbad⟩
            · exact congrArg (_ :: ·) hran
            · exact congrArg (s :: ·) hrow
            · exact List.forall_mem_cons.mpr ⟨hr, hgood⟩

end Host

namespace Controller

/-- Whatever a controller does, its commands come to what the host makes of them one by one. -/
theorem executed_eq_results {η α : Type} (host : Host η) (d : Talk α) (w : World η) :
    executed (d.run (World.answer host) w).trace =
      host.results w.host ((executed (d.run (World.answer host) w).trace).map Prod.fst) := by
  induction d generalizing w with
  | done a => rfl
  | ask r next ih =>
      rw [Dialogue.run_ask]
      dsimp only
      have hrest := ih (World.answer host r w).1 (World.answer host r w).2
      cases r with
      | invoke i => exact congrArg (_ :: ·) hrest
      | _ => exact hrest

end Controller

/-! ## The course of a script -/

namespace Script

/-- How far a script gets: the statements that it reaches, and the commands that it runs with what
came of each. -/
inductive Course (shell : String) (script : List Statement) :
    List Statement → List (Invocation × Except SystemError Completion) → Prop
  /-- No iteration fails, and every statement runs as often as it says. -/
  | whole {ran : List (Invocation × Except SystemError Completion)} :
    ran.map Prod.fst = script.flatMap (fun s => .replicate s.repeats (s.invocation shell)) →
    (∀ x ∈ ran, succeeded x.2 = true) → Course shell script script ran
  /-- The statement `s` fails after `i` iterations that succeed, as do all those before it. -/
  | broken {before : List Statement} {s : Statement} {after : List Statement} {i : Nat}
      {good : List (Invocation × Except SystemError Completion)}
      {r : Except SystemError Completion} :
    script = before ++ s :: after → i < s.repeats →
    good.map Prod.fst = before.flatMap (fun s => .replicate s.repeats (s.invocation shell)) ++
      .replicate i (s.invocation shell) →
    (∀ x ∈ good, succeeded x.2 = true) → succeeded r = false →
    Course shell script (before ++ [s]) (good ++ [(s.invocation shell, r)])

/-- No more statements are reached than there are. -/
theorem Course.length_le {shell : String} {script reached : List Statement}
    {ran : List (Invocation × Except SystemError Completion)}
    (h : Course shell script reached ran) : reached.length ≤ script.length := by
  cases h with
  | whole _ _ => exact Nat.le_refl _
  | broken hscript _ _ _ _ =>
      rw [hscript, List.length_append, List.length_append, List.length_cons]
      exact Nat.add_le_add_left (Nat.succ_le_succ (Nat.zero_le _)) _

theorem stations_eq_map (shell target : String) (script : List Statement) :
    stations shell target script = (iterations script).map (station shell target) :=
  (map_iterations _ script).symm

/-- **What an ordered script attempts is its course,** and the stepper stops once at each
statement that it reaches. -/
theorem attempt_course {η : Type} (host : Host η) (shell : String) (h : η)
    {script : List Statement} (hscript : Ordered script) :
    let ran := host.attempt shell h (iterations script)
    ∃ reached, Course shell script reached (ran.map fun x => (x.1.invocation shell, x.2)) ∧
      breaksFrom none ran = reached.map (·.line) ∧
      (reached.map (·.line)).Pairwise (· < ·) ∧
      ∀ text, firstFault shell ran = some text → ∃ s rest, reached.getLast? = some s ∧
        text = s!"line {s.line.toNat}: " ++ rest := by
  intro ran
  rcases host.attempt_cases shell h (iterations script) with
    ⟨hran, hgood⟩ | ⟨good, s, r, left, hran, hrow, hgood, hbad⟩
  · refine ⟨script, .whole ?_ (List.forall_mem_map.mpr hgood), ?_,
      List.pairwise_map.mpr hscript.lines, ?_⟩
    · rw [← map_iterations (·.invocation shell), ← hran, List.map_map, List.map_map]
      rfl
    · rw [breaksFrom, show ran.map Prod.fst = _ from hran]
      exact stopsFrom_iterations hscript fun _ _ => nofun
    · rw [firstFault_eq_none.mpr hgood]
      exact nofun
  · -- the failing iteration is one of a statement, after all those of the ones before
    obtain ⟨before, after, i, rfl, hi, htried⟩ := iterations_split hrow
    refine ⟨before ++ [s], ?_, ?_, ?_, ?_⟩
    · rw [show ran = _ from hran, List.map_append]
      refine .broken rfl hi ?_ (List.forall_mem_map.mpr hgood) hbad
      have hcommands := congrArg (List.map (·.invocation shell)) htried
      rw [List.map_append, map_iterations, List.map_replicate, List.map_map] at hcommands
      rw [List.map_map]
      exact hcommands
    · rw [breaksFrom, show ran = _ from hran, List.map_append, htried, List.append_assoc]
      have hstops := stopsFrom_stopped hscript i
      rw [List.replicate_succ'] at hstops
      exact hstops
    · have hlines := (hscript.stopped (Nat.succ_pos i)).lines
      have hreached := List.pairwise_map.mpr hlines
      rwa [List.map_append] at hreached ⊢
    · intro text htext
      rw [show ran = _ from hran, firstFault_append hgood] at htext
      obtain ⟨rest, hrest⟩ := Statement.fault?_names_line htext
      exact ⟨s, rest, List.getLast?_concat, hrest⟩

end Script

end Lockstep
