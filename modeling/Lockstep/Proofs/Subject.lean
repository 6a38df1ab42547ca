import Lockstep.Proofs.Shape
import Lockstep.Script.Execution

/-!
# What sessions run

A session runs a script or replays given lines. Both stand still at one place after another, and
differ in what happens between two places: a script runs a command there, which may be its fault,
and a replayed target nothing. `visit` is this loop, and `Subject.run_eq` says that both engines are
it, after what they read first. A script that runs a statement several times comes to its line
several times, so the two loops of scripts are one here. Later proofs about sessions go through
the places once, for either kind of target.
-/

namespace Lockstep

open Dialogue (ask_congr)

/-- What a session runs. -/
inductive Subject where
  /-- Scripts, whose commands run under a shell. -/
  | script (shell : String)
  /-- Lines, and then perhaps a fault; `found` says which targets there are, and under which paths. -/
  | replay (found : String → Except SystemError String) (lines : List (UInt32 × Bool))
      (fault : Option String)

namespace Subject

/-- Looks for a target of which it is known whether it is there. -/
def find (found : String → Except SystemError String) (path : String) : Action String := do
  Controller.ask (.mark (.resolved path (found path).toOption))
  match found path with
  | .ok path => pure path
  | .error cause => throw (.targetUnavailable path cause)

/-- The engine that finds and runs it. -/
def engine : Subject → Engine
  | .script shell => Script.engine shell
  | .replay found lines fault => { Engine.replay lines fault with resolve := find found }

/-- A replayed target that is found under any path is the engine that has no target. -/
example (lines : List (UInt32 × Bool)) (fault : Option String) :
    (replay .ok lines fault).engine = Engine.replay lines fault := rfl

/-! ## Finding a target -/

/-- What becomes of a target that was looked for. -/
def resolution (path : String) (found : Except SystemError String) : Except SessionError String :=
  found.mapError (.targetUnavailable path)

theorem script_resolve_run (shell path : String) :
    ((script shell).engine.resolve path).run =
      .ask (.resolve path) fun found => .ask (.mark (.resolved path found.toOption)) fun _ =>
        .done (resolution path found) := by
  show (Script.resolve path).run = _
  unfold Script.resolve
  simp only [ExceptT.run_bind, ExceptT.run_liftM, Controller.ask, Dialogue.map_ask,
    Dialogue.map_done, Dialogue.ask_bind, Dialogue.done_bind]
  refine ask_congr fun found => ask_congr fun _ => ?_
  cases found <;> rfl

theorem replay_resolve_run (found : String → Except SystemError String)
    (lines : List (UInt32 × Bool)) (fault : Option String) (path : String) :
    ((replay found lines fault).engine.resolve path).run =
      .ask (.mark (.resolved path (found path).toOption)) fun _ =>
        .done (resolution path (found path)) := by
  show (find found path).run = _
  unfold find
  simp only [ExceptT.run_bind, ExceptT.run_liftM, Controller.ask, Dialogue.map_ask,
    Dialogue.map_done, Dialogue.ask_bind, Dialogue.done_bind]
  refine ask_congr fun _ => ?_
  cases found path <;> rfl

end Subject

/-! ## From place to place -/

/-- A place where a target stands still, and what happens when it goes on; this may fail. -/
structure Station where
  event : LineEvent
  act : Talk (Option String)

/-- Comes to one place after another until a hook or what happens there fails. -/
def visit {σ : Type} (hooks : Hooks σ) : List Station → σ → Talk (Except Stop Unit × σ)
  | [], s => .done (.ok (), s)
  | x :: rest, s => hooks.reach x.event s >>= fun
    | (.error failure, s) => .done (.error (.aborted failure), s)
    | (.ok (), s) => x.act >>= fun
      | none => visit hooks rest s
      | some fault => hooks.report x.event.place fault s >>= fun
        | (.error failure, s) => .done (.error (.aborted failure), s)
        | (.ok (), s) => .done (.error (.fault fault), s)

/-- Under the stepper, only the line itself can fail. -/
theorem visit_cons (e : Endpoint) (delay : Option Nat) (x : Station) (rest : List Station)
    (p : Progress) :
    visit (stepper e delay) (x :: rest) p =
      .ask (.mark (.reached x.event)) fun _ => (stepper e delay).line x.event p >>= fun
        | (.error failure, p) => .done (.error (.aborted failure), p)
        | (.ok (), p) => x.act >>= fun
          | none => visit (stepper e delay) rest p
          | some fault => .ask (.mark (.faulted x.event.place fault)) fun _ =>
            .done (.error (.fault fault), p) := by
  refine ask_congr fun _ => ?_
  show ((stepper e delay).line x.event p >>= _) = _
  refine bind_congr ?_
  rintro ⟨result, p⟩
  cases result with
  | error failure => rfl
  | ok u =>
      refine bind_congr ?_
      intro fault
      cases fault <;> rfl

/-- Goes on after places that were all passed. -/
def onPassed {σ : Type} (f : σ → Talk (Except Stop Unit × σ)) :
    Except Stop Unit × σ → Talk (Except Stop Unit × σ)
  | (.ok (), s) => f s
  | (.error stop, s) => .done (.error stop, s)

/-- Places one after another are passed one after another. -/
theorem visit_append {σ : Type} (hooks : Hooks σ) (xs ys : List Station) (s : σ) :
    visit hooks (xs ++ ys) s = visit hooks xs s >>= onPassed (visit hooks ys) := by
  induction xs generalizing s with
  | nil => rfl
  | cons x xs ih =>
      rw [List.cons_append, visit, visit, bind_assoc]
      refine bind_congr ?_
      rintro ⟨result, s⟩
      cases result with
      | error failure => rfl
      | ok u =>
          dsimp only
          rw [bind_assoc]
          refine bind_congr ?_
          intro fault
          cases fault with
          | none => exact ih s
          | some text =>
              dsimp only
              rw [bind_assoc]
              refine bind_congr ?_
              rintro ⟨result, s⟩
              cases result <;> rfl

namespace Script

/-- One time that a statement runs. -/
def station (shell target : String) (s : Statement) : Station :=
  ⟨⟨⟨target, s.line⟩, true⟩, execute shell s⟩

/-- All the times that statements run. -/
def stations (shell target : String) (script : List Statement) : List Station :=
  script.flatMap fun s => List.replicate s.repeats (station shell target s)

/-- What holds at every statement holds at every place of a script. -/
theorem forall_stations {shell target : String} {script : List Statement} {P : Station → Prop}
    (h : ∀ s, P (station shell target s)) : ∀ x ∈ stations shell target script, P x := by
  intro x hx
  obtain ⟨s, -, hx⟩ := List.mem_flatMap.mp hx
  rw [List.eq_of_mem_replicate hx]
  exact h s

variable {σ : Type} (hooks : Hooks σ) (shell target : String)

theorem step_eq_visit (s : Statement) (state : σ) :
    step hooks shell target s state = visit hooks [station shell target s] state := by
  refine bind_congr ?_
  rintro ⟨result, state⟩
  cases result with
  | error failure => rfl
  | ok u =>
      refine bind_congr ?_
      intro fault
      cases fault with
      | none => rfl
      | some text =>
          refine bind_congr ?_
          rintro ⟨result, state⟩
          cases result <;> rfl

theorem stepTimes_eq_visit (s : Statement) (n : Nat) (state : σ) :
    stepTimes hooks shell target s n state =
      visit hooks (List.replicate n (station shell target s)) state := by
  induction n generalizing state with
  | zero => rfl
  | succ n ih =>
      rw [List.replicate_succ, ← List.singleton_append, visit_append, ← step_eq_visit]
      refine bind_congr ?_
      rintro ⟨result, state⟩
      cases result with
      | ok u => exact ih state
      | error stop => rfl

/-- **The loops of a script are one loop,** through all the times that its statements run. -/
theorem runStatements_eq_visit (script : List Statement) (state : σ) :
    runStatements hooks shell target script state =
      visit hooks (stations shell target script) state := by
  induction script generalizing state with
  | nil => rfl
  | cons s rest ih =>
      rw [stations, List.flatMap_cons, visit_append, ← stepTimes_eq_visit]
      refine bind_congr ?_
      rintro ⟨result, state⟩
      cases result with
      | ok u => exact ih state
      | error stop => rfl

end Script

namespace Engine

/-- A place where nothing happens. -/
def station (target : String) (line : UInt32 × Bool) : Station := ⟨event target line, .done none⟩

/-- A replayed target is at places where nothing happens. -/
theorem replay_run_eq_visit {σ : Type} (lines : List (UInt32 × Bool)) (fault : Option String)
    (hooks : Hooks σ) (target : String) (s : σ) :
    (replay lines fault).run hooks target s =
      visit hooks (lines.map (station target)) s >>= onPassed fun s => .done (ending fault, s) := by
  rw [replay_run]
  induction lines generalizing s with
  | nil => rfl
  | cons line rest ih =>
      show (hooks.reach (event target line) s >>= _) >>= _ = (_ >>= _) >>= _
      rw [bind_assoc, bind_assoc]
      refine bind_congr ?_
      rintro ⟨result, s⟩
      cases result with
      | error failure => rfl
      | ok u => exact ih s

end Engine

/-! ## Running a target -/

namespace Subject

/-- The places of a target and the fault after the last one, or why it has no places. -/
def read : Subject → String → Talk (Except String (List Station × Option String))
  | .script shell, target => .ask (.load target) fun
    | .error cause => .done (.error (Script.Flaw.unreadable target cause).message)
    | .ok text =>
      match Script.parse text with
      | .error flaw => .done (.error flaw.message)
      | .ok statements => .done (.ok (Script.stations shell target statements, none))
  | .replay _ lines fault, target => .done (.ok (lines.map (Engine.station target), fault))

/-- **A run of a target:** its places are read and then visited. -/
theorem run_eq {σ : Type} (subject : Subject) (hooks : Hooks σ) (target : String) (s : σ) :
    subject.engine.run hooks target s = subject.read target >>= fun
      | .error fault => .done (.error (.fault fault), s)
      | .ok (stations, fault) =>
        visit hooks stations s >>= onPassed fun s => .done (Engine.ending fault, s) := by
  cases subject with
  | replay found lines fault => exact Engine.replay_run_eq_visit lines fault hooks target s
  | script shell =>
      show Script.run hooks shell target s = _
      refine ask_congr ?_
      intro reply
      cases reply with
      | error cause => rfl
      | ok text =>
          show (Dialogue.done (Script.parse text) >>= _ : Talk _) = _
          dsimp only
          cases Script.parse text with
          | error flaw => rfl
          | ok statements =>
              show Script.runStatements hooks shell target statements s = _ >>= _
              rw [Script.runStatements_eq_visit]
              refine (bind_pure _).symm.trans (bind_congr ?_)
              rintro ⟨result, s⟩
              cases result <;> rfl

end Subject

end Lockstep
