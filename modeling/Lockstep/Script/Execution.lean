import Lockstep.Controller.Engine
import Lockstep.Script.Statement

/-!
# Running scripts

A script runs one statement after another, each as often as it says, and stands at the line before
every single time. What a command prints is passed on before its status is looked at. The first
command that cannot be started, whose output cannot be passed on, or that does not succeed, ends
the script with a fault that names the line.
-/

namespace Lockstep.Script

open Controller (ask)

/-- The shell that runs commands where no other is chosen. -/
def defaultShell : String := "sh"

/-- Runs the command of a statement once, and gives its fault. -/
def execute (shell : String) (s : Statement) : Talk (Option String) := do
  match ← ask (.invoke ⟨s.line, shell, s.command⟩) with
  | .error cause =>
    pure (some s!"line {s.line.toNat}: failed to spawn '{shell}': {cause.message}")
  | .ok completion =>
    let delivery ← ask (.relay completion.out completion.err)
    match delivery.outcome with
    | .error cause => pure (some s!"line {s.line.toNat}: failed to relay output: {cause.message}")
    | .ok () =>
      if completion.status.succeeded then pure none
      else
        pure (some
          s!"line {s.line.toNat}: '{s.command}' exited with {completion.status.message}")

/-- Comes to the line of a statement and runs its command once. -/
def step {σ : Type} (hooks : Hooks σ) (shell target : String) (s : Statement) (state : σ) :
    Talk (Except Stop Unit × σ) := do
  let place : Place := ⟨target, s.line⟩
  match ← hooks.reach ⟨place, true⟩ state with
  | (.error failure, state) => pure (.error (.aborted failure), state)
  | (.ok (), state) =>
    match ← execute shell s with
    | none => pure (.ok (), state)
    | some fault =>
      match ← hooks.report place fault state with
      | (.error failure, state) => pure (.error (.aborted failure), state)
      | (.ok (), state) => pure (.error (.fault fault), state)

/-- Runs the command of a statement several times. -/
def stepTimes {σ : Type} (hooks : Hooks σ) (shell target : String) (s : Statement) :
    Nat → σ → Talk (Except Stop Unit × σ)
  | 0, state => pure (.ok (), state)
  | n + 1, state => do
    match ← step hooks shell target s state with
    | (.error stop, state) => pure (.error stop, state)
    | (.ok (), state) => stepTimes hooks shell target s n state

/-- Runs statements one after another. -/
def runStatements {σ : Type} (hooks : Hooks σ) (shell target : String) :
    List Statement → σ → Talk (Except Stop Unit × σ)
  | [], state => pure (.ok (), state)
  | s :: rest, state => do
    match ← stepTimes hooks shell target s s.repeats state with
    | (.error stop, state) => pure (.error stop, state)
    | (.ok (), state) => runStatements hooks shell target rest state

/-- Reads the script of a file. -/
def read (path : String) : Talk (Except Flaw (List Statement)) := do
  match ← ask (.load path) with
  | .error cause => pure (.error (.unreadable path cause))
  | .ok text => pure (parse text)

/-- Runs the script of a file. A file that is no script has a fault, and nothing of it runs. -/
def run {σ : Type} (hooks : Hooks σ) (shell target : String) (state : σ) :
    Talk (Except Stop Unit × σ) := do
  match ← read target with
  | .error flaw => pure (.error (.fault flaw.message), state)
  | .ok statements => runStatements hooks shell target statements state

/-- Finds a target among the files of the host. -/
def resolve (path : String) : Action String := do
  let found ← ask (.resolve path)
  ask (.mark (.resolved path found.toOption))
  match found with
  | .ok path => pure path
  | .error cause => throw (.targetUnavailable path cause)

/-- Runs scripts with the given shell. -/
def engine (shell : String) : Engine where
  resolve := resolve
  run hooks target state := run hooks shell target state

end Lockstep.Script
