import Lockstep.Controller.Request

/-!
# Engines

An engine runs a target and stands still at every line boundary until its hooks let it go on. The
hooks have a state of their own, which they keep also when they fail; an engine whose hook fails
stops at once and hands the failure on. A target that fails by itself is a fault, and no failure
of the session.
-/

namespace Lockstep

/-- Why a run of a target ended early. -/
inductive Stop where
  /-- The target failed. -/
  | fault (text : String)
  /-- A hook failed. -/
  | aborted (failure : SessionError)
  deriving Repr, DecidableEq

/-- The stop in words. -/
def Stop.message : Stop → String
  | .fault text => s!"target fault: {text}"
  | .aborted failure => failure.message

/-- Called by an engine while it runs a target. Each hook gives a result and its state after it. -/
structure Hooks (σ : Type) where
  /-- Before a line. -/
  line : LineEvent → σ → Talk (Except SessionError Unit × σ)
  /-- Before a call. -/
  call : Place → σ → Talk (Except SessionError Unit × σ)
  /-- After a call. -/
  callEnd : Place → σ → Talk (Except SessionError Unit × σ)
  /-- After a failure of the target. -/
  exception : Place → String → σ → Talk (Except SessionError Unit × σ)

namespace Hooks

variable {σ : Type}

/-- Accepts anything and does nothing. -/
def ignore (s : σ) : Talk (Except SessionError Unit × σ) := pure (.ok (), s)

/-- Hooks that act on line boundaries alone. -/
def onLine (line : LineEvent → σ → Talk (Except SessionError Unit × σ)) : Hooks σ where
  line := line
  call := fun _ => ignore
  callEnd := fun _ => ignore
  exception := fun _ _ => ignore

/-- Marks that a line is reached, then calls the hook. -/
def reach (hooks : Hooks σ) (event : LineEvent) (s : σ) : Talk (Except SessionError Unit × σ) := do
  Controller.ask (.mark (.reached event))
  hooks.line event s

/-- Marks a fault, then calls the hook. -/
def report (hooks : Hooks σ) (place : Place) (fault : String) (s : σ) :
    Talk (Except SessionError Unit × σ) := do
  Controller.ask (.mark (.faulted place fault))
  hooks.exception place fault s

end Hooks

/-- Finds targets and runs them. -/
structure Engine where
  /-- The path under which every place of the target is reported. -/
  resolve : String → Action String
  /-- Runs a target under hooks. -/
  run : {σ : Type} → Hooks σ → String → σ → Talk (Except Stop Unit × σ)

namespace Engine

/-- Goes through line events until a hook fails. -/
def replayEvents {σ : Type} (hooks : Hooks σ) :
    List LineEvent → σ → Talk (Except SessionError Unit × σ)
  | [], s => pure (.ok (), s)
  | event :: rest, s => do
    match ← hooks.reach event s with
    | (.ok (), s) => replayEvents hooks rest s
    | (.error failure, s) => pure (.error failure, s)

/-- An engine without a target: it comes to the given lines and then has the given fault. -/
def replay (lines : List (UInt32 × Bool)) (fault : Option String) : Engine where
  resolve path := do
    Controller.ask (.mark (.resolved path (some path)))
    pure path
  run hooks target s := do
    let events := lines.map fun l => ⟨⟨target, l.1⟩, l.2⟩
    match ← replayEvents hooks events s with
    | (.error failure, s) => pure (.error (.aborted failure), s)
    | (.ok (), s) =>
      match fault with
      | some text => pure (.error (.fault text), s)
      | none => pure (.ok (), s)

end Engine

end Lockstep
