import Lockstep.Shell.Lookup

/-!
# Processes

A shell that runs something apart from itself makes a process for it, which begins with what the
shell has of its own and shares the files, the streams and nothing else. A process ends when it has
nothing more to do, when it is left, or by a signal; before it ends by its own will it does what was
set for its end. Signals wait until a command is done. Commands in the background wait, too: they
are run before the shell waits for anything else, unless they would only sleep.
-/

namespace Lockstep.Shell

open Files

/-- A process that has just been started as a program of a name. -/
def Process.start (number parent : Nat) (environment : List (Text × Text)) (directory : Text)
    (descriptors : List (Nat × Nat)) (name : Text) : Process where
  number := number
  parent := parent
  descriptors := descriptors
  bindings :=
    let own (exported : Bool) (name value : String) : Text × Variable :=
      (name.toList, ⟨some value.toList, exported, false⟩)
    let unset (name : String) : Text × Variable := (name.toList, ⟨none, false, false⟩)
    let usual :=
      [own false "IFS" " \t\n", unset "MAIL", unset "MAILPATH", own false "PATH" standardPath,
        own false "PS1" "# ", own false "PS2" "> ", own false "PS4" "+ ", own false "OPTIND" "1"]
    let given := environment.foldl (fun bindings (v : Text × Text) =>
      if isName v.1 then putEntry v.1 ⟨some v.2, true, false⟩ bindings else bindings) usual
    let kept :=
      [own false "IFS" " \t\n", own false "OPTIND" "1", own false "PPID" s!"{parent}"]
    putEntry "PWD".toList ⟨some directory, true, false⟩
      (kept.foldl (fun bindings v => putEntry v.1 v.2 bindings) given)
  name := name
  arguments := []
  optionPlace := (1, none)
  functions := []
  aliases := []
  found := []
  options := []
  status := 0
  substituted := 0
  settled := none
  traps := []
  ignored := []
  signals := []
  isChild := false
  mask := 18
  background := none
  loops := 0
  calls := 0
  line := 0
  command := []
  directory := directory
  saved := []
  isTracing := false

/-- The state in which another program takes the place of the shell. A part of a shell becomes a
process with a number of its own. -/
def State.replaced (s : State) (name : Text) : State :=
  let ignored := s.ignored ++ (s.traps.filter (·.2.isEmpty)).map (·.1)
  let here := showPath s.tree.workingDirectory
  let directory :=
    match s.environment.find? fun v => v.1 == "PWD".toList with
    | some (_, path) =>
      match isAbsolute (asString path), s.tree.existing (asString path) with
      | true, .ok (place, _) => if place == s.tree.workingDirectory then path else ofString here
      | _, _ => ofString here
    | none => ofString here
  let number := if s.isChild then s.lastProcess + 1 else s.number
  let parent := if s.isChild then s.number else s.parent
  let process := Process.start number parent s.environment directory s.descriptors name
  { s with
    toProcess := { process with mask := s.mask, ignored := ignored }
    lastProcess := max number s.lastProcess }

/-- The state in which a process begins that the shell makes for a part of itself. -/
def State.split (s : State) : State :=
  { s with traps := s.traps.filter (·.2.isEmpty), isChild := true, signals := [] }

/-- Whether something is to be done at a signal or at the end. -/
def State.hasTraps (s : State) : Bool := s.traps.any fun t => !t.2.isEmpty

/-- Makes the status that is settled the status. -/
def settle : Run Unit :=
  modify fun s => { s with status := s.settled.getD s.status, settled := none }

/-- Runs a process to its end, which includes what was set for it. -/
def complete (runText : Text → Run Unit) (body : Run Unit) : Run Unit := do
  tryCatch body fun
    | .killed signal => throw (.killed signal)
    | .exited => settle
    | _ => return ()
  modify fun s => { s with settled := some s.status, loops := 0, isTracing := false }
  match (← get).traps.find? fun t => t.1 == 0 with
  | none => settle
  | some (_, action) =>
    modify fun s => { s with traps := s.traps.filter fun t => t.1 != 0 }
    tryCatch (do
      runText action
      settle) fun
        | .killed signal => throw (.killed signal)
        | .ended | .failed => return ()
        | _ => settle
  discard flush

/-- Does what was set for the signals that have come. -/
def takeSignals (runText : Text → Run Unit) : Run Unit := do
  let s ← get
  if s.signals.isEmpty then return ()
  let status := s.settled.getD s.status
  set { s with settled := some status, signals := [] }
  let restore : Run Unit := modify fun t => { t with settled := s.settled }
  for signal in (List.range Signal.count).filter s.signals.contains do
    match (← get).traps.find? fun t => t.1 == signal with
    | none => pure ()
    | some (_, action) =>
      tryCatch (runText action) fun interruption => do
        if interruption.isJump then restore
        throw interruption
      setStatus status
  restore

/-- Whether a command begins by sleeping. -/
def Command.isSlow : Command → Bool
  | .simple _ _ (w :: _) _ => Word.bare? w == some "sleep".toList
  | .sequence left _ | .both left _ | .either left _ => left.isSlow
  | .subshell _ body | .redirected _ body _ => body.isSlow
  | _ => false

/-- Runs commands in the background that have not come to their end, slow ones perhaps aside. -/
def catchUp (runJob : Job → Run Unit) (all : Bool) : Run Unit := do
  for job in (← get).jobs do
    if job.ended.isNone && (all || !job.body.isSlow) then runJob job

/-- Runs something as a process that begins in the given way; how it comes to its end. -/
def inProcess (runJob : Job → Run Unit) (runText : Text → Run Unit) (start : State → State)
    (body : Run Unit) : Run Ending := do
  let before ← get
  set { start before with printed := [], jobs := [], outward := [] }
  let ending ← tryCatch (do
    complete runText body
    return .exited ((← get).status % 256)) fun
      | .killed signal => return .killed signal
      | _ => return .exited ((← get).status % 256)
  catchUp runJob true
  let s ← get
  set { before with
    tree := { s.tree with workingDirectory := before.tree.workingDirectory }
    streams := s.streams.take before.streams.length
    lastProcess := s.lastProcess }
  for (number, signal) in s.outward do
    if before.number = number && !before.isChild then receive signal
    else modify fun t => { t with outward := t.outward ++ [(number, signal)] }
  if before.traps.any fun t => t.1 == 17 then receive 17
  return ending

/-- Runs a part of the shell as a process. -/
def inPart (runJob : Job → Run Unit) (runText : Text → Run Unit) (body : Run Unit) :
    Run Ending := do
  catchUp runJob false
  inProcess runJob runText State.split body

/-- Says how a process died, unless nobody speaks of it. -/
def describeEnding : Ending → Run Unit
  | .exited _ => return ()
  | .killed signal => do
    if !Signal.isQuiet signal then putError s!"{Signal.description signal}\n"

/-- Makes the end of a process known to the shell that waited for it. Where the process had taken
the place of the shell, the shell dies with it. -/
def acknowledge (exits : Bool) (ending : Ending) : Run Unit := do
  match ending with
  | .killed signal =>
    if exits && !(← get).hasTraps then throw (.killed signal)
    describeEnding ending
  | .exited _ => pure ()
  setStatus ending.status

/-- Puts a command into the background. -/
def startJob (body : Command) : Run Unit := do
  let (index, s) := (← get).addStream ⟨.null, true, false⟩
  let number := s.lastProcess + 1
  let process := (s.split.connect 0 index).toProcess
  let job : Job := ⟨number, process, s.tree.workingDirectory, body, none, false⟩
  set { s with jobs := s.jobs ++ [job], background := some number, lastProcess := number }
  setStatus 0

/-- Waits for commands in the background. -/
def wait (runJob : Job → Run Unit) (args : List Text) : Run Nat := do
  let found ← options "" args
  catchUp runJob found.arguments.isEmpty
  let mut status := if found.arguments.isEmpty then 0 else 127
  for arg in found.arguments do
    if arg.head? == some '%' then fail s!"No such job: {asString arg}"
    let number ← countArgument arg
    let waiting (j : Job) : Bool := j.number = number
    match (← get).jobs.find? waiting with
    | none => pure ()
    | some job =>
      if job.ended.isNone then runJob job
      let ending := (((← get).jobs.find? waiting).bind (·.ended)).getD (.exited 0)
      if !job.waited then describeEnding ending
      modify fun s =>
        { s with jobs := s.jobs.map fun j => if waiting j then { j with waited := true } else j }
      status := ending.status
  if found.arguments.isEmpty then modify fun s => { s with jobs := [] }
  return status

end Lockstep.Shell
