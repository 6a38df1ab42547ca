import Lockstep.Shell.Call
import Lockstep.Shell.Process
import Lockstep.Shell.Redirection
import Lockstep.Shell.Tools

/-!
# Running shell commands

A command runs in the state that the commands before it left. Parts of a pipeline, subshells and
commands that are put into words run as processes, of which only the files and the streams outlive
them; a program may take the place of a process that has nothing else to do. A text is run one
complete command after another. A command that does not come to an end within the number of steps
it is given is stopped by the signal for too much time.
-/

namespace Lockstep.Shell

open Files

/-- How a command is run. -/
structure Manner where
  /-- Whether the process has nothing to do after it. -/
  exits : Bool
  /-- Whether somebody looks at its status, so that a failure does not end the shell. -/
  tested : Bool
  deriving Repr, DecidableEq

/-- Something comes after the command. -/
def Manner.inner (m : Manner) : Manner := ⟨false, m.tested⟩

/-- The status of the command decides what comes next. -/
def Manner.condition : Manner := ⟨false, true⟩

/-- Nothing comes after the command. -/
def Manner.last (tested : Bool) : Manner := ⟨true, tested⟩

/-- The signal for too much time. -/
def outOfTime : Signal := 24

/-- There are no more steps to take. -/
def exhausted {α : Type} : Run α := throw (.killed outOfTime)

/-- How many functions may run within one another. -/
def deepest : Nat := 1000

/-- Whether a failure of the command itself may end the shell. -/
def Command.mayFail : Command → Bool
  | .simple .. | .pipeline _ | .subshell .. | .background _ => true
  | .redirected _ (.subshell ..) _ => true
  | _ => false

/-- What has become of a turn of a loop. -/
inductive Turn where
  | whole
  | broken
  | continued
  deriving Repr, DecidableEq

/-- Runs a turn of a loop, or a part of one. -/
def loopTurn (body : Run Unit) : Run Turn :=
  tryCatch (do
    body
    return .whole) fun
      | .broken n => if n > 1 then throw (.broken (n - 1)) else return .broken
      | .continued n => if n > 1 then throw (.continued (n - 1)) else return .continued
      | other => throw other

/-- Runs a loop. -/
def inLoop (body : Run Unit) : Run Unit := do
  modify fun s => { s with loops := s.loops + 1 }
  afterwards body (modify fun s => { s with loops := s.loops - 1 })

/-- Notes the line of the command that runs. -/
def atLine (line : Nat) : Run Unit := modify fun s => { s with line := line }

/-- Undoes what functions and calls have made their own, down to a number of them. -/
def unwind (fuel depth : Nat) : Run Unit := do
  match fuel, (← get).saved with
  | fuel + 1, frame :: frames =>
    if frames.length < depth then return ()
    putBack frame
    modify fun s => { s with saved := frames }
    unwind fuel depth
  | _, _ => return ()

/-- The text of a file that is to be read as commands. -/
def scriptAt (s : State) (path : Text) : Except String Text :=
  match s.tree.read (asString path) with
  | .ok bytes => .ok (ofBytes bytes)
  | .error .isDirectory => .ok []
  | .error cause => .error (openingFault path false cause)

/-- The file that a name without a slash stands for, in the directories of the search path. -/
def scriptPath (s : State) (name : Text) : Option Text :=
  if name.contains '/' then some name
  else (candidates (searchPath s) name).find? fun path =>
    match s.tree.existing (asString path) with
    | .ok (_, .program _) | .ok (_, .file _ _) => true
    | _ => false

/-- The text in front of a command that is traced. -/
def tracePrompt (fuel : Nat) (run : Command → Run Text) : Run Text := do
  let s ← get
  let source := (s.valueOf? "PS4").getD []
  match documentParts (nestedIn fuel) fuel 1 s.aliases source with
  | .error fault =>
    complain s!"Syntax error: {fault.message}"
    return source
  | .ok word =>
    set { s with isTracing := true }
    let text ← tryCatch (expandText fuel run .document word) fun
      | .failed => return source
      | other => throw other
    modify fun s => { s with isTracing := false }
    return text

/-- Shows a command that is about to run, where errors went before its redirections. -/
def trace (fuel : Nat) (run : Command → Run Text) (before : State) (texts : List Text) :
    Run Unit := do
  let s ← get
  if s.option 'x' && !s.isTracing then
    let prompt ← tracePrompt fuel run
    let line := prompt ++ spaced texts ++ ['\n']
    match before.stream? 2 with
    | some (index, _) => modify fun s => (s.writeStream? index line).getD s
    | none => pure ()

/-- Gives variables the values that stand before a command; the assignments as they are traced. -/
def assignAll (fuel : Nat) (run : Command → Run Text) (call : Call) :
    List (Text × Word) → Run (List Text)
  | [] => return []
  | (name, w) :: rest => do
    let whole : Word :=
      match w with
      | .plain t :: parts => .plain (name ++ '=' :: t) :: parts
      | parts => .plain (name ++ ['=']) :: parts
    let text ← expandText fuel run .value whole
    let s ← get
    adopt (s.give call.exports name (text.drop (name.length + 1)))
    if call.isLocal then remember (.variable name (s.lookUp? name))
    return text :: (← assignAll fuel run call rest)

mutual

/-- Runs a command. -/
def evaluate (fuel : Nat) (m : Manner) (command : Command) : Run Unit := do
  match fuel, command with
  | 0, _ => exhausted
  | _ + 1, .nothing => return ()
  | fuel + 1, _ =>
    if (← get).option 'n' then return ()
    takeSignals (runText fuel)
    perform fuel m command
    takeSignals (runText fuel)
    let s ← get
    if s.option 'e' && command.mayFail && !m.tested && s.status ≠ 0 then throw .ended

/-- Does what a command says. -/
def perform (fuel : Nat) (m : Manner) (command : Command) : Run Unit := do
  match fuel with
  | 0 => exhausted
  | fuel + 1 =>
    let run := substitute fuel
    let expand := expandText (fuel + 1) run .text
    match command with
    | .nothing => return ()
    | .simple line assignments words redirections =>
      evaluateCall fuel m line assignments words redirections
    | .pipeline commands => evaluatePipeline fuel m none commands []
    | .negated body =>
      evaluate fuel .condition body
      modify fun s => { s with status := if s.status = 0 then 1 else 0 }
    | .both left right =>
      evaluate fuel .condition left
      if (← get).status = 0 then evaluate fuel m right
    | .either left right =>
      evaluate fuel .condition left
      if (← get).status ≠ 0 then evaluate fuel m right
    | .sequence left right =>
      evaluate fuel m.inner left
      evaluate fuel m right
    | .background body => startJob body
    | .subshell line body => evaluatePart fuel m line body []
    | .redirected line (.subshell _ body) redirections =>
      evaluatePart fuel m line body redirections
    | .redirected line body redirections =>
      atLine line
      let targets ← destinations expand redirections
      let before ← get
      afterwards (do
        if ← redirect (expandText (fuel + 1) run .document) targets then
          evaluate fuel m.inner body) (leadBack before targets)
    | .branch condition body otherwise =>
      evaluate fuel .condition condition
      if (← get).status = 0 then evaluate fuel m body
      else
        match otherwise with
        | .nothing => setStatus 0
        | _ => evaluate fuel m otherwise
    | .loop stopsOn condition body =>
      inLoop (evaluateLoop fuel m.inner stopsOn condition body 0)
    | .each line name words body =>
      atLine line
      let values ← expandWords (fuel + 1) run words
      if values.isEmpty then setStatus 0
      else inLoop (evaluateEach fuel m.inner name values body)
    | .choose line word arms =>
      atLine line
      let value ← expand word
      evaluateArms fuel m value arms
    | .define name body =>
      modify fun s =>
        { s with
          functions := putEntry name body s.functions
          found := dropEntry name s.found
          status := 0 }

/-- Runs commands as a process of their own. -/
def evaluatePart (fuel : Nat) (m : Manner) (line : Nat) (body : Command)
    (redirections : List Redirection) : Run Unit := do
  match fuel with
  | 0 => exhausted
  | fuel + 1 =>
    atLine line
    let run := substitute fuel
    let targets ← destinations (expandText (fuel + 1) run .text) redirections
    let ending ← inPart (runJob fuel) (runText fuel) (do
      leadAll (expandText (fuel + 1) run .document) targets
      evaluate fuel (.last m.tested) body)
    acknowledge m.exits ending

/-- What a command prints, as it is put into a word. -/
def substitute (fuel : Nat) (body : Command) : Run Text := do
  match fuel, body with
  | 0, _ => exhausted
  | _ + 1, .nothing => return []
  | fuel + 1, _ =>
    let before := (← get).streams.length
    let (index, s) := (← get).addStream ⟨.output [], false, true⟩
    set s
    let ending ← inPart (runJob fuel) (runText fuel) (do
      modify fun s => s.connect 1 index
      evaluate fuel (.last false) body)
    describeEnding ending
    let s ← get
    set { s.trim before with substituted := ending.status }
    return s.written index

/-- Runs the commands of a pipeline. The first one reads the given stream, and the ends of those
before come last first. -/
def evaluatePipeline (fuel : Nat) (m : Manner) (input : Option Nat) (commands : List Command)
    (done : List Ending) : Run Unit := do
  match fuel, commands with
  | 0, _ => exhausted
  | _ + 1, [] =>
    for ending in done.reverse do
      acknowledge false ending
  | fuel + 1, command :: rest =>
    noteCommand command
    let (index, s) := (← get).addStream ⟨.output [], false, true⟩
    set s
    let ending ← inPart (runJob fuel) (runText fuel) (do
      if let some source := input then
        modify fun s => s.connect 0 source
      if !rest.isEmpty then
        modify fun s => s.connect 1 index
      evaluate fuel (.last m.tested) command)
    modify fun s =>
      { s with streams := s.streams.set index ⟨.input (s.written index), true, false⟩ }
    let isCut := ending == .killed outOfTime && !rest.isEmpty
    evaluatePipeline fuel m (some index) rest ((if isCut then .exited 0 else ending) :: done)

/-- Runs a loop; `last` is the status of its last turn. -/
def evaluateLoop (fuel : Nat) (m : Manner) (stopsOn : Bool) (condition body : Command)
    (last : Nat) : Run Unit := do
  match fuel with
  | 0 => exhausted
  | fuel + 1 =>
    match ← loopTurn (evaluate fuel .condition condition) with
    | .broken => setStatus last
    | .continued => evaluateLoop fuel m stopsOn condition body last
    | .whole =>
      if ((← get).status = 0) = stopsOn then setStatus last
      else
        match ← loopTurn (evaluate fuel m body) with
        | .broken => return ()
        | _ => evaluateLoop fuel m stopsOn condition body (← get).status

/-- Runs a body for each value. -/
def evaluateEach (fuel : Nat) (m : Manner) (name : Text) (values : List Text) (body : Command) :
    Run Unit := do
  match fuel, values with
  | 0, _ => exhausted
  | _ + 1, [] => return ()
  | fuel + 1, value :: rest =>
    assign name value
    match ← loopTurn (evaluate fuel m body) with
    | .broken => return ()
    | _ => evaluateEach fuel m name rest body

/-- Runs the first arm with a pattern that matches. -/
def evaluateArms (fuel : Nat) (m : Manner) (value : Text)
    (arms : List (List Word × Command)) : Run Unit := do
  match fuel, arms with
  | 0, _ => exhausted
  | _ + 1, [] => setStatus 0
  | fuel + 1, (patterns, body) :: rest =>
    if ← anyMatches fuel value patterns then
      match body with
      | .nothing => setStatus 0
      | _ => evaluate fuel m body
    else evaluateArms fuel m value rest

/-- Whether one of the patterns matches. -/
def anyMatches (fuel : Nat) (value : Text) (patterns : List Word) : Run Bool := do
  match fuel, patterns with
  | 0, _ => exhausted
  | _ + 1, [] => return false
  | fuel + 1, w :: rest =>
    let pieces ← expandParts (fuel + 1) (substitute fuel) .text true w
    if (piecePattern pieces).accepts value then return true
    anyMatches fuel value rest

/-- Runs a command of words. -/
def evaluateCall (fuel : Nat) (m : Manner) (line : Nat) (assignments : List (Text × Word))
    (words : List Word) (redirections : List Redirection) : Run Unit := do
  match fuel with
  | 0 => exhausted
  | fuel + 1 =>
    modify fun s => { s with line := line, substituted := 0 }
    let run := substitute fuel
    let call ← readCall (fuel + 1) run words
    let depth := (← get).saved.length
    if call.isLocal then modify fun s => { s with saved := [] :: s.saved }
    let targets ← destinations (expandText (fuel + 1) run .text) redirections
    let before ← get
    let restore := leadBack before targets
    let body : Run Unit := do
      if ← redirect (expandText (fuel + 1) run .document) targets then
        let given ← assignAll (fuel + 1) run call assignments
        trace (fuel + 1) run before (given ++ call.words)
        invokeCall fuel m call
      else if call.isSpecial then throw .failed
    tryCatch body fun interruption => do
      restore
      if interruption.isJump then unwind (depth + 1) depth
      throw interruption
    if !call.stays then restore
    unwind (call.named.length + depth + 1) depth

/-- Runs what a call names. -/
def invokeCall (fuel : Nat) (m : Manner) (call : Call) : Run Unit := do
  match fuel with
  | 0 => exhausted
  | fuel + 1 =>
    match call.named, call.target with
    | [], _ => modify fun s => { s with status := s.substituted }
    | _ :: args, .function body => callFunction fuel m args body
    | name :: args, .builtin => callBuiltin fuel m call.isSpecial name args
    | name :: args, .other =>
      match ← findCommand (call.path.getD (searchPath (← get))) name with
      | .missing denied =>
        let cause := if denied then "Permission denied" else "not found"
        complain s!"{asString name}: {cause}"
        setStatus 127
      | .program paths =>
        let ending ← inPart (runJob fuel) (runText fuel) (becomeProgram fuel paths name args)
        acknowledge m.exits ending
      | _ => return ()

/-- Runs a function. -/
def callFunction (fuel : Nat) (m : Manner) (args : List Text) (body : Command) : Run Unit := do
  match fuel with
  | 0 => exhausted
  | fuel + 1 =>
    let before ← get
    if before.calls ≥ deepest then
      fail s!"Maximum function recursion depth ({deepest}) reached"
    set { before with
      arguments := args, optionPlace := (1, none), loops := 0, calls := before.calls + 1 }
    afterwards (tryCatch (evaluate fuel m.inner body) fun
      | .returned _ => return ()
      | other => throw other)
      (modify fun s => { s with
        arguments := before.arguments, optionPlace := before.optionPlace, loops := before.loops
        calls := before.calls })

/-- Runs a command of the shell. A mistake in its use ends the shell only if it is special. -/
def callBuiltin (fuel : Nat) (m : Manner) (isSpecial : Bool) (name : Text) (args : List Text) :
    Run Unit := do
  match fuel with
  | 0 => exhausted
  | fuel + 1 =>
    let before := (← get).command
    modify fun s => { s with command := name }
    let leave : Run Unit := modify fun s => { s with command := before, printed := [] }
    tryCatch (do
      let status ← runBuiltin fuel m (asString name) args
      let good ← flush
      if !good then complain s!"{asString name}: I/O error"
      setStatus (if good then status else status ||| 1)
      leave) fun interruption => do
        leave
        match interruption with
        | .failed => if isSpecial then throw .failed
        | other => throw other

/-- Does what a command of the shell is for. -/
def runBuiltin (fuel : Nat) (m : Manner) (name : String) (args : List Text) : Run Nat := do
  match fuel with
  | 0 => exhausted
  | fuel + 1 =>
    match name with
    | "eval" =>
      if args.isEmpty then return 0
      evaluateText fuel m.inner (Reading.start 1 [] (spaced args)) 0
    | "." => evaluateFile fuel args
    | "exec" =>
      match args with
      | [] => return 0
      | name :: rest =>
        let s ← get
        match findProgram s (searchPath s) name with
        | .program paths => becomeProgram fuel paths name rest
        | .missing denied =>
          let cause := if denied then "Permission denied" else "not found"
          complain s!"{asString name}: {cause}"
          setStatus (if denied then 126 else 127)
        | _ => pure ()
        throw .ended
    | "command" =>
      let found ← options "pvV" args
      let path := if found.has 'p' then some standardPath.toList else none
      match found.arguments with
      | target :: _ =>
        if found.has 'v' || found.has 'V' then
          let good ← describeCommand path (found.has 'V') target
          return if good then 0 else 127
        return 0
      | [] => return 0
    | "wait" => wait (runJob fuel) args
    | ":" | "true" => return 0
    | "false" => return 1
    | "echo" => echo args
    | "printf" => printf (← options "" args).arguments
    | "test" | "[" => test name args
    | "break" | "continue" => leaveLoops name args
    | "return" => leaveFunction args
    | "exit" => exit args
    | "export" | "readonly" => declare name args
    | "local" => makeLocal args
    | "unset" => unset args
    | "set" => setCommand args
    | "shift" => shift args
    | "alias" => listAliases args
    | "unalias" => unalias args
    | "trap" => trap args
    | "kill" => kill args
    | "cd" | "chdir" => changeDirectory args
    | "pwd" => printDirectory args
    | "read" => readInto args
    | "getopts" => getopts args
    | "umask" => umask args
    | "jobs" => listJobs args
    | "fg" | "bg" => resumeJob args
    | "times" => showTimes
    | "type" => typeCommand args
    | "hash" => hash args
    | _ => ulimit args

/-- Runs the commands of a file in the shell. -/
def evaluateFile (fuel : Nat) (args : List Text) : Run Nat := do
  match fuel with
  | 0 => exhausted
  | fuel + 1 =>
    match (← options "" args).arguments with
    | [] => return 0
    | name :: _ =>
      let s ← get
      match scriptPath s name with
      | none => fail s!"{asString name}: not found"
      | some path =>
        match scriptAt s path with
        | .error message => fail message
        | .ok text =>
          set { s with command := path }
          tryCatch (evaluateText fuel ⟨false, false⟩ (Reading.start 1 [] text) 0) fun
            | .returned _ => return (← get).status
            | other => throw other

/-- Runs a text as commands; the status of the last one, or the given one if there is none. -/
def evaluateText (fuel : Nat) (m : Manner) (r : Reading) (status : Nat) : Run Nat := do
  match fuel with
  | 0 => exhausted
  | fuel + 1 =>
    match (readComplete (fuel + 1)).run { r with aliases := (← get).aliases } with
    | .error fault =>
      atLine fault.line
      fail s!"Syntax error: {fault.message}"
    | .ok (none, _) => return status
    | .ok (some .nothing, r) => evaluateText fuel m r status
    | .ok (some command, r) =>
      evaluate fuel m command
      evaluateText fuel m r (← get).status

/-- Runs a text as commands, whatever their status. -/
def runText (fuel : Nat) (text : Text) : Run Unit := do
  match fuel with
  | 0 => exhausted
  | fuel + 1 => discard (evaluateText fuel ⟨false, false⟩ (Reading.start 1 [] text) 0)

/-- Runs a command in the background to its end. -/
def runJob (fuel : Nat) (job : Job) : Run Unit := do
  match fuel with
  | 0 => exhausted
  | fuel + 1 =>
    let start (s : State) : State :=
      { s with toProcess := job.process, tree := { s.tree with workingDirectory := job.place } }
    let run := substitute fuel
    let ending ← inProcess (runJob fuel) (runText fuel) start (do
      match job.body with
      | .redirected _ body redirections =>
        let targets ← destinations (expandText (fuel + 1) run .text) redirections
        leadAll (expandText (fuel + 1) run .document) targets
        evaluate fuel (.last false) body
      | body => evaluate fuel (.last false) body)
    modify fun s => { s with jobs := s.jobs.map fun j =>
      if j.number = job.number && j.ended.isNone then { j with ended := some ending } else j }

/-- Runs a program in the place of the process, the first one of some places. -/
def becomeProgram (fuel : Nat) (paths : List Text) (name : Text) (args : List Text) :
    Run Unit := do
  match fuel with
  | 0 => exhausted
  | fuel + 1 =>
    let tree := (← get).tree
    let give {α : Type} (cause : SystemError) : Run α := do
      let why := reasonOr "not found" cause
      complain s!"{asString name}: {why}"
      setStatus (failureStatus cause)
      throw .ended
    match firstRunnable tree .notFound paths with
    | .error cause => give cause
    | .ok (_, .tool tool) => becomeTool fuel tool name args
    | .ok (path, .script none _) => becomeShell fuel name (path :: args)
    | .ok (path, .script (some (reader, argument)) _) =>
      match runnableAt tree reader with
      | .error cause => give cause
      | .ok _ => becomeProgram fuel [reader] reader (argument.toList ++ path :: args)

/-- Runs a program of the system in the place of the process. -/
def becomeTool (fuel : Nat) (tool : String) (name : Text) (args : List Text) : Run Unit := do
  match fuel with
  | 0 => exhausted
  | fuel + 1 =>
    if ["sh", "dash", "bash"].contains tool then becomeShell fuel name args
    else if runnerNames.contains tool then becomeRunner fuel tool args
    else
      modify fun s => { s with traps := [] }
      let status ← tryCatch (runTool tool args) fun
        | .failed => return (← get).status
        | other => throw other
      let good ← deliver tool
      setStatus (if good then status else undelivered tool)
      throw .ended

/-- Runs a program that runs another one, perhaps in a changed environment. -/
def becomeRunner (fuel : Nat) (tool : String) (args : List Text) : Run Unit := do
  match fuel with
  | 0 => exhausted
  | fuel + 1 =>
    modify fun s => { s with traps := [] }
    let isEnvironment := tool = "env"
    let clears := isEnvironment && args.head? == some ['-', 'i']
    let args := if clears then args.drop 1 else args
    if clears then modify fun s => { s with bindings := [] }
    let given := args.takeWhile fun a => isEnvironment && a.contains '='
    for text in given do
      let (name, value) := splitAssignment text
      modify fun s => s.putVariable name ⟨value, true, false⟩
    match args.drop given.length with
    | [] =>
      setStatus (← printenvTool [])
      discard flush
      throw .ended
    | command :: rest =>
      let s ← get
      let path := (s.valueOf? "PATH").getD standardPath.toList
      match findProgram s path command with
      | .program paths =>
        match firstRunnable s.tree .notFound paths with
        | .ok _ => becomeProgram fuel paths command rest
        | .error cause =>
          fault tool s!"'{asString command}': {reason cause}"
          setStatus (failureStatus cause)
          throw .ended
      | _ =>
        fault tool s!"'{asString command}': No such file or directory"
        setStatus 127
        throw .ended

/-- Runs a shell in the place of the process. -/
def becomeShell (fuel : Nat) (name : Text) (args : List Text) : Run Unit := do
  match fuel with
  | 0 => exhausted
  | fuel + 1 =>
    modify fun s => s.replaced name
    complete (runText fuel) (do
      let (hasText, left) ← setOptions (optionSteps args) true false true [] args
      let left := left.getD []
      if hasText then
        match left with
        | [] => fail "-c requires an argument"
        | text :: rest =>
          modify fun s => { s with name := rest.headD s.name, arguments := rest.tail }
          runText fuel text
      let s ← get
      if s.option 's' || left.isEmpty then
        if !hasText then set { s with options := 's' :: s.options.erase 's', arguments := left }
        runText fuel (← readAll 0)
      else if !hasText then
        match left with
        | [] => pure ()
        | path :: rest =>
          match scriptAt s path with
          | .error message => fail message
          | .ok text =>
            set { s with name := path, arguments := rest }
            runText fuel text)
    throw .ended

end

/-- Runs the program under a path to its end. -/
def runProgram (fuel : Nat) (path name : Text) (args : List Text) : Run Ending :=
  inProcess (runJob fuel) (runText fuel) id (becomeProgram fuel [path] name args)

end Lockstep.Shell
