import Lockstep.Program.World
import Lockstep.Shell.Evaluation

/-!
# A host of files and shells

The host has a file tree, and the variables that its programs start with. A command is handed to
a program, which is looked for in the directories of the search path unless its name has a slash
in it. The program reads nothing, and what it prints is collected. Of all it does only the
changes to the files outlive it.
-/

namespace Lockstep.Shell

open Files

/-- A file tree, and the variables that programs start with. -/
structure Machine where
  tree : Tree
  environment : List (String × String)

/-- How many steps a command may take. -/
def patience : Nat := 300000

/-- The directories of a system that hold no files here. -/
def bareDirectories : List String :=
  ["boot", "home", "media", "mnt", "opt", "proc", "root", "run", "srv", "sys", "tmp"]

/-- The accounts of a system, of which only one is of use. -/
def accounts : String := "root:x:0:0:root:/root:/bin/bash\n"

/-- A root directory with the programs and devices of a system, and with room for files. -/
def machineRoot : Node :=
  .directory <|
    [("bin", .link "usr/bin"),
      ("dev", .directory
        [("full", .device .full), ("null", .device .null), ("zero", .device .zero)]),
      ("etc", .directory [("passwd", .file (utf8 accounts) false)]),
      ("lib", .link "usr/lib"),
      ("sbin", .link "usr/sbin"),
      ("usr", .directory
        [("bin", .directory ((toolNames ++ runnerNames).map fun name => (name, .program name))),
          ("lib", .empty), ("local", .directory [("bin", .empty), ("sbin", .empty)]),
          ("sbin", .empty), ("share", .empty)]),
      ("var", .directory [("log", .empty), ("tmp", .empty)])] ++
    bareDirectories.map fun name => (name, .empty)

/-- A machine without files, whose programs start in the given directory. -/
def Machine.fresh (directory : String) : Machine where
  tree :=
    { root := machineRoot, workingDirectory := (directory.splitOn "/").filter (· ≠ "") }
  environment := [("PATH", standardPath)]

/-- The state in which a program is started, which reads nothing, and whose output and errors are
collected. -/
def Machine.startState (m : Machine) : State where
  toProcess :=
    let environment := m.environment.map fun v => (ofString v.1, ofString v.2)
    let directory := ofString (showPath m.tree.workingDirectory)
    let descriptors := [(0, 0), (1, 1), (2, 2)]
    Process.start firstProcess (firstProcess - 1) environment directory descriptors []
  tree := m.tree
  streams := [⟨.null, true, false⟩, ⟨.output [], false, true⟩, ⟨.output [], false, true⟩]
  printed := []
  jobs := []
  lastProcess := firstProcess
  outward := []

/-- Whether a path leads to something that can be started: a script has to name its reader. -/
def startable (tree : Tree) (path : Text) : Except SystemError Unit :=
  match runnableAt tree path with
  | .error cause => .error cause
  | .ok (.tool _) => .ok ()
  | .ok (.script none _) => .error .badExecutable
  | .ok (.script (some (reader, _)) _) => discard (runnableAt tree reader)

/-- The first program of a name in a list of directories. -/
def searchProgram (tree : Tree) (name : String) (denied : Bool) :
    List String → Except SystemError Text
  | [] => .error (if denied then .permissionDenied else .notFound)
  | directory :: rest =>
    let path := ofString s!"{directory}/{name}"
    match startable tree path with
    | .ok _ => .ok path
    | .error cause =>
      if cause = .notFound || cause = .notDirectory then searchProgram tree name denied rest
      else if cause = .permissionDenied then searchProgram tree name true rest
      else .error cause

namespace Machine

/-- The path of the program of a name. -/
def program (m : Machine) (name : String) : Except SystemError Text :=
  if name = "" then .error .notFound
  else if name.toList.contains '/' then
    (startable m.tree (ofString name)).map fun _ => ofString name
  else if (utf8 name).length > maxName then .error .nameTooLong
  else
    let path := ((m.environment.find? fun v => v.1 == "PATH").map (·.2)).getD standardPath
    searchProgram m.tree name false (path.splitOn ":")

/-- Starts a program with a command, and waits for its end. -/
def invoke (m : Machine) (i : Invocation) : Except SystemError Completion × Machine :=
  if i.shell.toList.contains '\x00' || i.command.toList.contains '\x00' then
    (.error .nulInArgument, m)
  else
    match m.program i.shell with
    | .error cause => (.error cause, m)
    | .ok path =>
      let args := [['-', 'c'], ofString i.command]
      let (result, state) := (runProgram patience path (ofString i.shell) args).run m.startState
      let status : Status :=
        match result with
        | .ok (.exited code) => .exited code
        | .ok (.killed signal) | .error (.killed signal) => .killed signal false
        | .error _ => .exited state.status
      (.ok ⟨toBytes (state.written 1), toBytes (state.written 2), status⟩,
        { m with tree := { state.tree with workingDirectory := m.tree.workingDirectory } })

/-- A host whose files and programs are those of a machine. -/
def host : Host Machine where
  resolve m path := m.tree.canonical path
  load m path := m.tree.readText path
  invoke := invoke

/-- A machine with a changed tree. -/
def withTree (m : Machine) : Except SystemError Tree → Except SystemError Machine
  | .ok tree => .ok { m with tree := tree }
  | .error cause => .error cause

/-- A machine whose files the program reads and writes. -/
def site : Program.Site Machine where
  toHost := host
  isThere m path := m.tree.exists? path
  save m path content := m.withTree (m.tree.write path content)
  extend m path content := m.withTree (m.tree.append path content)

end Machine

end Lockstep.Shell
