import Lockstep.Shell.Tool.Basic

/-!
# Programs that work on files

These programs list, make, copy and remove files, and take paths apart.
-/

namespace Lockstep.Shell

open Files

/-- Lists directories. -/
def lsTool (args : List Text) : Run Nat := do
  let (options, paths) := splitOptions args
  let letters := options.flatMap List.tail
  match letters.find? fun c => !"1aAldhRtrFin".toList.contains c with
  | some bad =>
    discard (misuse "ls" s!"invalid option -- '{asString [bad]}'")
    return 2
  | none =>
    let s ← get
    let paths := if paths.isEmpty then [['.']] else paths
    let mut status := 0
    for path in paths do
      match s.tree.existing (asString path) with
      | .error cause =>
        fault "ls" s!"cannot access '{asString path}': {reason cause}"
        status := 2
      | .ok (_, n) => if !n.isDirectory || letters.contains 'd' then put (path ++ ['\n'])
    for path in paths do
      match s.tree.existing (asString path) with
      | .ok (_, .directory _) =>
        if !letters.contains 'd' then
          if paths.length > 1 then put (path ++ [':', '\n'])
          let names := s.tree.names (asString path)
          let shown := names.filter fun name =>
            !name.startsWith "." || letters.contains 'a' || letters.contains 'A'
          let shown := if letters.contains 'a' then "." :: ".." :: shown else shown
          put (unlines (shown.map ofString))
      | _ => pure ()
    return status

/-- Makes directories. -/
def mkdirTool (args : List Text) : Run Nat := do
  let (options, paths) := splitOptions args
  if paths.isEmpty then return ← misuse "mkdir" "missing operand"
  let mut status := 0
  for path in paths do
    let t := (← get).tree
    match t.find true (asString path) with
    | .ok (.missing directory name) =>
      setTree { t with root := t.root.put (directory ++ [name]) .empty }
    | .ok (.node _ n) =>
      if !(options.contains ['-', 'p'] && n.isDirectory) then
        fault "mkdir" s!"cannot create directory '{asString path}': File exists"
        status := 1
    | .error cause =>
      if options.contains ['-', 'p'] && cause == .notFound then
        setTree (t.plant (asString path) .empty)
      else
        fault "mkdir" s!"cannot create directory '{asString path}': {reason cause}"
        status := 1
  return status

/-- Removes files, and directories with what is in them. -/
def rmTool (program : String) (args : List Text) : Run Nat := do
  let (options, paths) := splitOptions args
  let letters := options.flatMap List.tail
  let force := letters.contains 'f'
  let recursive := letters.contains 'r' || letters.contains 'R'
  if paths.isEmpty && !force then return ← misuse program "missing operand"
  let verb := if program = "rmdir" then "failed to remove" else "cannot remove"
  let mut status := 0
  for path in paths do
    let t := (← get).tree
    let refuse (why : String) : Run Unit := fault program s!"{verb} '{asString path}': {why}"
    match t.find false (asString path) with
    | .ok (.node place n) =>
      if program = "rmdir" then
        if !n.isDirectory then
          refuse "Not a directory"
          status := 1
        else if !n.entries.isEmpty then
          refuse "Directory not empty"
          status := 1
        else setTree { t with root := t.root.remove place }
      else if n.isDirectory && !recursive then
        refuse "Is a directory"
        status := 1
      else setTree { t with root := t.root.remove place }
    | .ok (.missing _ _) =>
      if !force then
        refuse "No such file or directory"
        status := 1
    | .error cause =>
      if !force then
        refuse (reason cause)
        status := 1
  return status

/-- Makes files that are missing. -/
def touchTool (args : List Text) : Run Nat := do
  let (_, paths) := splitOptions args
  if paths.isEmpty then return ← misuse "touch" "missing file operand"
  let mut status := 0
  for path in paths do
    let t := (← get).tree
    if !t.exists? (asString path) then
      match t.write (asString path) [] with
      | .ok t => setTree t
      | .error cause =>
        fault "touch" s!"cannot touch '{asString path}': {reason cause}"
        status := 1
  return status

/-- Where a file goes that is copied or moved: into a directory, or under another name. -/
def copyPath (t : Tree) (source target : Text) : String :=
  match t.existing (asString target) with
  | .ok (_, .directory _) =>
    let name := (components (asString source)).getLastD ""
    s!"{asString target}/{name}"
  | _ => asString target

/-- Copies or moves files. -/
def copyOrMove (program : String) (args : List Text) : Run Nat := do
  let (options, paths) := splitOptions args
  match paths.reverse with
  | [] => misuse program "missing file operand"
  | [only] => misuse program s!"missing destination file operand after '{asString only}'"
  | target :: sources =>
    let mut status := 0
    for source in sources.reverse do
      let t := (← get).tree
      let verb := if program = "mv" then "move" else "copy"
      match t.existing (asString source) with
      | .error cause =>
        if program = "mv" then fault "mv" s!"cannot stat '{asString source}': {reason cause}"
        else fault "cp" s!"cannot stat '{asString source}': {reason cause}"
        status := 1
      | .ok (place, n) =>
        if n.isDirectory && program = "cp" && options.isEmpty then
          fault "cp" s!"-r not specified; omitting directory '{asString source}'"
          status := 1
        else
          match t.find true (copyPath t source target) with
          | .ok (.missing directory name) =>
            let root := if program = "mv" then t.root.remove place else t.root
            setTree { t with root := root.put (directory ++ [name]) n }
          | .ok (.node other _) =>
            if other ≠ place then
              let root := if program = "mv" then t.root.remove place else t.root
              setTree { t with root := root.put other n }
          | .error cause =>
            fault program s!"cannot {verb} to '{asString target}': {reason cause}"
            status := 1
    return status

/-- Makes links. -/
def lnTool (args : List Text) : Run Nat := do
  let (options, paths) := splitOptions args
  let letters := options.flatMap List.tail
  let paths :=
    match paths with
    | [source] => [source, ['.']]
    | _ => paths
  match paths with
  | [source, target] =>
    let t := (← get).tree
    let path := copyPath t source target
    match t.find false path with
    | .ok (.missing directory name) =>
      if letters.contains 's' then
        setTree { t with root := t.root.put (directory ++ [name]) (.link (asString source)) }
        return 0
      match t.existing (asString source) with
      | .ok (_, n) =>
        setTree { t with root := t.root.put (directory ++ [name]) n }
        return 0
      | .error cause =>
        fault "ln" s!"failed to access '{asString source}': {reason cause}"
        return 1
    | .ok (.node _ _) =>
      if !letters.contains 's' then
        if let .error cause := t.existing (asString source) then
          fault "ln" s!"failed to access '{asString source}': {reason cause}"
          return 1
      let kind := if letters.contains 's' then "symbolic" else "hard"
      fault "ln" s!"failed to create {kind} link '{path}': File exists"
      return 1
    | .error cause =>
      fault "ln" s!"failed to create symbolic link '{path}': {reason cause}"
      return 1
  | _ => misuse "ln" "missing file operand"

/-- Changes whether files may run. -/
def chmodTool (args : List Text) : Run Nat := do
  match args with
  | mode :: paths =>
    let turnsOn := mode.contains 'x' && mode.contains '+'
    let digits := natural? mode
    let mut status := 0
    for path in paths do
      let t := (← get).tree
      match t.existing (asString path) with
      | .ok (place, .file content executable) =>
        let executable :=
          match digits with
          | some n => n / 100 % 2 == 1
          | none => if turnsOn then true else if mode.contains 'x' then false else executable
        setTree { t with root := t.root.put place (.file content executable) }
      | .ok _ => pure ()
      | .error cause =>
        fault "chmod" s!"cannot access '{asString path}': {reason cause}"
        status := 1
    return status
  | [] => misuse "chmod" "missing operand"

/-- Puts the last name of a path. -/
def basenameTool (args : List Text) : Run Nat := do
  match args with
  | [] => misuse "basename" "missing operand"
  | path :: rest =>
    let path := (path.reverse.dropWhile (· == '/')).reverse
    let name := (path.reverse.takeWhile (· ≠ '/')).reverse
    let name := if path.isEmpty then ['/'] else name
    let suffix := rest.headD []
    let name :=
      if suffix.isSuffixOf name && suffix ≠ name then name.take (name.length - suffix.length)
      else name
    put (name ++ ['\n'])
    return 0

/-- Puts a path without its last name. -/
def dirnameTool (args : List Text) : Run Nat := do
  match args with
  | [] => misuse "dirname" "missing operand"
  | path :: _ =>
    let dropSlashes (t : Text) : Text := (t.reverse.dropWhile (· == '/')).reverse
    let body := dropSlashes path
    let parent := dropSlashes ((body.reverse.dropWhile (· ≠ '/')).reverse)
    let parent :=
      if !parent.isEmpty then parent
      else if path.head? == some '/' then ['/']
      else ['.']
    put (parent ++ ['\n'])
    return 0

/-- Puts where links lead. -/
def linkTool (program : String) (args : List Text) : Run Nat := do
  let (_, paths) := splitOptions args
  let mut status := 0
  for path in paths do
    let t := (← get).tree
    if program = "readlink" then
      match t.find false (asString path) with
      | .ok (.node _ (.link target)) => putString s!"{target}\n"
      | _ => status := 1
    else
      match t.canonical (asString path) with
      | .ok found => putString s!"{found}\n"
      | .error cause =>
        fault "realpath" s!"{asString path}: {reason cause}"
        status := 1
  return status

end Lockstep.Shell
