import Lockstep.Shell.Lookup

/-!
# Redirections

A redirection leads a descriptor to a file, to where another descriptor leads, to a text, or
nowhere. All targets are found out before the first descriptor changes. What a descriptor led to is
known by its place among the streams, so that it can be led back there.
-/

namespace Lockstep.Shell

open Files

/-- Where a descriptor is to lead. -/
inductive Destination where
  | path (direction : Direction) (path : Text)
  /-- To where another descriptor leads. -/
  | same (descriptor : Nat)
  | nowhere
  | document (text : Word)

/-- The destination of a redirection, whose target is expanded unless it is a document. -/
def destination (expand : Word → Run Text) (r : Redirection) : Run (Nat × Destination) := do
  match r.direction with
  | .here => return (r.descriptor, .document r.target)
  | .duplicate =>
    match ← expand r.target with
    | ['-'] => return (r.descriptor, .nowhere)
    | target =>
      match target, natural? target with
      | [_], some n => return (r.descriptor, .same n)
      | _, _ => fail "Syntax error: Bad fd number"
  | direction => return (r.descriptor, .path direction (← expand r.target))

/-- The destinations of redirections. -/
def destinations (expand : Word → Run Text) : List Redirection → Run (List (Nat × Destination))
  | [] => return []
  | r :: rest => do
    let first ← destination expand r
    return first :: (← destinations expand rest)

/-- Paths that lead to where a descriptor leads, with their beginnings. -/
def descriptorPaths : List (String × String) :=
  [("/dev/stdin", "0"), ("/dev/stdout", "1"), ("/dev/stderr", "2")]

/-- The descriptor that a path stands for. -/
def descriptorOf? (path : Text) : Option Nat :=
  match descriptorPaths.find? fun p => p.1 == asString path with
  | some (_, digits) => natural? digits.toList
  | none =>
    let starts := ["/dev/fd/", "/proc/self/fd/"].map String.toList
    (starts.find? fun start => start.isPrefixOf path).bind fun start =>
      natural? (path.drop start.length)

/-- Why a file cannot be opened, or made. -/
def openingFault (path : Text) (makes : Bool) (cause : SystemError) : String :=
  let verb := if makes then "create" else "open"
  let why := reasonOr (if makes then "Directory nonexistent" else "No such file") cause
  s!"cannot {verb} {asString path}: {why}"

/-- The channel of a node that is there. -/
def channelOf (appends : Bool) (place : List String) : Node → Channel
  | .device .zero => .zero
  | .device .full => .full
  | .file _ _ => .file place 0 appends
  | _ => .null

/-- Opens a file for reading. -/
def openForReading (s : State) (path : Text) : Except String Stream :=
  match s.tree.existing (asString path) with
  | .ok (place, n) => .ok ⟨channelOf false place n, true, false⟩
  | .error cause => .error (openingFault path false cause)

/-- Opens a file for writing, which is made if it is missing. -/
def openForWriting (s : State) (direction : Direction) (path : Text) :
    Except String (Stream × State) :=
  let appends := direction == .append
  let stream (channel : Channel) : Stream := ⟨channel, direction == .readWrite, true⟩
  let set (place : List String) (n : Node) : State :=
    { s with tree := { s.tree with root := s.tree.root.put place n } }
  match s.tree.place (asString path) with
  | .error cause => .error (openingFault path true cause)
  | .ok (place, none) => .ok (stream (.file place 0 appends), set place (.file [] false))
  | .ok (place, some n) =>
    match n, direction with
    | .file _ executable, .write =>
      if s.option 'C' then .error s!"cannot create {asString path}: File exists"
      else .ok (stream (channelOf false place n), set place (.file [] executable))
    | .file _ executable, .overwrite =>
      .ok (stream (channelOf false place n), set place (.file [] executable))
    | _, _ => .ok (stream (channelOf appends place n), s)

/-- Leads a descriptor to where another one leads. -/
def leadTo (s : State) (descriptor : Nat) (direction : Direction) (path : Text)
    (other : Nat) : Except String State :=
  match s.stream? other with
  | none => .error (openingFault path (direction ≠ .read) .notFound)
  | some (index, stream) =>
    match stream.channel with
    | .file place _ _ =>
      let real := ofString (showPath place)
      if direction == .read then do
        let (index, s) := s.addStream (← openForReading s real)
        return s.connect descriptor index
      else do
        let (stream, s) ← openForWriting s direction real
        let (index, s) := s.addStream stream
        return s.connect descriptor index
    | _ => .ok (s.connect descriptor index)

/-- Leads a descriptor to a file. -/
def leadToPath (s : State) (descriptor : Nat) (direction : Direction) (path : Text) :
    Except String State :=
  match descriptorOf? path, direction with
  | some other, _ => leadTo s descriptor direction path other
  | none, .read => do
    let (index, s) := s.addStream (← openForReading s path)
    return s.connect descriptor index
  | none, _ => do
    let (stream, s) ← openForWriting s direction path
    let (index, s) := s.addStream stream
    return s.connect descriptor index

/-- Leads a descriptor to its destination. -/
def lead (expand : Word → Run Text) (descriptor : Nat) (d : Destination) : Run Unit := do
  let s ← get
  let result : Except String State :=
    match d with
    | .path direction path => leadToPath s descriptor direction path
    | .nowhere => .ok (s.disconnect descriptor)
    | .same other =>
      if other = descriptor then .ok s
      else
        match s.stream? other with
        | some (index, _) => .ok (s.connect descriptor index)
        | none => .error s!"{other}: Bad file descriptor"
    | .document _ => .ok s
  match d with
  | .document word =>
    let text ← expand word
    let (index, s) := (← get).addStream ⟨.input text, true, false⟩
    set (s.connect descriptor index)
  | _ =>
    match result with
    | .ok s => set s
    | .error message => fail message

/-- Leads descriptors to their destinations. -/
def leadAll (expand : Word → Run Text) (targets : List (Nat × Destination)) : Run Unit := do
  for (descriptor, d) in targets do
    lead expand descriptor d

/-- Leads descriptors to their destinations; whether that went well. -/
def redirect (expand : Word → Run Text) (targets : List (Nat × Destination)) : Run Bool :=
  tryCatch (do
    leadAll expand targets
    return true) fun
      | .failed => return false
      | other => throw other

/-- The streams up to the last one that is needed, of which there is a least number. -/
def State.trim (s : State) (least : Nat) : State :=
  let needed (p : Process) : Nat := p.descriptors.foldl (fun n d => max n (d.2 + 1)) 0
  let count := s.jobs.foldl (fun n j => max n (needed j.process)) (max least (needed s.toProcess))
  if count < s.streams.length then { s with streams := s.streams.take count } else s

/-- Leads descriptors back to where they led in an earlier state. -/
def leadBack (before : State) (targets : List (Nat × Destination)) : Run Unit := do
  if targets.isEmpty then return ()
  modify fun s =>
    let changed := targets.map (·.1)
    let kept := s.descriptors.filter fun d => !changed.contains d.1
    let back := before.descriptors.filter fun d => changed.contains d.1
    { s with descriptors := back ++ kept }.trim before.streams.length

end Lockstep.Shell
