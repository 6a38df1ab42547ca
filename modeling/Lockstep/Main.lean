import Lockstep.Program.World
import Lockstep.Shell.Host

/-!
# The program

Answers what the program asks for by the standard streams and the files of the computer that it
runs on. Commands run in the shell of this library, on a file tree of their own, and nobody can be
reached over a network.
-/

namespace Lockstep.Main

/-- What an error of the computer is. -/
def systemError : IO.Error → SystemError
  | .noFileOrDirectory _ number _ | .permissionDenied _ number _ | .alreadyExists _ number _
  | .inappropriateType _ number _ | .invalidArgument _ number _ | .resourceExhausted _ number _ =>
    .numbered number.toNat
  | .resourceVanished number _ | .otherError number _ | .hardwareFault number _
  | .resourceBusy number _ | .unsupportedOperation number _ => .numbered number.toNat
  | error => .worded (toString error)

/-- Does something on the computer, and gives its error if it has one. -/
def attempt {α : Type} (action : IO α) : IO (Except SystemError α) :=
  tryCatch (Except.ok <$> action) fun error => pure (.error (systemError error))

/-- Reads byte by byte up to and including a line feed. -/
def readLine (input : IO.FS.Stream) : Nat → Bytes → IO Bytes
  | 0, line => pure line.reverse
  | limit + 1, line => do
    match (← input.read 1).toList with
    | [] => pure line.reverse
    | byte :: _ =>
      if byte = lineFeed then pure (byte :: line).reverse else readLine input limit (byte :: line)

/-- More bytes than a line has, and more requests than a program makes. -/
def limit : Nat := 18446744073709551616

/-- Reads a line of the standard input. -/
def readInput : IO (Except SystemError Bytes) := do
  attempt (readLine (← IO.getStdin) limit [])

/-- Writes buffers to a stream, and flushes it. -/
def deliver (output : IO.FS.Stream) (buffers : List Bytes) : IO Delivery := do
  let outcome ← attempt do
    for buffer in buffers do
      output.write ⟨buffer.toArray⟩
    output.flush
  return ⟨buffers, outcome⟩

/-- Puts bytes at the end of a file. -/
def extend (path : String) (content : Bytes) : IO (Except SystemError Unit) :=
  attempt do
    let file ← IO.FS.Handle.mk path .append
    file.write ⟨content.toArray⟩

/-- Reads a file as text. -/
def load (path : String) : IO (Except SystemError (List Char)) := do
  match ← attempt (IO.FS.readBinFile path) with
  | .error cause => return .error cause
  | .ok content =>
    match Utf8.decode? content.toList with
    | some text => return .ok text
    | none => return .error .notText

/-- What the program remembers of its surroundings. -/
structure Memory where
  machine : Shell.Machine
  journal : Option Journal

/-- Something that the program does to the computer. -/
abbrev Work := StateT Memory IO

/-- Writes a record to the journal, if it is open. -/
def record (r : Journal.Record) : Work Unit := do
  match (← get).journal with
  | none => pure ()
  | some journal =>
    match journal.line? "" r with
    | none => pure ()
    | some line =>
      let _ ← extend journal.file (utf8 line)

/-- Answers a request of a controller. -/
def answerController : (r : Controller.Request) → Work (Controller.Reply r)
  | .send m => do deliver (← IO.getStderr) [m.bytes]
  | .receive => readInput
  | .flush => do deliver (← IO.getStderr) []
  | .hangUp => pure (.ok ())
  | .resolve path => attempt do return (← IO.FS.realPath path).toString
  | .load path => load path
  | .invoke invocation =>
    modifyGet fun memory =>
      let (result, machine) := memory.machine.invoke invocation
      (result, { memory with machine := machine })
  | .relay out err => do deliver (← IO.getStdout) [out, err]
  | .pause milliseconds => IO.sleep (UInt32.ofNat milliseconds)
  | .mark _ => pure ()
  | .note r => record r

/-- Answers a request of a client. -/
def answerClient : (r : Client.Request) → Work (Client.Reply r)
  | .send _ => pure ⟨[], .error .notConnected⟩
  | .receive => pure (.error .notConnected)
  | .print line => IO.println line
  | .prompt => readInput

/-- The network of the computer, as far as it can be used. -/
def network : Network := .isolated 0

/-- Answers a request of the program. -/
def answer : (r : Program.Request) → Work (Program.Reply r)
  | .isThere path => do
    match ← attempt (IO.FS.Handle.mk path .read) with
    | .ok _ => return true
    | .error cause => return !(cause == .notFound || cause == .notDirectory)
  | .load path => load path
  | .save path content => attempt (IO.FS.writeBinFile path ⟨content.toArray⟩)
  | .extend path content => extend path content
  | .openJournal settings => do
    match settings.file with
    | none => return .ok []
    | some file =>
      match ← extend file [] with
      | .error cause => return .error cause
      | .ok () =>
        let filter ← IO.getEnv Journal.filterVariable
        let complaints := Journal.complaints settings.level filter
        for line in complaints do IO.eprintln line
        modify fun m => { m with journal := some (.start file settings.level filter) }
        return .ok complaints
  | .print text => IO.print text
  | .listen host => pure (network.listen host)
  | .announce m => do deliver (← IO.getStderr) [m.bytes]
  | .accept | .adopt => pure (.error .notConnected)
  | .connect host port => pure (network.connect host port)
  | .note r => record r
  | .controller _ r => answerController r
  | .client r => answerClient r

/-- Runs the program to its end. -/
def interpret {α : Type} : Program.Talk α → Work α
  | .done a => pure a
  | .ask r next => do
    let reply ← answer r
    interpret (next reply)

/-- Runs a command line, and gives the exit code. -/
def perform (c : CommandLine) : IO UInt32 := do
  let (result, _) ← (interpret (Program.run c limit).run).run ⟨.fresh "/", none⟩
  match result with
  | .ok () => return 0
  | .error failure =>
    IO.eprint failure.render
    return 1

end Lockstep.Main

/-- Reads the command line and does what it says. -/
def main (arguments : List String) : IO UInt32 := do
  match Lockstep.CommandLine.read arguments with
  | .ok c => Lockstep.Main.perform c
  | .error notice =>
    if notice.exitCode = 0 then IO.print notice.message else IO.eprintln notice.message
    return UInt32.ofNat notice.exitCode
