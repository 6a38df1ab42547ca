import Lockstep.Client.World
import Lockstep.Controller.World
import Lockstep.Journal.Writer
import Lockstep.Program.Run
import Lockstep.Wire.Network

/-!
# A model of the program's surroundings

Around the program are the standard streams, a network on which a client may come along, and a
site with files, where commands run. All of them can fail. A program that waits for a client which
never comes waits for ever: its run stops at that request and has no result.
-/

namespace Lockstep

namespace Dialogue

variable {I : Interface} {α σ : Type}

/-- Answers requests, of which some never get a reply. -/
abbrev Waiter (I : Interface) (σ : Type) := (r : I.Request) → σ → Option (I.Reply r × σ)

/-- Runs a dialogue to its end, or to the first request that never gets a reply. -/
def runWaiting (h : Waiter I σ) : Dialogue I α → σ → Outcome I σ (Option α)
  | .done a, s => ⟨some a, [], s⟩
  | .ask r next, s =>
    match h r s with
    | none => ⟨none, [], s⟩
    | some (reply, s) =>
      let rest := (next reply).runWaiting h s
      ⟨rest.value, ⟨r, reply⟩ :: rest.trace, rest.state⟩

end Dialogue

namespace Program

/-- A host whose files the program reads and writes. -/
structure Site (η : Type) extends Host η where
  isThere : η → String → Bool
  /-- Gives a file a content; one that is missing is made. -/
  save : η → String → Bytes → Except SystemError η
  /-- Puts bytes at the end of a file; one that is missing is made. -/
  extend : η → String → Bytes → Except SystemError η

/-- The state of the program's surroundings. -/
structure World (η : Type) where
  site : η
  /-- What arrives at the standard input. -/
  input : Source
  /-- The standard output. -/
  output : Sink
  /-- The error output. -/
  errors : Sink
  network : Network
  /-- A peer at the other end of the connection: what it sends, and how it takes bytes. Without one
  nothing is sent and everything is taken. -/
  peer : Option (Source × Sink)
  /-- What closing the connection ends with. -/
  hangUp : Except SystemError Unit
  /-- A filter for the journal from outside. -/
  filter : Option String
  journal : Option Journal

namespace World

variable {η : Type}

/-- The surroundings of a controller at an endpoint. -/
def around (w : World η) : Endpoint → Lockstep.World η
  | .socket _ _ =>
    let (source, sink) := w.peer.getD ([], .willing)
    ⟨source, sink, w.output, w.hangUp, w.site⟩
  | _ => ⟨w.input, w.errors, w.output, .ok (), w.site⟩

/-- What a controller at an endpoint has made of its surroundings. -/
def leave (w : World η) (v : Lockstep.World η) : Endpoint → World η
  | .socket _ _ => { w with peer := some (v.source, v.sink), output := v.output, site := v.host }
  | _ => { w with input := v.source, errors := v.sink, output := v.output, site := v.host }

/-- Writes a record to the journal, if it is open. -/
def record (site : Site η) (w : World η) (r : Journal.Record) : World η :=
  match w.journal.bind fun j => (j.line? "" r).map fun line => (j.file, line) with
  | none => w
  | some (file, line) =>
    match site.extend w.site file (utf8 line) with
    | .ok state => { w with site := state }
    | .error _ => w

/-- A change of the site, with what it ends with. -/
def change (w : World η) : Except SystemError η → Except SystemError Unit × World η
  | .ok state => (.ok (), { w with site := state })
  | .error cause => (.error cause, w)

/-- Answers one request of a client. -/
def answerClient (r : Client.Request) (w : World η) : Client.Reply r × World η :=
  let (source, sink) := w.peer.getD ([], .willing)
  let (reply, v) := Client.World.answer r ⟨source, sink, w.input⟩
  (reply, { w with peer := some (v.source, v.sink), input := v.terminal })

/-- Opens the journal, unless it is open. -/
def openJournal (site : Site η) (w : World η) (s : JournalSettings) :
    Except SystemError (List String) × World η :=
  match s.file, w.journal with
  | some file, none =>
    let (result, w) := w.change (site.extend w.site file [])
    match result with
    | .ok () =>
      (.ok (Journal.complaints s.level w.filter),
        { w with journal := some (.start file s.level w.filter) })
    | .error cause => (.error cause, w)
  | _, _ => (.ok [], w)

/-- Answers one request; a client that is waited for may never come. -/
def answer (site : Site η) : Dialogue.Waiter interface (World η)
  | .isThere path, w => some (site.isThere w.site path, w)
  | .load path, w => some (site.load w.site path, w)
  | .save path content, w => some (w.change (site.save w.site path content))
  | .extend path content, w => some (w.change (site.extend w.site path content))
  | .openJournal s, w => some (w.openJournal site s)
  | .print _, w => some ((), w)
  | .listen host, w => some (w.network.listen host, w)
  | .announce m, w =>
    let (delivery, errors) := w.errors.deliver [m.bytes]
    some (delivery, { w with errors := errors })
  | .accept, w => w.network.accept.map fun accepted => (accepted, w)
  | .adopt, w => some (w.network.adopt, w)
  | .connect host port, w => some (w.network.connect host port, w)
  | .note r, w => some ((), w.record site r)
  | .controller endpoint r, w =>
    let (reply, v) := Lockstep.World.answer site.toHost r (w.around endpoint)
    let w := w.leave v endpoint
    match r with
    | .note record => some (reply, w.record site record)
    | _ => some (reply, w)
  | .client r, w => some (w.answerClient r)

end World

/-- A request of the program with its reply. -/
abbrev Exchange := Dialogue.Exchange interface

/-- The bytes that a request got to the standard output. -/
def Exchange.printed : Exchange → Bytes
  | ⟨.print text, _⟩ => utf8 text
  | ⟨.controller _ r, reply⟩ => Controller.Exchange.printed ⟨r, reply⟩
  | ⟨.client r, reply⟩ => (Client.Exchange.shown ⟨r, reply⟩).flatMap fun line => utf8 s!"{line}\n"
  | _ => []

/-- The bytes that a request got to the error output. -/
def Exchange.complained : Exchange → Bytes
  | ⟨.openJournal _, .ok complaints⟩ => complaints.flatMap fun line => utf8 s!"{line}\n"
  | ⟨.announce _, delivery⟩ => delivery.accepted.flatten
  | ⟨.controller (.socket _ _) _, _⟩ => []
  | ⟨.controller _ r, reply⟩ => Controller.Exchange.sent ⟨r, reply⟩
  | _ => []

/-- The bytes that a request got to the other end of the connection. -/
def Exchange.sent : Exchange → Bytes
  | ⟨.controller (.socket _ _) r, reply⟩ => Controller.Exchange.sent ⟨r, reply⟩
  | ⟨.client r, reply⟩ => Client.Exchange.sent ⟨r, reply⟩
  | _ => []

/-- What came of a run of the program. -/
structure Ending (η : Type) where
  /-- The exit code; a run that waits for ever has none. -/
  exitCode : Option Nat
  output : Bytes
  errors : Bytes
  /-- What went over the connection. -/
  sent : Bytes
  world : World η

/-- Runs a command line in a world. -/
def perform {η : Type} (site : Site η) (w : World η) (c : CommandLine) (bound : Nat) : Ending η :=
  let o := (run c bound).run.runWaiting (World.answer site) w
  let (exitCode, failure) : Option Nat × String :=
    match o.value with
    | none => (none, "")
    | some (.ok ()) => (some 0, "")
    | some (.error f) => (some 1, f.render)
  { exitCode := exitCode
    output := o.trace.flatMap Exchange.printed
    errors := o.trace.flatMap Exchange.complained ++ utf8 failure
    sent := o.trace.flatMap Exchange.sent
    world := o.state }

/-- Runs the program with arguments in a world. What is shown in place of a run says so itself. -/
def performArguments {η : Type} (site : Site η) (w : World η) (arguments : List String)
    (bound : Nat) : Ending η :=
  match CommandLine.read arguments with
  | .ok c => perform site w c bound
  | .error notice =>
    let message := utf8 notice.message
    let isFault := notice.exitCode ≠ 0
    { exitCode := some notice.exitCode
      output := if isFault then [] else message
      errors := if isFault then message else []
      sent := []
      world := w }

end Program

end Lockstep
