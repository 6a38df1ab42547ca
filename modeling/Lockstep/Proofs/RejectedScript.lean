import Lockstep.Proofs.ErrorKinds
import Lockstep.Proofs.Reading
import Lockstep.Proofs.ScriptParse
import Lockstep.Proofs.ScriptRun
import Lockstep.Proofs.ScriptSession

/-!
# Sessions of a file that is no script

A script is read whole before any of it runs, so a file that cannot be read, or that has a bad line
anywhere, does nothing but be read: under any hooks, its run is one request and a fault
(`Unscripted.rejects`). To the session this is a fault like any other. The client is greeted and
dismissed, and sees no break.

Of what runs a target, only the reading of the file is left in the history. The parts before and
after it make no such request at all, and `Plays` says what they do otherwise.
-/

namespace Lockstep

open Controller (Plays Deed Exchange deeds executed sent)
open Lines (Divided)
open Line (Says)
open Source (linesOf lineAt)

variable {η : Type} {host : Host η} {e : Endpoint}

/-! ## The engine -/

/-- What a file that is no script comes to, under any hooks and where the host is in this state. -/
def Session.Rejects (host : Host η) (h : η) (path : String) (flaw : Script.Flaw) : Prop :=
  ∀ {σ : Type} (hooks : Hooks σ) (shell : String) (a : σ) (w : World η), w.host = h →
    (Script.run hooks shell path a).run (World.answer host) w =
      ⟨(.error (.fault flaw.message), a), [⟨.load path, host.load h path⟩], w⟩

namespace Script

/-- A file that is no script: it cannot be read as text, or has a line that is not acceptable. -/
inductive Unscripted : Except SystemError (List Char) → Prop
  | unreadable {cause : SystemError} : Unscripted (.error cause)
  | unacceptable {text line : List Char} {lines : List (List Char)} :
      Divided text lines → line ∈ lines → ¬ Acceptable line → Unscripted (.ok text)

/-- One line that is not acceptable fails the text, wherever it is. -/
theorem parse_of_unacceptable {text line : List Char} {lines : List (List Char)}
    (hlines : Divided text lines) (hmem : line ∈ lines) (hline : ¬ Acceptable line) :
    ∃ flaw, parse text = .error flaw := by
  cases hparse : parse text with
  | error flaw => exact ⟨flaw, rfl⟩
  | ok script =>
      -- then all lines would be acceptable
      have haccept := (parse_eq_ok_iff.mp hparse).2.acceptable
      rw [← Lines.divided_iff.mp hlines] at haccept
      exact absurd (haccept line hmem) hline

/-- **The file is read, and nothing else is done,** whatever the hooks would do. -/
theorem Unscripted.rejects {h : η} {path : String} (hreply : Unscripted (host.load h path)) :
    ∃ flaw, Session.Rejects host h path flaw := by
  generalize hload : host.load h path = reply at hreply
  have hanswer : ∀ w : World η, w.host = h → World.answer host (.load path) w = (reply, w) := by
    intro w hw
    show (host.load w.host path, w) = _
    rw [hw, hload]
  cases hreply with
  | @unreadable cause =>
      refine ⟨.unreadable path cause, ?_⟩
      intro σ hooks shell a w hw
      rw [hload, Script.run_eq, Dialogue.run_ask, hanswer w hw]
      rfl
  | unacceptable hlines hmem hline =>
      obtain ⟨flaw, hparse⟩ := parse_of_unacceptable hlines hmem hline
      refine ⟨flaw, ?_⟩
      intro σ hooks shell a w hw
      rw [hload, Script.run_eq, Dialogue.run_ask, hanswer w hw]
      dsimp only
      rw [hparse]
      rfl

end Script

open Script (Unscripted)

/-! ## The parts around it -/

/-- Nothing is asked for by which a target is run. -/
def Still {α : Type} (d : Talk α) : Prop :=
  Dialogue.Asks (fun r : Controller.Request => r.isRunning = false) d

theorem Still.run {α : Type} {d : Talk α} (hd : Still d) (host : Host η) (w : World η) :
    (d.run (World.answer host) w).trace.filter (·.request.isRunning) = [] := by
  refine List.filter_eq_nil_iff.mpr ?_
  intro x hx
  rw [hd.unfolds (Dialogue.run_unfolds _ d w) x hx]
  exact Bool.false_ne_true

namespace Endpoint

theorem greet_still : Still e.greet.run := by
  cases he : e.hasPeer with
  | false =>
      rw [greet_run_alone he]
      refine .ask rfl ?_
      intro d
      cases d.outcome with
      | error cause => exact .done _
      | ok u => exact .ask rfl fun _ => .done _
  | true =>
      rw [greet_run he]
      refine .ask rfl ?_
      intro d
      cases d.outcome with
      | error cause => exact .done _
      | ok u =>
          dsimp only
          rw [awaitGreeting_run he]
          refine .ask rfl ?_
          intro reply
          dsimp only
          cases greetingResult (hear reply) with
          | ok u => exact .ask rfl fun _ => .done _
          | error failure => exact .done _

theorem close_still : Still e.close.run := by
  rw [close_run]
  refine .ask rfl ?_
  intro d
  dsimp only
  cases d.outcome with
  | error cause => exact .done _
  | ok u =>
      cases e with
      | stream => exact .done _
      | loopback => exact .done _
      | socket name port => exact .ask rfl fun _ => .done _

end Endpoint

namespace Session

theorem introduce_still : Still (introduce e).run := by
  rw [introduce_run]
  refine Endpoint.greet_still.bind ?_
  intro result
  cases result with
  | ok u => exact .done _
  | error failure => exact .ask rfl fun _ => .done _

theorem script_resolve_still (shell target : String) :
    Still ((Subject.script shell).engine.resolve target).run := by
  rw [Subject.script_resolve_run]
  exact .ask rfl fun _ => .ask rfl fun _ => .done _

theorem conclude_fault_still (text : String) (p : Progress) :
    Still (conclude e (.error (.fault text), p)) := by
  refine .ask rfl ?_
  intro _
  refine .ask rfl ?_
  intro d
  dsimp only
  cases d.outcome with
  | error cause => exact .done _
  | ok u =>
      refine Endpoint.close_still.bind ?_
      intro result
      cases result with
      | ok u => exact .ask rfl fun _ => .done _
      | error failure => exact .done _

/-- The view when the greeting is over. -/
def greeted (e : Endpoint) (v : View η) : View η := if e.hasPeer then v.rest else v

theorem greeted_source (v : View η) :
    (greeted e v).source = if e.hasPeer then v.source.readLine.2 else v.source := by
  rw [greeted]
  split <;> rfl

theorem greeted_output (v : View η) : (greeted e v).output = v.output := by
  rw [greeted]
  split <;> rfl

theorem greeted_hangUp (v : View η) : (greeted e v).hangUp = v.hangUp := by
  rw [greeted]
  split <;> rfl

theorem greeted_host (v : View η) : (greeted e v).host = v.host := by
  rw [greeted]
  split <;> rfl

/-- What is done in a greeting. -/
def greeting (e : Endpoint) (v : View η) : List Deed :=
  .said e.opening.bytes :: if e.hasPeer then [.heard v.next] else []

/-- Where there is a client that greets, or no client at all, the greeting succeeds. -/
theorem introduce_greeted_plays (host : Host η) (v : View η)
    (h : e.hasPeer = true → greetingResult (hear v.next) = .ok ()) :
    Plays host (introduce e).run v (.ok ()) (greeting e v) (greeted e v) := by
  rw [greeting, greeted]
  cases he : e.hasPeer with
  | true =>
      have hplays := introduce_plays host v he
      rw [h he] at hplays
      exact hplays
  | false =>
      rw [introduce_run, Endpoint.greet_run_alone he]
      refine .send ?_
      intro d hd
      obtain ⟨accepted, outcome⟩ := d
      obtain rfl : outcome = .ok () := hd
      exact .note (.done _)

/-! ## The whole session -/

section Rejected

variable {w : World η} {target path : String}

/-- A session of a file that is no script says its opening and its farewell, and is a fault. -/
theorem rejected_plays (shell : String) (delay : Option Nat) (v : View η)
    (hgreeting : e.hasPeer = true → greetingResult (hear v.next) = .ok ())
    (hresolve : host.resolve v.host target = .ok path) {flaw : Script.Flaw}
    (hflaw : Rejects host v.host path flaw) :
    Plays host (run (Script.engine shell) e delay target).run v
      ((e.closing v.hangUp).map fun _ => ⟨0, some flaw.message⟩)
      (greeting e v ++ [.said Message.finish.bytes]) (greeted e v) := by
  have hhost := greeted_host (e := e) v
  have hfile : Plays host (Script.run (stepper e delay) shell path .start) (greeted e v)
      (.error (.fault flaw.message), .start) [] (greeted e v) := by
    intro w hw
    rw [hflaw (stepper e delay) shell .start w (hw.host.trans hhost)]
    exact ⟨rfl, rfl, hw⟩
  have hfarewell := conclude_ending_plays host (e := e) (greeted e v) .start (some flaw.message)
  rw [greeted_hangUp] at hfarewell
  rw [run_run]
  refine (introduce_greeted_plays host v hgreeting).bind ?_
  refine (script_resolve_plays host shell (greeted e v) (hhost ▸ hresolve)).bind ?_
  exact .note (hfile.bind hfarewell)

/-- Of what runs a target, such a session reads the file. -/
theorem rejected_running (shell : String) (delay : Option Nat)
    (hsink : w.sink.receiver.Obliging)
    (hgreeting : e.hasPeer = true → greetingResult (hear (View.ofWorld w).next) = .ok ())
    (hresolve : host.resolve w.host target = .ok path) {flaw : Script.Flaw}
    (hflaw : Rejects host w.host path flaw) :
    (outcome host (Script.engine shell) e delay target w).trace.filter (·.request.isRunning) =
      [⟨.load path, host.load w.host path⟩] := by
  have hshows := View.shows_ofWorld hsink
  obtain ⟨hgreeted, -, hstate⟩ := introduce_greeted_plays host _ hgreeting w hshows
  let i := (introduce e).run.run (World.answer host) w
  have hhost : i.state.host = w.host := hstate.host.trans (greeted_host _)
  let r := ((Subject.script shell).engine.resolve target).run.run (World.answer host) i.state
  have hfind : host.resolve (greeted e (View.ofWorld w)).host target = .ok path := by
    rw [← hstate.host, hhost]
    exact hresolve
  obtain ⟨hfound, -, hlater⟩ := script_resolve_plays host shell _ hfind i.state hstate
  have hread : ((Script.engine shell).run (stepper e delay) path .start).run (World.answer host)
      r.state =
        ⟨(.error (.fault flaw.message), .start), [⟨.load path, host.load w.host path⟩], r.state⟩ :=
    hflaw (stepper e delay) shell .start r.state (hlater.host.trans (hstate.host.symm.trans hhost))
  have hnote : ∀ record, World.answer host (.note record) r.state = ((), r.state) := fun _ => rfl
  have hend := (conclude_fault_still (e := e) flaw.message .start).run host r.state
  -- one part of the session after another is still, apart from the run of the file
  rw [outcome, run_run, run_onOk_ok hgreeted, List.filter_append, introduce_still.run,
    List.nil_append]
  rw [show (Script.engine shell).resolve target = (Subject.script shell).engine.resolve target
    from rfl, run_onOk_ok hfound, List.filter_append, (script_resolve_still shell target).run,
    List.nil_append, Dialogue.run_ask, hnote, Dialogue.run_bind]
  dsimp only
  rw [hread, List.filter_cons, List.filter_append, hend]
  rfl

/--
**A file that is no script runs nothing.** The host finds a target, and its file cannot be read, or
has a line that is not acceptable, wherever it is; the client takes all bytes in the end, and if
there is one it greets. Under any hooks the run of the file is a fault, asks for nothing but the file
and leaves everything as it was, so no hook is called. The session reports this fault and no break,
unless the connection cannot be closed. What is seen of it outside is the opening, the greeting if
there is a client, and the farewell: no command runs, and nothing is passed on to the output. Only
the greeting is read.
-/
theorem rejected_script_session (shell : String) (delay : Option Nat) {input : Bytes}
    (hsink : w.sink.receiver.Obliging) (hresolve : host.resolve w.host target = .ok path)
    (hfile : Unscripted (host.load w.host path)) (hinput : w.source.Brings input)
    (hgreeting : e.hasPeer = true → Says (lineAt (linesOf input) 0) .clientInit) :
    let o := outcome host (Script.engine shell) e delay target w
    ∃ flaw : Script.Flaw, Rejects host w.host path flaw ∧
      o.value = (e.closing w.hangUp).map (fun _ => ⟨0, some flaw.message⟩) ∧
      deeds o.trace = .said e.opening.bytes ::
        (if e.hasPeer then [.heard (.ok (lineAt (linesOf input) 0))] else []) ++
        [.said Message.finish.bytes] ∧
      o.trace.filter (·.request.isRunning) = [⟨.load path, host.load w.host path⟩] ∧
      sent o.trace = e.opening.bytes ++ Message.finish.bytes ∧ executed o.trace = [] ∧
      o.state.output = w.output ∧ o.state.host = w.host ∧
      ∃ left, o.state.source.Brings left ∧
        input = (if e.hasPeer then lineAt (linesOf input) 0 else []) ++ left := by
  intro o
  obtain ⟨flaw, hflaw⟩ := hfile.rejects
  have hnext := (next_of_brings hinput).1
  have hgreeted : e.hasPeer = true → greetingResult (hear (View.ofWorld w).next) = .ok () := by
    intro he
    rw [hnext]
    exact greetingResult_eq_ok.mpr (hgreeting he)
  have hplays := rejected_plays (v := View.ofWorld w) shell delay hgreeted hresolve hflaw
  obtain ⟨hvalue, hdeeds, hstate⟩ := hplays w (View.shows_ofWorld hsink)
  have hrunning := rejected_running shell delay hsink hgreeted hresolve hflaw
  have hdeeds : deeds o.trace = .said e.opening.bytes ::
      (if e.hasPeer then [.heard (.ok (lineAt (linesOf input) 0))] else []) ++
      [.said Message.finish.bytes] := by
    rw [greeting, hnext] at hdeeds
    exact hdeeds
  have hsource : o.state.source = if e.hasPeer then w.source.readLine.2 else w.source :=
    hstate.source.trans (greeted_source _)
  refine ⟨flaw, hflaw, hvalue, hdeeds, hrunning, ?_, ?_, hstate.output.trans (greeted_output _),
    hstate.host.trans (greeted_host _), ?_⟩
  · rw [Controller.sent_eq_deeds, hdeeds]
    split <;> simp [Deed.bytes]
  · have hcommands := Controller.executed_eq_deeds o.trace
    rw [hdeeds] at hcommands
    refine List.map_eq_nil_iff.mp (hcommands.trans ?_)
    split <;> rfl
  · rw [hsource]
    split
    · obtain ⟨line, left, hline, hbytes, hleft, -⟩ := hinput.readLine
      have hfirst : line = lineAt (linesOf input) 0 := Except.ok.inj (hline.symm.trans hnext)
      exact ⟨left, hleft, hfirst ▸ hbytes⟩
    · exact ⟨input, hinput, rfl⟩

end Rejected

/-- The bad line comes after a good one: the client is dismissed, and its next line is not read. -/
theorem rejected_script_session_second_line :
    let host : Host Unit :=
      ⟨fun _ => .ok, fun _ _ => .ok "a\nrepeat x: b\nc".toList,
        fun _ _ => (.ok ⟨[], [], .exited 0⟩, ())⟩
    let input := [Message.clientInit, .resume].flatMap Message.bytes
    let w : World Unit := ⟨Source.ofBytes input, .willing, .willing, .ok (), ()⟩
    let o := outcome host (Script.engine "sh") .stream none "t" w
    (∃ fault, o.value = .ok ⟨0, some fault⟩) ∧ executed o.trace = [] ∧
      sent o.trace = (Message.serverInit none none).bytes ++ Message.finish.bytes ∧
      o.state.source.Brings Message.resume.bytes := by
  intro host input w o
  have hlines : linesOf input = [Message.clientInit, .resume].map Message.bytes :=
    Message.linesOf_bytes _
  have hrefused : ∃ flaw, Script.readLine 2 "repeat x: b".toList = .error flaw := ⟨_, rfl⟩
  have hfile : Unscripted (host.load w.host "t") := by
    obtain ⟨flaw, hflaw⟩ := hrefused
    refine .unacceptable (Lines.divided_ofText _) ?_ (Script.readLine_refused hflaw).1
    decide
  obtain ⟨flaw, -, hvalue, -, -, hsent, hexecuted, -, -, left, hleft, hinput⟩ :=
    rejected_script_session (e := .stream) (w := w) "sh" none
      Receiver.willing_obliging (rfl : host.resolve w.host "t" = .ok "t") hfile
      (Source.brings_ofBytes input) (by
        intro _
        rw [hlines]
        exact Message.clientInit.says_bytes)
  rw [hlines] at hinput
  have hrest : left = Message.resume.bytes := by
    have hparts : Message.clientInit.bytes ++ Message.resume.bytes =
        Message.clientInit.bytes ++ left := by
      rw [← show input = Message.clientInit.bytes ++ left from hinput]
      simp [input]
    exact (List.append_cancel_left hparts).symm
  exact ⟨⟨_, hvalue⟩, hexecuted, hsent, hrest ▸ hleft⟩

end Session

end Lockstep
