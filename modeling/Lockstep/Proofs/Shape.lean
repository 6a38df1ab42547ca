import Lockstep.Controller.Session

/-!
# The shape of a session

What each action of the controller asks for, and how it goes on with the reply, written out as a
tree of requests. The later proofs reason about requests and replies; they use these equations and
never look into an action.
-/

namespace Lockstep

/-- What the controller makes of the reply to a wait for a line. -/
def hear : Except SystemError Bytes → Except SessionError Message
  | .error cause => .error (.io cause)
  | .ok bytes => Line.ofBytes bytes >>= Message.decode

/-- What a message that is waited for does to the session: one wanted message lets it go on, and
every other one and every failure ends it. -/
def heed (wanted : Message) (other : Message.Kind → SessionError)
    (nothing : SessionError → SessionError) :
    Except SessionError Message → Except SessionError Unit
  | .ok m => if m = wanted then .ok () else .error (other m.kind)
  | .error failure => .error (nothing failure)

/-- What the first message of the client does to the session. -/
def greetingResult : Except SessionError Message → Except SessionError Unit :=
  heed .clientInit (fun kind => .handshakeFailed s!"expected 'clientinit', received '{kind.name}'")
    (fun failure => .handshakeFailed failure.message)

/-- What the answer to a break does to the session. -/
def resumeResult : Except SessionError Message → Except SessionError Unit :=
  heed .resume (fun kind => .violation .resume kind.name) id

namespace Controller

theorem run_orFail {α : Type} (r : Except SystemError α) :
    (orFail r).run = .done (r.mapError .io) := by
  cases r <;> rfl

theorem run_ofExcept {α : Type} (r : Except SessionError α) :
    (MonadExcept.ofExcept r : Action α).run = .done r := by
  cases r <;> rfl

end Controller

namespace Endpoint

open Controller (run_orFail run_ofExcept)
open Dialogue (map_done map_ask ask_bind done_bind ask_congr)

theorem send_run (m : Message) :
    (send m).run = .ask (.send m) fun d => .done (d.outcome.mapError .io) := by
  unfold send
  simp only [ExceptT.run_bind, ExceptT.run_liftM, Controller.ask, map_ask, map_done, ask_bind,
    done_bind, run_orFail]

/-- One wait for a line is one request, and the rest is a function of its reply. -/
theorem receiveMessage_run {e : Endpoint} (h : e.hasPeer = true) :
    e.receiveMessage.run = .ask .receive fun reply => .done (hear reply) := by
  unfold receiveMessage receive
  rw [if_pos h]
  simp only [ExceptT.run_bind, ExceptT.run_liftM, Controller.ask, map_ask, map_done, ask_bind,
    done_bind, run_orFail, run_ofExcept]
  refine ask_congr ?_
  intro reply
  cases reply with
  | error cause => rfl
  | ok bytes =>
      show (Dialogue.done (Line.ofBytes bytes) >>= _ : Talk _) = _
      rw [hear]
      cases Line.ofBytes bytes <;> rfl

theorem awaitGreeting_run {e : Endpoint} (h : e.hasPeer = true) :
    e.awaitGreeting.run = .ask .receive fun reply =>
      match greetingResult (hear reply) with
      | .ok () => .ask (.note ⟨.info, .greeting, "handshake complete", []⟩) fun _ => .done (.ok ())
      | .error failure => .done (.error failure) := by
  unfold awaitGreeting
  simp only [ExceptT.run_bind, ExceptT.run_tryCatch, receiveMessage_run h, ask_bind]
  refine ask_congr ?_
  intro reply
  cases hear reply with
  | error failure => rfl
  | ok m => cases m <;> rfl

theorem greet_run {e : Endpoint} (h : e.hasPeer = true) :
    e.greet.run = .ask (.send e.opening) fun d =>
      match d.outcome with
      | .error cause => .done (.error (.io cause))
      | .ok () => e.awaitGreeting.run := by
  unfold greet
  simp only [ExceptT.run_bind, send_run, ask_bind, done_bind, h, if_true]
  refine ask_congr ?_
  intro d
  cases d.outcome <;> rfl

/-- Where there is no client, the opening is all of the greeting. -/
theorem greet_run_alone {e : Endpoint} (h : e.hasPeer = false) :
    e.greet.run = .ask (.send e.opening) fun d =>
      match d.outcome with
      | .error cause => .done (.error (.io cause))
      | .ok () => .ask (.note ⟨.debug, .greeting, "no client attached, skipping clientinit", []⟩)
        fun _ => .done (.ok ()) := by
  unfold greet
  simp only [ExceptT.run_bind, send_run, ask_bind, done_bind, h, Bool.false_eq_true, if_false]
  refine ask_congr ?_
  intro d
  cases d.outcome <;> rfl

theorem awaitResume_run {e : Endpoint} (h : e.hasPeer = true) :
    e.awaitResume.run = .ask .receive fun reply => .done (resumeResult (hear reply)) := by
  unfold awaitResume
  simp only [ExceptT.run_bind, receiveMessage_run h, ask_bind]
  refine ask_congr ?_
  intro reply
  cases hear reply with
  | error failure => rfl
  | ok m => cases m <;> rfl

/-- Once the client has let the target go on, the controller waits as long as it was told to. -/
def rest (delay : Option Nat) (line : UInt32) : Talk (Except SessionError Unit) :=
  let resumed := Dialogue.ask (I := Controller.interface)
    (.note ⟨.trace, .suspension, "resumed", [("line", toString line.toNat)]⟩)
    fun _ => .done (.ok ())
  match delay with
  | some milliseconds => .ask (.pause milliseconds) fun _ => resumed
  | none => resumed

theorem suspend_run {e : Endpoint} (h : e.hasPeer = true) (delay : Option Nat) (line : UInt32) :
    (e.suspend delay line).run =
      .ask (.note ⟨.debug, .suspension, "break", [("line", toString line.toNat)]⟩) fun _ =>
      .ask (.send (.breakAt line)) fun d =>
        match d.outcome with
        | .error cause => .done (.error (.io cause))
        | .ok () => .ask .receive fun reply =>
          match resumeResult (hear reply) with
          | .ok () => rest delay line
          | .error failure => .done (.error failure) := by
  unfold suspend
  simp only [ExceptT.run_bind, send_run, Controller.note, ExceptT.run_liftM, Controller.ask,
    map_ask, map_done, ask_bind, done_bind, h, if_true, awaitResume_run h]
  refine ask_congr fun _ => ask_congr ?_
  intro d
  cases d.outcome with
  | error cause => rfl
  | ok u =>
      refine ask_congr ?_
      intro reply
      cases resumeResult (hear reply) with
      | error failure => rfl
      | ok u => cases delay <;> rfl

/-- Where there is no client, a suspension is its break, and nothing is waited for. -/
theorem suspend_run_alone {e : Endpoint} (h : e.hasPeer = false) (delay : Option Nat)
    (line : UInt32) :
    (e.suspend delay line).run =
      .ask (.note ⟨.debug, .suspension, "break", [("line", toString line.toNat)]⟩) fun _ =>
      .ask (.send (.breakAt line)) fun d =>
        match d.outcome with
        | .error cause => .done (.error (.io cause))
        | .ok () => rest delay line := by
  unfold suspend
  simp only [ExceptT.run_bind, send_run, Controller.note, ExceptT.run_liftM, Controller.ask,
    map_ask, map_done, ask_bind, done_bind, h, Bool.false_eq_true, if_false]
  refine ask_congr fun _ => ask_congr ?_
  intro d
  cases d.outcome with
  | error cause => rfl
  | ok u => cases delay <;> rfl

/-- What closing the connection does to the session. -/
def hangUpResult : Except SystemError Unit → Except SessionError Unit
  | .ok () => .ok ()
  | .error cause => if cause = .notConnected then .ok () else .error (.io cause)

theorem close_run (e : Endpoint) :
    e.close.run = .ask .flush fun d =>
      match d.outcome with
      | .error cause => .done (.error (.io cause))
      | .ok () =>
        match e with
        | .stream | .loopback => .done (.ok ())
        | .socket _ _ => .ask .hangUp fun reply => .done (hangUpResult reply) := by
  unfold close
  simp only [ExceptT.run_bind, ExceptT.run_liftM, Controller.ask, map_ask, map_done, ask_bind,
    done_bind, run_orFail]
  refine ask_congr ?_
  intro d
  cases d.outcome with
  | error cause => rfl
  | ok u =>
      cases e with
      | stream => rfl
      | loopback => rfl
      | socket host port =>
          refine ask_congr ?_
          intro reply
          cases reply with
          | ok u => rfl
          | error cause =>
              show ExceptT.run
                (if cause = .notConnected then pure () else throw (SessionError.io cause)) = _
              rw [hangUpResult]
              split <;> rfl

end Endpoint

/-! ## Line by line -/

section Stepper

variable (e : Endpoint) (delay : Option Nat) (place : Place) {p : Progress}

theorem stepper_foreign : (stepper e delay).line ⟨place, false⟩ p = .done (.ok (), p) := rfl

theorem stepper_repeated (h : p.lastLine = some place.line) :
    (stepper e delay).line ⟨place, true⟩ p =
      .ask (.note ⟨.trace, .progress, "suppressed repeated line",
        [("line", toString place.line.toNat)]⟩) fun _ => .done (.ok (), p) := by
  have hold : p.isNew ⟨place, true⟩ = false := by simp [Progress.isNew, h]
  show (if p.isNew ⟨place, true⟩ then _ else _) = _
  rw [if_neg (by rw [hold]; decide), if_pos rfl]
  rfl

theorem stepper_new (h : p.lastLine ≠ some place.line) :
    (stepper e delay).line ⟨place, true⟩ p =
      (e.suspend delay place.line).run >>= fun result => .done (result, p.advance place.line) := by
  have hnew : p.isNew ⟨place, true⟩ = true := by simp [Progress.isNew, h]
  exact if_pos hnew

end Stepper

namespace Engine

theorem replayEvents_cons {σ : Type} (hooks : Hooks σ) (event : LineEvent) (rest : List LineEvent)
    (s : σ) :
    replayEvents hooks (event :: rest) s =
      .ask (.mark (.reached event)) fun _ => hooks.line event s >>= fun
        | (.ok (), s) => replayEvents hooks rest s
        | (.error failure, s) => .done (.error failure, s) := rfl

/-- The event at which a target comes to a line. -/
def event (target : String) (line : UInt32 × Bool) : LineEvent := ⟨⟨target, line.1⟩, line.2⟩

section Lines

open Dialogue (ask_congr)

variable (e : Endpoint) (delay : Option Nat) (target : String) (line : UInt32)
  (rest : List (UInt32 × Bool)) {p : Progress}

theorem replayEvents_foreign :
    replayEvents (stepper e delay) (((line, false) :: rest).map (event target)) p =
      .ask (.mark (.reached ⟨⟨target, line⟩, false⟩)) fun _ =>
        replayEvents (stepper e delay) (rest.map (event target)) p := by
  rw [List.map_cons, replayEvents_cons]
  refine ask_congr ?_
  intro _
  show ((stepper e delay).line ⟨⟨target, line⟩, false⟩ p >>= _) = _
  rw [stepper_foreign]
  rfl

theorem replayEvents_repeated (h : p.lastLine = some line) :
    replayEvents (stepper e delay) (((line, true) :: rest).map (event target)) p =
      .ask (.mark (.reached ⟨⟨target, line⟩, true⟩)) fun _ =>
      .ask (.note ⟨.trace, .progress, "suppressed repeated line",
        [("line", toString line.toNat)]⟩) fun _ =>
        replayEvents (stepper e delay) (rest.map (event target)) p := by
  rw [List.map_cons, replayEvents_cons]
  refine ask_congr ?_
  intro _
  show ((stepper e delay).line ⟨⟨target, line⟩, true⟩ p >>= _) = _
  rw [stepper_repeated e delay ⟨target, line⟩ h]
  rfl

/-- A new line suspends the target, and the later ones come only if it goes on. -/
theorem replayEvents_new (h : p.lastLine ≠ some line) :
    replayEvents (stepper e delay) (((line, true) :: rest).map (event target)) p =
      .ask (.mark (.reached ⟨⟨target, line⟩, true⟩)) fun _ =>
        (e.suspend delay line).run >>= fun
          | .ok () => replayEvents (stepper e delay) (rest.map (event target)) (p.advance line)
          | .error failure => .done (.error failure, p.advance line) := by
  rw [List.map_cons, replayEvents_cons]
  refine ask_congr ?_
  intro _
  show ((stepper e delay).line ⟨⟨target, line⟩, true⟩ p >>= _) = _
  rw [stepper_new e delay ⟨target, line⟩ h, bind_assoc]
  refine bind_congr ?_
  intro result
  cases result <;> rfl

end Lines

/-- How a replayed target stops that came to its last line. -/
def ending : Option String → Except Stop Unit
  | some text => .error (.fault text)
  | none => .ok ()

theorem replay_run {σ : Type} (lines : List (UInt32 × Bool)) (fault : Option String)
    (hooks : Hooks σ) (target : String) (s : σ) :
    (replay lines fault).run hooks target s =
      replayEvents hooks (lines.map (event target)) s >>= fun
        | (.error failure, s) => .done (.error (.aborted failure), s)
        | (.ok (), s) => .done (ending fault, s) := by
  show (_ >>= _) = _
  refine bind_congr ?_
  intro r
  obtain ⟨result, s⟩ := r
  cases result with
  | error failure => rfl
  | ok u => cases fault <;> rfl

theorem replay_resolve_run (lines : List (UInt32 × Bool)) (fault : Option String) (path : String) :
    ((replay lines fault).resolve path).run =
      .ask (.mark (.resolved path (some path))) fun _ => .done (.ok path) := rfl

end Engine

/-! ## Sessions -/

namespace Session

open Dialogue (map_done map_ask ask_bind done_bind ask_congr)

/-- Goes on after an action that succeeded. -/
def onOk {α β : Type} (f : α → Talk (Except SessionError β)) :
    Except SessionError α → Talk (Except SessionError β)
  | .ok a => f a
  | .error failure => .done (.error failure)

theorem introduce_run (e : Endpoint) :
    (introduce e).run = e.greet.run >>= fun
      | .ok () => .done (.ok ())
      | .error failure =>
        .ask (.note ⟨.error, .session, "handshake failed", [("error", failure.message)]⟩) fun _ =>
          .done (.error failure) := by
  unfold introduce
  rw [ExceptT.run_tryCatch]
  refine bind_congr ?_
  intro result
  cases result with
  | ok u => rfl
  | error failure => rfl

/-- The last message, and what follows it. -/
def bidFarewell (e : Endpoint) (breaks : Nat) (fault : Option String) :
    Talk (Except SessionError Report) :=
  .ask (.send .finish) fun d =>
    match d.outcome with
    | .error cause => .done (.error (.io cause))
    | .ok () => e.close.run >>= onOk fun _ =>
      .ask (.note ⟨.info, .session, "session finished", [("breaks", toString breaks)]⟩) fun _ =>
        .done (.ok ⟨breaks, fault⟩)

/-- How a session ends when the target has stopped. -/
def conclude (e : Endpoint) (result : Except Stop Unit × Progress) :
    Talk (Except SessionError Report) :=
  match result with
  | (.ok (), p) => bidFarewell e p.breaks none
  | (.error (.fault text), p) =>
    .ask (.note ⟨.warn, .session, "target stopped with a fault", [("fault", text)]⟩) fun _ =>
      bidFarewell e p.breaks (some text)
  | (.error (.aborted failure), p) =>
    .ask (.note ⟨.error, .session, "session aborted",
      [("error", failure.message), ("line", showLine p.lastLine)]⟩) fun _ => .done (.error failure)

/-- The last message and what follows it, as the session has it. -/
theorem bidFarewell_run (e : Endpoint) (breaks : Nat) (fault : Option String) :
    (do
      finish e
      Controller.note .info .session "session finished" [("breaks", toString breaks)]
      pure ⟨breaks, fault⟩ : Action Report).run = bidFarewell e breaks fault := by
  unfold finish bidFarewell
  simp only [ExceptT.run_bind, Endpoint.send_run, ask_bind, done_bind]
  refine ask_congr ?_
  intro d
  cases d.outcome with
  | error cause => rfl
  | ok u =>
      refine bind_congr ?_
      intro result
      cases result <;> rfl

/-- **A session in one piece:** greeting, target, run, and what becomes of the run. -/
theorem run_run (engine : Engine) (e : Endpoint) (delay : Option Nat) (target : String) :
    (run engine e delay target).run =
      (introduce e).run >>= onOk fun _ => (engine.resolve target).run >>= onOk fun path =>
        .ask (.note ⟨.info, .session, "running target", [("target", path)]⟩) fun _ =>
          engine.run (stepper e delay) path Progress.start >>= conclude e := by
  unfold run
  rw [ExceptT.run_bind]
  refine bind_congr ?_
  intro greeted
  cases greeted with
  | error failure => rfl
  | ok u =>
      show ExceptT.run _ = _
      rw [ExceptT.run_bind]
      refine bind_congr ?_
      intro resolved
      cases resolved with
      | error failure => rfl
      | ok path =>
          show ExceptT.run _ = _
          simp only [ExceptT.run_bind, ExceptT.run_liftM, Controller.note, Controller.ask, map_ask,
            map_done, ask_bind, done_bind, bind_map_left]
          refine ask_congr fun _ => bind_congr ?_
          rintro ⟨stop, p⟩
          -- only an abort ends the session without a farewell
          cases stop with
          | ok u => exact bidFarewell_run e p.breaks none
          | error stop =>
              cases stop with
              | aborted failure => rfl
              | fault text => exact ask_congr fun _ => bidFarewell_run e p.breaks (some text)

end Session

end Lockstep
