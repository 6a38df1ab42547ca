import Lockstep.Program.World
import Lockstep.Proofs.Causality

/-!
# A socket carries the session of a stream

An endpoint with a client enters a session in two places: it says where it is in the opening, and
it is closed at the end. In between, all that matters is whether there is a client. So sessions at
two such endpoints differ in the first line that is sent, and in nothing else, unless closing the
connection fails (`run_plays`). Every part of a session is fragile and so decided by the view of its
surroundings; the parts between the greeting and the farewell are literally the same dialogue.

The opening of a socket names the host and the port at which its client was told to connect. The
address comes from the listener, so what was announced is the first line of the connection.
-/

namespace Lockstep

open Controller
open Source (linesOf)

variable {η α : Type} {host : Host η} {v v' : View η} {e e' : Endpoint}

namespace Controller

/-- What closing the connection ends with is fixed from the start. -/
theorem hangUp_eq (host : Host η) (d : Talk α) (w : World η) :
    (d.run (World.answer host) w).state.hangUp = w.hangUp := by
  induction d generalizing w with
  | done a => rfl
  | ask r next ih =>
      rw [Dialogue.run_ask]
      dsimp only
      rw [ih]
      cases r <;> rfl

theorem Plays.hangUp_eq {d : Talk α} {a : α} {ds : List Deed} (h : Plays host d v a ds v') :
    v'.hangUp = v.hangUp := by
  -- any surroundings that show the view will do
  let w : World η := ⟨v.source, .willing, v.output, v.hangUp, v.host⟩
  obtain ⟨-, -, hshows⟩ := h w ⟨Receiver.willing_obliging, rfl, rfl, rfl, rfl⟩
  exact hshows.hangUp.symm.trans (Controller.hangUp_eq host d w)

end Controller

/-! ## The parts of a session -/

theorem Endpoint.suspend_congr (he : e.hasPeer = true) (he' : e'.hasPeer = true)
    (delay : Option Nat) (line : UInt32) : (e.suspend delay line).run = (e'.suspend delay line).run :=
  (suspend_run he delay line).trans (suspend_run he' delay line).symm

/-- The stepper only has to know that there is a client. -/
theorem stepper_congr (he : e.hasPeer = true) (he' : e'.hasPeer = true) (delay : Option Nat) :
    stepper e delay = stepper e' delay := by
  simp only [stepper, Endpoint.suspend_congr he he']

namespace Session

/-- How a session ends does not depend on the endpoint, if that is closed without a failure. -/
theorem conclude_plays (host : Host η) (result : Except Stop Unit × Progress) (v : View η) :
    ∃ a ds, ∀ e : Endpoint, e.closing v.hangUp = .ok () →
      Plays host (conclude e result) v a ds v := by
  have hfarewell : ∀ breaks fault, ∀ e : Endpoint, e.closing v.hangUp = .ok () →
      Plays host (bidFarewell e breaks fault) v (.ok ⟨breaks, fault⟩)
        [.said Message.finish.bytes] v := by
    intro breaks fault e he
    have hplays := bidFarewell_plays host v (e := e) breaks fault
    rwa [he] at hplays
  obtain ⟨result, p⟩ := result
  cases result with
  | ok u => exact ⟨_, _, hfarewell p.breaks none⟩
  | error stop =>
      cases stop with
      | fault text => exact ⟨_, _, fun e he => .note (hfarewell p.breaks (some text) e he)⟩
      | aborted failure => exact ⟨_, _, fun _ _ => .note (.done _)⟩

/-- A greeted session goes on in the same way at each endpoint with a client. -/
theorem proceed_plays (host : Host η) (subject : Subject) (delay : Option Nat) (target : String)
    (v : View η) :
    ∃ a ds v', ∀ e : Endpoint, e.hasPeer = true → e.closing v.hangUp = .ok () →
      Plays host (proceed subject.engine e delay target) v a ds v' := by
  obtain ⟨found, ds, v₁, hresolve⟩ := (subject.resolve_fragile target).plays host v
  cases found with
  | error failure => exact ⟨_, _, _, fun _ _ _ => hresolve.bind_error⟩
  | ok path =>
      obtain ⟨result, ds', v₂, hrun⟩ :=
        (subject.run_fragile (e := .stream) delay path Progress.start).plays host v₁
      obtain ⟨a, ds'', hconclude⟩ := conclude_plays host result v₂
      refine ⟨a, ds ++ (ds' ++ ds''), v₂, fun e he hclose => ?_⟩
      refine hresolve.bind (.note ?_)
      have hstepper : stepper e delay = stepper .stream delay := stepper_congr he rfl delay
      rw [hstepper]
      refine hrun.bind (hconclude e ?_)
      rwa [hrun.hangUp_eq, hresolve.hangUp_eq]

/-- **Sessions with a client differ in the line that opens them.** -/
theorem run_plays (host : Host η) (subject : Subject) (delay : Option Nat) (target : String)
    (v : View η) :
    ∃ a ds v', ∀ e : Endpoint, e.hasPeer = true → e.closing v.hangUp = .ok () →
      Plays host (run subject.engine e delay target).run v a (.said e.opening.bytes :: ds) v' := by
  cases hgreeting : greetingResult (hear v.next) with
  | error failure =>
      refine ⟨.error failure, [.heard v.next], v.rest, fun e he _ => ?_⟩
      have hintroduce := introduce_plays host v he
      rw [hgreeting] at hintroduce
      rw [run_eq_proceed]
      exact hintroduce.bind_error
  | ok u =>
      obtain ⟨a, ds, v', hproceed⟩ := proceed_plays host subject delay target v.rest
      refine ⟨a, .heard v.next :: ds, v', fun e he hclose => ?_⟩
      have hintroduce := introduce_plays host v he
      rw [hgreeting] at hintroduce
      rw [run_eq_proceed]
      exact hintroduce.bind (hproceed e he hclose)

end Session

/-! ## Accepting a client -/

/-- **A run with fair replies ends so,** if it is not left waiting. -/
theorem Dialogue.Ends.runWaiting {I : Interface} {σ : Type} {fair : Dialogue.Exchange I → Prop}
    {post : α → Dialogue.History I → Prop} {d : Dialogue I α} {t : Dialogue.History I}
    (hd : d.Ends fair post t) {h : Dialogue.Waiter I σ}
    (hfair : ∀ r s reply s', h r s = some (reply, s') → fair ⟨r, reply⟩) (s : σ) {a : α}
    (ha : (d.runWaiting h s).value = some a) : post a (t ++ (d.runWaiting h s).trace) := by
  induction d generalizing t s with
  | done b =>
      obtain rfl := Option.some.inj ha
      rw [Dialogue.runWaiting, List.append_nil]
      exact hd
  | ask r next ih =>
      rw [Dialogue.runWaiting] at ha ⊢
      cases hr : h r s with
      | none =>
          rw [hr] at ha
          exact nomatch ha
      | some answer =>
          obtain ⟨reply, s'⟩ := answer
          rw [hr] at ha
          have hnext := ih reply (hd reply (hfair r s reply s' hr)) s' ha
          rwa [List.append_assoc, List.singleton_append] at hnext

namespace Program

open Dialogue (ask_congr)

/-- What is asked for until a client is there. -/
theorem acceptClient_run (name : String) :
    (acceptClient name).run = .ask (.listen name) fun listening =>
      match (listening : Except SystemError UInt16) with
      | .error cause =>
        .done (.error (.because s!"Failed to listen on '{name}'" (.session (.io cause))))
      | .ok port => .ask (.announce (Endpoint.socket name port).opening) fun delivery =>
        match (delivery : Delivery).outcome with
        | .error cause => .done (.error (.session (.io cause)))
        | .ok () =>
          .ask (.note ⟨.info, .commandLine, "waiting for client",
            [("port", toString port.toNat)]⟩) fun _ =>
          .ask .accept fun accepted =>
            match (accepted : Except SystemError String) with
            | .error cause => .done (.error (.session (.io cause)))
            | .ok client =>
              .ask (.note ⟨.info, .connection, "client connected",
                [("peer", client), ("port", toString port.toNat)]⟩) fun _ =>
              .ask .adopt fun adopted =>
                match (adopted : Except SystemError Unit) with
                | .error cause => .done (.error (.session (.io cause)))
                | .ok () => .done (.ok (.socket name port)) := by
  unfold acceptClient
  simp only [ExceptT.run_bind, ExceptT.run_liftM, ask, Dialogue.map_ask, Dialogue.map_done,
    Dialogue.ask_bind, Dialogue.done_bind]
  refine ask_congr fun listening => ?_
  cases listening with
  | error cause => rfl
  | ok port =>
      refine ask_congr fun delivery => ?_
      show ExceptT.run (match Delivery.outcome delivery with | .error cause => _ | .ok () => _) = _
      cases Delivery.outcome delivery with
      | error cause => rfl
      | ok u =>
          refine ask_congr fun _ => ask_congr fun accepted => ?_
          cases accepted with
          | error cause => rfl
          | ok client =>
              refine ask_congr fun _ => ask_congr fun adopted => ?_
              cases adopted <;> rfl

/-- An announcement gets out whole, or its failure is told. -/
def Exchange.Fair : Exchange → Prop
  | ⟨.announce m, d⟩ => Delivery.Conveys d m.bytes
  | _ => True

theorem answer_fair (site : Site η) (r : Request) (w : World η) {reply : Reply r} {w' : World η}
    (h : World.answer site r w = some (reply, w')) : Exchange.Fair ⟨r, reply⟩ := by
  cases r with
  | announce m =>
      obtain ⟨rfl, -⟩ := Prod.mk.inj (Option.some.inj h)
      exact w.errors.deliver_one_conveys m.bytes
  | _ => trivial

/-- A client that is there was told where, and nobody was told anything else. -/
def Announced (name : String) : Except Failure Endpoint → List Exchange → Prop
  | .ok e, t => ∃ port, (⟨.listen name, .ok port⟩ : Exchange) ∈ t ∧ e = .socket name port ∧
      t.flatMap Exchange.complained = e.opening.bytes
  | .error _, _ => True

/-- **A client is told of the connection that it gets.** -/
theorem acceptClient_ends (name : String) :
    (acceptClient name).run.Ends Exchange.Fair (Announced name) [] := by
  rw [acceptClient_run]
  refine .ask fun listening _ => ?_
  cases listening with
  | error cause => trivial
  | ok port =>
      refine .ask fun delivery hdelivery => ?_
      have hconveys : Delivery.Conveys delivery (Endpoint.socket name port).opening.bytes :=
        hdelivery
      cases houtcome : Delivery.outcome delivery with
      | error cause =>
          dsimp only
          trivial
      | ok u =>
          refine .ask fun _ _ => .ask fun accepted _ => ?_
          cases accepted with
          | error cause => trivial
          | ok client =>
              refine .ask fun _ _ => .ask fun adopted _ => ?_
              cases adopted with
              | error cause => trivial
              | ok u =>
                  refine ⟨port, by simp, rfl, ?_⟩
                  exact (List.append_nil _).trans (hconveys.whole houtcome)

end Program

/-! ## The law -/

namespace Session

/-- The pieces in which the input arrives do not matter. -/
theorem alike_of_sources (host : Host η) (subject : Subject) (e : Endpoint) (delay : Option Nat)
    (target : String) {w : World η} {s : Source} {input : Bytes} (hw : w.source.Brings input)
    (hs : s.Brings input) :
    Alike (outcome host subject.engine e delay target w)
      (outcome host subject.engine e delay target { w with source := s }) := by
  have hs' : s.Brings (input ++ []) := by
    rw [List.append_nil]
    exact hs
  cases run_prolonged host (run subject.engine e delay target).run hw hs' with
  | same hvalue htrace => exact ⟨hvalue, congrArg sent htrace, congrArg executed htrace⟩
  | cut _ _ _ _ hmore _ _ _ => exact absurd rfl hmore

/--
**A socket carries the session of a stream.** The two sessions get the same input, and write to
sinks that never fail; closing the connection succeeds, or finds that the client has hung up. They
come to the same, have run the same commands, and have sent the same, but for the line that opens
them. If the socket is the one at which a client was accepted, then this line is what was announced.
-/
theorem socket_session (host : Host η) (subject : Subject) (delay : Option Nat) (target : String)
    (name : String) (port : UInt16) {w : World η} {s : Source} {sink : Sink} {input : Bytes}
    (hsink : w.sink.receiver.Obliging) (hsink' : sink.receiver.Obliging)
    (hinput : w.source.Brings input) (hinput' : s.Brings input)
    (hclose : w.hangUp = .ok () ∨ w.hangUp = .error .notConnected) :
    let o := outcome host subject.engine .stream delay target w
    let w' : World η := { w with source := s, sink := sink }
    let session (e : Endpoint) := outcome host subject.engine e delay target w'
    (session (.socket name port)).value = o.value ∧
      executed (session (.socket name port)).trace = executed o.trace ∧
      (∃ tail, sent o.trace = (Message.serverInit none none).bytes ++ tail ∧
        sent (session (.socket name port)).trace =
          (Message.serverInit (some name) (some port)).bytes ++ tail) ∧
      ∀ {ζ : Type} (site : Program.Site ζ) (around : Program.World ζ) (e : Endpoint),
        let a := (Program.acceptClient name).run.runWaiting (Program.World.answer site) around
        a.value = some (.ok e) →
          ∃ port', (⟨.listen name, .ok port'⟩ : Program.Exchange) ∈ a.trace ∧
            e = .socket name port' ∧
            (linesOf (sent (session e).trace)).head? =
              some (a.trace.flatMap Program.Exchange.complained) := by
  intro o w' session
  have hclosing : ∀ e : Endpoint, e.closing w.hangUp = .ok () := by
    intro e
    cases e with
    | stream => rfl
    | loopback => rfl
    | socket name port => rcases hclose with h | h <;> rw [h] <;> rfl
  obtain ⟨a, ds, v', hplays⟩ := run_plays host subject delay target (.ofWorld w)
  have hshows := View.shows_ofWorld hsink
  -- what is known of a session at any endpoint, in either surroundings
  have hsession_at : ∀ e : Endpoint, e.hasPeer = true → (session e).value = a ∧
      sent (session e).trace = e.opening.bytes ++ ds.flatMap Deed.bytes ∧
      executed (session e).trace = executed o.trace := by
    intro e he
    have halike : Alike (outcome host subject.engine e delay target w) (session e) :=
      (alike_of_sources host subject e delay target hinput hinput').trans
        (alike_of_sinks host subject e delay target hsink hsink')
    have hsession := hplays e he (hclosing e)
    refine ⟨?_, ?_, ?_⟩
    · exact halike.value.symm.trans (hsession.value hshows)
    · exact halike.sent.symm.trans (hsession.sent hshows)
    · refine halike.executed.symm.trans ((hsession.executed hshows).trans ?_)
      exact ((hplays .stream rfl rfl).executed hshows).symm
  obtain ⟨hvalue, hsent, hexecuted⟩ := hsession_at (.socket name port) rfl
  have hstream := hplays .stream rfl rfl
  refine ⟨hvalue.trans (hstream.value hshows).symm, hexecuted, ?_, ?_⟩
  · exact ⟨ds.flatMap Deed.bytes, hstream.sent hshows, hsent⟩
  · intro ζ site around e accepted haccepted
    obtain ⟨port', hlisten, rfl, hannounced⟩ := (Program.acceptClient_ends name).runWaiting
      (fun r w _ _ h => Program.answer_fair site r w h) around haccepted
    refine ⟨port', hlisten, rfl, ?_⟩
    rw [(hsession_at (.socket name port') rfl).2.1,
      Source.linesOf_of_cutLine (Message.cutLine_bytes _ _)]
    exact congrArg some hannounced.symm

/-- A client that was told where to connect, and has hung up when the connection is closed. -/
theorem socket_session_hung_up :
    let host : Host Unit :=
      ⟨fun _ => .ok, fun _ _ => .ok [], fun _ _ => (.ok ⟨[], [], .exited 0⟩, ())⟩
    let site : Program.Site Unit :=
      ⟨host, fun _ _ => false, fun _ _ _ => .ok (), fun _ _ _ => .ok ()⟩
    let engine := (Subject.replay .ok [(3, true)] none).engine
    let input := [Message.clientInit, .resume].flatMap Message.bytes
    let pieces : Source :=
      [.bytes Message.clientInit.bytes, .interrupted, .bytes Message.resume.bytes]
    let w : World Unit := ⟨.ofBytes input, .willing, .willing, .error .notConnected, ()⟩
    let around : Program.World Unit :=
      ⟨(), [], .willing, .willing, ⟨fun _ => .ok 4711, some (.ok "127.0.0.1:40000"), .ok (), fun _ _ => .ok ()⟩,
        some (pieces, .willing), .error .notConnected, none, none⟩
    let a := (Program.acceptClient "localhost").run.runWaiting (Program.World.answer site) around
    let o := outcome host engine (.socket "localhost" 4711) none "t" { w with source := pieces }
    a.value = some (.ok (.socket "localhost" 4711)) ∧ o.value = .ok ⟨1, none⟩ ∧
      (linesOf (sent o.trace)).head? = some (a.trace.flatMap Program.Exchange.complained) := by
  intro host site engine input pieces w around a o
  have haccepted : a.value = some (.ok (.socket "localhost" 4711)) := by decide +kernel
  have hstream : (outcome host engine .stream none "t" w).value = .ok ⟨1, none⟩ := by decide +kernel
  have hsink : Sink.willing.receiver.Obliging := Receiver.willing_obliging
  obtain ⟨hvalue, -, -, hfirst⟩ := socket_session host (.replay .ok [(3, true)] none) none "t"
    "localhost" 4711 (w := w) hsink hsink (Source.brings_ofBytes input)
    (.bytes _ (.interrupted (.bytes _ .done))) (.inr rfl)
  obtain ⟨-, -, -, hline⟩ := hfirst site around _ haccepted
  exact ⟨haccepted, hvalue.trans hstream, hline⟩

end Session

end Lockstep
