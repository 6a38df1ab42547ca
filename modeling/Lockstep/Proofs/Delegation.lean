import Lockstep.Program.World
import Lockstep.Proofs.Transcript

/-!
# What the program passes on

The program does not act as a controller or as a client by itself: it passes on what one of them
asks for, and hands back the reply. So a run of the program that passes on a dialogue is a run of
this dialogue, in surroundings that are the program's as the controller or the client sees them
(`passOn_run`, `passOnClient_run`), and all that is known of the dialogue holds of it.

A client sees its connection and the user. A controller sees more than its endpoint: what it notes
is written to the journal, which is a file of the site where its commands run.
-/

namespace Lockstep

namespace Dialogue

variable {I : Interface} {α β σ : Type}

/-- A joined run goes on where the first part is done, and is left waiting where that is. -/
theorem runWaiting_bind (h : Waiter I σ) (d : Dialogue I α) (f : α → Dialogue I β) (s : σ) :
    (d >>= f).runWaiting h s =
      let first := d.runWaiting h s
      match first.value with
      | none => ⟨none, first.trace, first.state⟩
      | some a =>
        let second := (f a).runWaiting h first.state
        ⟨second.value, first.trace ++ second.trace, second.state⟩ := by
  induction d generalizing s with
  | done a => rfl
  | ask r next ih =>
      rw [ask_bind, runWaiting, runWaiting]
      cases hr : h r s with
      | none => rfl
      | some answer =>
          obtain ⟨reply, s'⟩ := answer
          dsimp only
          rw [ih]
          dsimp only
          cases ((next reply).runWaiting h s').value <;> rfl

end Dialogue

namespace Program

variable {η α : Type}

/-! ## A client -/

/-- The client's surroundings, if it has this connection. -/
def World.aroundClient (w : World η) (source : Source) (sink : Sink) : Client.World :=
  ⟨source, sink, w.input⟩

/-- What a client has made of its surroundings. -/
def World.leaveClient (w : World η) (v : Client.World) : World η :=
  { w with peer := some (v.source, v.sink), input := v.terminal }

/-- An exchange of a client, as one of the program. -/
def Exchange.ofClient (x : Client.Exchange) : Exchange := ⟨.client x.request, x.reply⟩

/-- **Passing on what a client asks for is running it.** -/
theorem passOnClient_run (site : Site η) (d : Client.Talk α) {w : World η} {source : Source}
    {sink : Sink} (hpeer : w.peer = some (source, sink)) :
    let o := d.run Client.World.answer (w.aroundClient source sink)
    (passOnClient d).runWaiting (World.answer site) w =
      ⟨some o.value, o.trace.map Exchange.ofClient, w.leaveClient o.state⟩ := by
  induction d generalizing w source sink with
  | done a =>
      obtain ⟨site, input, output, errors, network, peer, hangUp, filter, journal⟩ := w
      obtain rfl : peer = some (source, sink) := hpeer
      rfl
  | ask r next ih =>
      let v := (Client.World.answer r (w.aroundClient source sink)).2
      have hanswer : World.answer site (.client r) w =
          some ((Client.World.answer r (w.aroundClient source sink)).1, w.leaveClient v) := by
        show some (w.answerClient r) = _
        rw [World.answerClient, hpeer]
        rfl
      have hleft : (w.leaveClient v).peer = some (v.source, v.sink) := rfl
      have hrest := ih (Client.World.answer r (w.aroundClient source sink)).1 hleft
      rw [passOnClient, Dialogue.runWaiting, hanswer, Dialogue.run_ask]
      dsimp only at hrest ⊢
      rw [hrest]
      rfl

theorem sent_ofClient (t : List Client.Exchange) :
    (t.map Exchange.ofClient).flatMap Exchange.sent = Client.sent t := by
  rw [List.flatMap_map]
  rfl

theorem printed_ofClient (t : List Client.Exchange) :
    (t.map Exchange.ofClient).flatMap Exchange.printed =
      (Client.shown t).flatMap fun line => utf8 s!"{line}\n" := by
  rw [List.flatMap_map, Client.shown, List.flatMap_assoc]
  rfl

/-! ## A controller -/

/-- How the program's surroundings answer a controller at an endpoint: what it notes goes to the
journal. -/
def World.serve (site : Site η) (e : Endpoint) : Dialogue.Handler Controller.interface (World η) :=
  fun r w =>
    let v := (Lockstep.World.answer site.toHost r (w.around e)).2
    ((Lockstep.World.answer site.toHost r (w.around e)).1,
      match r with
      | .note record => (w.leave v e).record site record
      | _ => w.leave v e)

/-- An exchange of a controller, as one of the program. -/
def Exchange.ofController (e : Endpoint) (x : Controller.Exchange) : Exchange :=
  ⟨.controller e x.request, x.reply⟩

theorem answer_controller (site : Site η) (e : Endpoint) (r : Controller.Request) (w : World η) :
    World.answer site (.controller e r) w = some (World.serve site e r w) := by
  cases r <;> rfl

/-- **Passing on what a controller asks for is running it.** -/
theorem passOn_run (site : Site η) (e : Endpoint) (d : Lockstep.Talk α) (w : World η) :
    let o := d.run (World.serve site e) w
    (passOn e d).runWaiting (World.answer site) w =
      ⟨some o.value, o.trace.map (Exchange.ofController e), o.state⟩ := by
  induction d generalizing w with
  | done a => rfl
  | ask r next ih =>
      have hrest := ih (World.serve site e r w).1 (World.serve site e r w).2
      rw [passOn, Dialogue.runWaiting, answer_controller, Dialogue.run_ask]
      dsimp only at hrest ⊢
      rw [hrest]
      rfl

/-- What was written to the client of a controller gets to it whole, or its failure is told. -/
theorem serve_fair (site : Site η) (e : Endpoint) (r : Controller.Request) (w : World η) :
    Controller.Exchange.Fair ⟨r, (World.serve site e r w).1⟩ :=
  Controller.answer_fair site.toHost r (w.around e)

end Program

end Lockstep
