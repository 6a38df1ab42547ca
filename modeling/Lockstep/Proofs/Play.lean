import Lockstep.Controller.World
import Lockstep.Proofs.Delivery
import Lockstep.Proofs.Framing
import Lockstep.Proofs.Gate
import Lockstep.Proofs.MessageText
import Lockstep.Proofs.Shape

/-!
# Runs whose writes succeed

Where nothing fails to be written, all that the surroundings have to do with a run is what arrives
from the client, how the host answers, and where the output goes. A `View` keeps just this. It
forgets in which pieces the client takes its bytes, so one view stands for many surroundings, and
`Plays` says what a dialogue does in all of them: what it gives, what it does that can be observed
outside, and which view is left.

The rules follow the tree of requests: a request and what comes after it, one dialogue after
another, an action that fails.
-/

namespace Lockstep

variable {η : Type}

/-- What a run has to do with its surroundings, where no write fails. -/
structure View (η : Type) where
  /-- What the controller has not read yet. -/
  source : Source
  host : η
  output : Sink
  hangUp : Except SystemError Unit

/-- Surroundings that have this view. -/
structure World.Shows (w : World η) (v : View η) : Prop where
  sink : w.sink.receiver.Obliging
  source : w.source = v.source
  host : w.host = v.host
  output : w.output = v.output
  hangUp : w.hangUp = v.hangUp

/-- Such surroundings get all that is delivered to the client, and show the same view after it. -/
theorem World.Shows.deliver {w : World η} {v : View η} (hw : w.Shows v) (buffers : List Bytes) :
    (w.sink.deliver buffers).1.outcome = .ok () ∧
      (w.sink.deliver buffers).1.accepted.flatten = buffers.flatten ∧
      { w with sink := (w.sink.deliver buffers).2 }.Shows v := by
  obtain ⟨houtcome, haccepted, hreceiver⟩ := Sink.deliver_obliging hw.sink buffers
  refine ⟨houtcome, haccepted, { hw with sink := ?_ }⟩
  rw [hreceiver]
  exact hw.sink

theorem World.answer_send (host : Host η) (w : World η) (m : Message) :
    World.answer host (.send m) w =
      ((w.sink.deliver [m.bytes]).1, { w with sink := (w.sink.deliver [m.bytes]).2 }) := rfl

theorem World.answer_flush (host : Host η) (w : World η) :
    World.answer host .flush w =
      ((w.sink.deliver []).1, { w with sink := (w.sink.deliver []).2 }) := rfl

namespace View

/-- The view of some surroundings. -/
def ofWorld (w : World η) : View η := ⟨w.source, w.host, w.output, w.hangUp⟩

/-- What the next wait for a line is answered with. -/
def next (v : View η) : Except SystemError Bytes := v.source.readLine.1

/-- The view when this line has been read. -/
def rest (v : View η) : View η := { v with source := v.source.readLine.2 }

theorem shows_ofWorld {w : World η} (h : w.sink.receiver.Obliging) : w.Shows (ofWorld w) :=
  ⟨h, rfl, rfl, rfl, rfl⟩

end View

namespace Controller

/-- What is observed of a run outside the controller. -/
inductive Deed where
  /-- The client was sent some bytes. -/
  | said (bytes : Bytes)
  /-- A line of the client was waited for. -/
  | heard (reply : Except SystemError Bytes)
  | invoked (invocation : Invocation)
  | printed (bytes : Bytes)

/-- The bytes that the client was sent. -/
def Deed.bytes : Deed → Bytes
  | .said bytes => bytes
  | _ => []

/-- The command that was run. -/
def Deed.invocation? : Deed → Option Invocation
  | .invoked invocation => some invocation
  | _ => none

/-- What is observed of a request and its reply. A flush that sends nothing is not observed. -/
def Exchange.deeds : Exchange → List Deed
  | ⟨.send _, delivery⟩ => [.said delivery.accepted.flatten]
  | ⟨.flush, delivery⟩ =>
    if delivery.accepted.flatten = [] then [] else [.said delivery.accepted.flatten]
  | ⟨.receive, reply⟩ => [.heard reply]
  | ⟨.invoke invocation, _⟩ => [.invoked invocation]
  | ⟨.relay _ _, delivery⟩ => [.printed delivery.accepted.flatten]
  | _ => []

/-- What is observed of a run. -/
def deeds (trace : List Exchange) : List Deed := trace.flatMap Exchange.deeds

/-- The bytes that were sent are those of the deeds. -/
theorem sent_eq_deeds (trace : List Exchange) : sent trace = (deeds trace).flatMap Deed.bytes := by
  induction trace with
  | nil => rfl
  | cons x rest ih =>
      -- only messages and flushes send anything, and only a flush may send nothing
      have hx : x.sent = x.deeds.flatMap Deed.bytes := by
        obtain ⟨r, reply⟩ := x
        cases r with
        | send m => simp [Exchange.sent, Exchange.deeds, Deed.bytes]
        | flush =>
            simp only [Exchange.sent, Exchange.deeds]
            split
            · rename_i h; rw [h]; rfl
            · simp [Deed.bytes]
        | _ => simp [Exchange.sent, Exchange.deeds, Deed.bytes]
      rw [sent] at ih
      rw [sent, deeds, List.flatMap_cons, List.flatMap_cons, List.flatMap_append, ih, hx]
      rfl

/-- The commands that were run are those of the deeds. -/
theorem executed_eq_deeds (trace : List Exchange) :
    (executed trace).map Prod.fst = (deeds trace).filterMap Deed.invocation? := by
  induction trace with
  | nil => rfl
  | cons x rest ih =>
      rw [executed] at ih
      rw [executed, deeds, List.flatMap_cons, List.filterMap_append]
      refine Eq.trans ?_ (congrArg (x.deeds.filterMap Deed.invocation? ++ ·) ih)
      -- only running a command is observed as such
      obtain ⟨r, reply⟩ := x
      cases r with
      | flush =>
          rw [Exchange.deeds]
          split <;> rfl
      | _ => rfl

/-- In all surroundings that show `v`, the dialogue gives `a` and does `ds`, and leaves some that
show `v'`. -/
def Plays {α : Type} (host : Host η) (d : Talk α) (v : View η) (a : α) (ds : List Deed)
    (v' : View η) : Prop :=
  ∀ w : World η, w.Shows v →
    (d.run (World.answer host) w).value = a ∧
      deeds (d.run (World.answer host) w).trace = ds ∧
      (d.run (World.answer host) w).state.Shows v'

namespace Plays

variable {α β : Type} {host : Host η} {v v' v'' : View η}

theorem done (a : α) : Plays host (.done a) v a [] v := fun _ h => ⟨rfl, rfl, h⟩

/-- A request that is answered the same way wherever `v` is shown. -/
theorem ask {r : Request} (reply : Reply r) {next : Reply r → Talk α} {a : α}
    {ds es : List Deed} (hr : ∀ w : World η, w.Shows v → (World.answer host r w).1 = reply ∧
      (World.answer host r w).2.Shows v')
    (hds : Exchange.deeds ⟨r, reply⟩ = ds) (hnext : Plays host (next reply) v' a es v'') :
    Plays host (.ask r next) v a (ds ++ es) v'' := by
  intro w hw
  obtain ⟨h1, h2⟩ := hr w hw
  obtain ⟨h3, h4, h5⟩ := hnext _ h2
  rw [Dialogue.run_ask, h1]
  refine ⟨h3, ?_, h5⟩
  rw [deeds, List.flatMap_cons, hds]
  exact congrArg _ h4

/-- One dialogue after another. -/
theorem bind {d : Talk α} {f : α → Talk β} {a : α} {b : β} {ds es : List Deed}
    (hd : Plays host d v a ds v') (hf : Plays host (f a) v' b es v'') :
    Plays host (d >>= f) v b (ds ++ es) v'' := by
  intro w hw
  obtain ⟨h1, h2, h3⟩ := hd w hw
  obtain ⟨h4, h5, h6⟩ := hf _ h3
  rw [Dialogue.run_bind]
  dsimp only
  rw [h1]
  refine ⟨h4, ?_, h6⟩
  rw [← h2, ← h5]
  exact List.flatMap_append

/-- One dialogue, and another that is not observed. -/
theorem bind_quiet {d : Talk α} {f : α → Talk β} {a : α} {b : β} {ds : List Deed}
    (hd : Plays host d v a ds v') (hf : Plays host (f a) v' b [] v'') :
    Plays host (d >>= f) v b ds v'' := by
  have h := hd.bind hf
  rwa [List.append_nil] at h

/-- A request that is always answered in the same way and changes nothing is not observed. -/
theorem silent {r : Request} {reply : Reply r} {next : Reply r → Talk α} {a : α} {ds : List Deed}
    (hr : ∀ w : World η, World.answer host r w = (reply, w)) (hds : Exchange.deeds ⟨r, reply⟩ = [])
    (h : Plays host (next reply) v a ds v') : Plays host (.ask r next) v a ds v' := by
  refine ask reply ?_ hds h
  intro w hw
  rw [hr]
  exact ⟨rfl, hw⟩

theorem note {record : Journal.Record} {next : Unit → Talk α} {a : α} {ds : List Deed}
    (h : Plays host (next ()) v a ds v') : Plays host (.ask (.note record) next) v a ds v' :=
  silent (fun _ => rfl) rfl h

theorem mark {m : Mark} {next : Unit → Talk α} {a : α} {ds : List Deed}
    (h : Plays host (next ()) v a ds v') : Plays host (.ask (.mark m) next) v a ds v' :=
  silent (fun _ => rfl) rfl h

theorem pause {milliseconds : Nat} {next : Unit → Talk α} {a : α} {ds : List Deed}
    (h : Plays host (next ()) v a ds v') :
    Plays host (.ask (.pause milliseconds) next) v a ds v' :=
  silent (fun _ => rfl) rfl h

/-- A message is said as its line, in whatever pieces the receiver takes it. -/
theorem send {m : Message} {next : Delivery → Talk α} {a : α} {ds : List Deed}
    (h : ∀ d : Delivery, d.outcome = .ok () → Plays host (next d) v a ds v') :
    Plays host (.ask (.send m) next) v a (.said m.bytes :: ds) v' := by
  intro w hw
  obtain ⟨houtcome, haccepted, hshows⟩ := hw.deliver [m.bytes]
  obtain ⟨h1, h2, h3⟩ := h _ houtcome _ hshows
  refine ⟨h1, ?_, h3⟩
  rw [Dialogue.run_ask, World.answer_send, deeds, List.flatMap_cons, Exchange.deeds, haccepted,
    List.flatten_singleton]
  exact congrArg _ h2

theorem flush {next : Delivery → Talk α} {a : α} {ds : List Deed}
    (h : ∀ d : Delivery, d.outcome = .ok () → Plays host (next d) v a ds v') :
    Plays host (.ask .flush next) v a ds v' := by
  intro w hw
  obtain ⟨houtcome, haccepted, hshows⟩ := hw.deliver []
  obtain ⟨h1, h2, h3⟩ := h _ houtcome _ hshows
  refine ⟨h1, ?_, h3⟩
  -- nothing is kept back, so the flush sends nothing and is not observed
  rw [Dialogue.run_ask, World.answer_flush, deeds, List.flatMap_cons, Exchange.deeds, haccepted,
    if_pos List.flatten_nil]
  exact h2

theorem receive {next : Except SystemError Bytes → Talk α} {a : α} {ds : List Deed}
    (h : Plays host (next v.next) v.rest a ds v') :
    Plays host (.ask .receive next) v a (.heard v.next :: ds) v' := by
  refine ask (r := .receive) v.next ?_ rfl h
  intro w hw
  rw [View.next, View.rest, ← hw.source]
  exact ⟨rfl, { hw with source := rfl }⟩

theorem hangUp {next : Except SystemError Unit → Talk α} {a : α} {ds : List Deed}
    (h : Plays host (next v.hangUp) v a ds v') : Plays host (.ask .hangUp next) v a ds v' := by
  refine ask (r := .hangUp) v.hangUp ?_ rfl h
  intro w hw
  exact ⟨hw.hangUp, hw⟩

/-- What the host answers depends on nothing but its state. -/
theorem resolve {path : String} {next : Except SystemError String → Talk α} {a : α}
    {ds : List Deed} (h : Plays host (next (host.resolve v.host path)) v a ds v') :
    Plays host (.ask (.resolve path) next) v a ds v' := by
  refine ask (r := .resolve path) (host.resolve v.host path) ?_ rfl h
  intro w hw
  rw [← hw.host]
  exact ⟨rfl, hw⟩

theorem load {path : String} {next : Except SystemError (List Char) → Talk α} {a : α}
    {ds : List Deed} (h : Plays host (next (host.load v.host path)) v a ds v') :
    Plays host (.ask (.load path) next) v a ds v' := by
  refine ask (r := .load path) (host.load v.host path) ?_ rfl h
  intro w hw
  rw [← hw.host]
  exact ⟨rfl, hw⟩

theorem invoke {i : Invocation} {next : Except SystemError Completion → Talk α} {a : α}
    {ds : List Deed} (h : Plays host (next (host.invoke v.host i).1)
      { v with host := (host.invoke v.host i).2 } a ds v') :
    Plays host (.ask (.invoke i) next) v a (.invoked i :: ds) v' := by
  refine ask (r := .invoke i) (host.invoke v.host i).1 ?_ rfl h
  intro w hw
  rw [← hw.host]
  exact ⟨rfl, { hw with host := rfl }⟩

theorem relay {out err : Bytes} {next : Delivery → Talk α} {a : α} {ds : List Deed}
    (h : Plays host (next (v.output.deliver [out, err]).1)
      { v with output := (v.output.deliver [out, err]).2 } a ds v') :
    Plays host (.ask (.relay out err) next) v a
      (.printed (v.output.deliver [out, err]).1.accepted.flatten :: ds) v' := by
  refine ask (r := .relay out err) (v.output.deliver [out, err]).1 ?_ rfl h
  intro w hw
  rw [← hw.output]
  exact ⟨rfl, { hw with output := rfl }⟩

theorem value {d : Talk α} {a : α} {ds : List Deed} (h : Plays host d v a ds v') {w : World η}
    (hw : w.Shows v) : (d.run (World.answer host) w).value = a := (h w hw).1

/-- What was sent is read off what was done. -/
theorem sent {d : Talk α} {a : α} {ds : List Deed} (h : Plays host d v a ds v') {w : World η}
    (hw : w.Shows v) : sent (d.run (World.answer host) w).trace = ds.flatMap Deed.bytes := by
  rw [sent_eq_deeds, (h w hw).2.1]

/-- An action that fails ends everything after it. -/
theorem bind_error {d : Talk (Except SessionError α)} {f : α → Talk (Except SessionError β)}
    {failure : SessionError} {ds : List Deed} (h : Plays host d v (.error failure) ds v') :
    Plays host (d >>= Session.onOk f) v (.error failure) ds v' := h.bind_quiet (.done _)

end Plays

end Controller

end Lockstep
