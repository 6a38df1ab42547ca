import Lockstep.Proofs.ClientShape
import Lockstep.Proofs.Link
import Lockstep.Proofs.Reply
import Lockstep.Proofs.Stops

/-!
# Controller and client agree

A controller at a socket and a client that greets and goes on to the end are joined by two channels
on which writing does not fail. They take turns: each message of one is awaited by the other, and
the sender waits for what comes back, so the rules of `Link.lean` follow both programs from their
starts to their ends. The one thing that has to be found is what links them in the middle: the
stops that the controller still has before it are the lines that the client is still to collect.
-/

namespace Lockstep

open Dialogue (ask_bind)

/-! ## How the two are answered -/

/-- How a controller is answered at a connection on which writing does not fail. -/
inductive Controller.Conducts : Conduct Controller.interface
  | send {m : Message} {d : Delivery} :
      d.outcome = .ok () → d.accepted.flatten = m.bytes → Conducts (.send m) d (.write m.bytes)
  | receive (reply : Except SystemError Bytes) : Conducts .receive reply (.read reply)
  | flush {d : Delivery} :
      d.outcome = .ok () → d.accepted.flatten = [] → Conducts .flush d (.write [])
  /-- The client may have closed the connection before. -/
  | hangUp {reply : Except SystemError Unit} :
      reply = .ok () ∨ reply = .error .notConnected → Conducts .hangUp reply .hangUp
  | resolve (path : String) (reply : Except SystemError String) :
      Conducts (.resolve path) reply (.write [])
  | load (path : String) (reply : Except SystemError (List Char)) :
      Conducts (.load path) reply (.write [])
  | invoke (i : Invocation) (reply : Except SystemError Completion) :
      Conducts (.invoke i) reply (.write [])
  | relay (out err : Bytes) (d : Delivery) : Conducts (.relay out err) d (.write [])
  | pause (milliseconds : Nat) : Conducts (.pause milliseconds) () (.write [])
  | mark (m : Mark) : Conducts (.mark m) () (.write [])
  | note (record : Journal.Record) : Conducts (.note record) () (.write [])

/-- How a client is answered there. -/
inductive Client.Conducts : Conduct Client.interface
  | send {m : Message} {d : Delivery} :
      d.outcome = .ok () → d.accepted.flatten = m.bytes → Conducts (.send m) d (.write m.bytes)
  | receive (reply : Except SystemError Bytes) : Conducts .receive reply (.read reply)
  | print (line : String) : Conducts (.print line) () (.write [])
  | prompt (reply : Except SystemError Bytes) : Conducts .prompt reply (.write [])

namespace Controller

theorem Conducts.of_send {m : Message} {d : Delivery} {act : Act}
    (h : Conducts (.send m) d act) :
    (∃ accepted, d = ⟨accepted, .ok ()⟩) ∧ act = .write m.bytes := by
  obtain ⟨accepted, outcome⟩ := d
  cases h with
  | send hd _ =>
      cases hd
      exact ⟨⟨accepted, rfl⟩, rfl⟩

theorem writes_send (m : Message) : Writes Conducts (.send m) m.bytes where
  some := ⟨⟨[m.bytes], .ok ()⟩, .send rfl List.flatten_singleton⟩
  only := fun _ _ h => h.of_send.2

theorem Conducts.of_flush {d : Delivery} {act : Act} (h : Conducts .flush d act) :
    (∃ accepted, d = ⟨accepted, .ok ()⟩) ∧ act = .write [] := by
  obtain ⟨accepted, outcome⟩ := d
  cases h with
  | flush hd _ =>
      cases hd
      exact ⟨⟨accepted, rfl⟩, rfl⟩

theorem Conducts.of_hangUp {reply : Except SystemError Unit} {act : Act}
    (h : Conducts .hangUp reply act) : Endpoint.hangUpResult reply = .ok () ∧ act = .hangUp := by
  cases h with
  | hangUp hreply =>
      rcases hreply with rfl | rfl
      · exact ⟨rfl, rfl⟩
      · exact ⟨rfl, rfl⟩

theorem writes_note (record : Journal.Record) : Writes Conducts (.note record) [] where
  some := ⟨(), .note record⟩
  only := by rintro _ _ ⟨⟩; rfl

theorem writes_mark (m : Mark) : Writes Conducts (.mark m) [] where
  some := ⟨(), .mark m⟩
  only := by rintro _ _ ⟨⟩; rfl

theorem writes_pause (milliseconds : Nat) : Writes Conducts (.pause milliseconds) [] where
  some := ⟨(), .pause milliseconds⟩
  only := by rintro _ _ ⟨⟩; rfl

theorem reads_receive : Reads Conducts .receive where
  some := fun line => ⟨line, .receive line⟩
  only := by rintro _ _ ⟨⟩; exact ⟨_, rfl⟩

end Controller

namespace Client

theorem Conducts.of_send {m : Message} {d : Delivery} {act : Act}
    (h : Conducts (.send m) d act) :
    (∃ accepted, d = ⟨accepted, .ok ()⟩) ∧ act = .write m.bytes := by
  obtain ⟨accepted, outcome⟩ := d
  cases h with
  | send hd _ =>
      cases hd
      exact ⟨⟨accepted, rfl⟩, rfl⟩

theorem writes_send (m : Message) : Writes Conducts (.send m) m.bytes where
  some := ⟨⟨[m.bytes], .ok ()⟩, .send rfl List.flatten_singleton⟩
  only := fun _ _ h => h.of_send.2

theorem reads_receive : Reads Conducts .receive where
  some := fun line => ⟨line, .receive line⟩
  only := by rintro _ _ ⟨⟩; exact ⟨_, rfl⟩

end Client

/-! ## Turns -/

/-- The two are safe together whenever nothing is between them. -/
abbrev Together {α β : Type} (agree : α → β → Prop) (controller : Talk α)
    (client : Client.Talk β) : Prop :=
  Rests Controller.Conducts Client.Conducts agree controller client

section Turns

variable {α β : Type} {agree : α → β → Prop}

/-- The controller sends a message and waits, and the client gets the message. -/
theorem Together.send {m : Message} {next : Delivery → Talk α}
    {answer : Except SystemError Bytes → Client.Talk β}
    (hw : ∀ accepted, Waits Controller.Conducts (next ⟨accepted, .ok ()⟩))
    (h : ∀ accepted, Together agree (next ⟨accepted, .ok ()⟩) (answer (.ok m.bytes))) :
    Together agree (.ask (.send m) next) (.ask .receive answer) := by
  have hwrites := Controller.writes_send m
  rw [Message.bytes_eq] at hwrites
  refine Rests.tell m.lineFeed_not_mem_body hwrites Client.reads_receive ?_ ?_
  · intro d hd
    obtain ⟨⟨accepted, rfl⟩, -⟩ := hd.of_send
    exact hw accepted
  · intro d told hd htold
    obtain ⟨⟨accepted, rfl⟩, -⟩ := hd.of_send
    cases htold
    rw [← Message.bytes_eq]
    exact h accepted

/-- The client sends a message and waits, and the controller gets the message. -/
theorem Together.answer {m : Message} {next : Except SystemError Bytes → Talk α}
    {answer : Delivery → Client.Talk β}
    (hw : ∀ accepted, Waits Client.Conducts (answer ⟨accepted, .ok ()⟩))
    (h : ∀ accepted, Together agree (next (.ok m.bytes)) (answer ⟨accepted, .ok ()⟩)) :
    Together agree (.ask .receive next) (.ask (.send m) answer) := by
  have hwrites := Client.writes_send m
  rw [Message.bytes_eq] at hwrites
  refine Rests.swap (Rests.tell m.lineFeed_not_mem_body hwrites Controller.reads_receive ?_ ?_)
  · intro d hd
    obtain ⟨⟨accepted, rfl⟩, -⟩ := hd.of_send
    exact hw accepted
  · intro d told hd htold
    obtain ⟨⟨accepted, rfl⟩, -⟩ := hd.of_send
    cases htold
    rw [← Message.bytes_eq]
    exact (h accepted).swap

theorem Together.note {record : Journal.Record} {next : Unit → Talk α} {client : Client.Talk β}
    (hw : Waits Client.Conducts client) (h : Together agree (next ()) client) :
    Together agree (.ask (.note record) next) client :=
  Rests.quiet (Controller.writes_note record) hw fun _ _ => h

theorem Together.mark {m : Mark} {next : Unit → Talk α} {client : Client.Talk β}
    (hw : Waits Client.Conducts client) (h : Together agree (next ()) client) :
    Together agree (.ask (.mark m) next) client :=
  Rests.quiet (Controller.writes_mark m) hw fun _ _ => h

theorem Together.pause {milliseconds : Nat} {next : Unit → Talk α} {client : Client.Talk β}
    (hw : Waits Client.Conducts client) (h : Together agree (next ()) client) :
    Together agree (.ask (.pause milliseconds) next) client :=
  Rests.quiet (Controller.writes_pause milliseconds) hw fun _ _ => h

/-- A client with a bound left waits. -/
theorem Client.waits_runToFinish {bound : Nat} (h : 0 < bound)
    (k : Except ClientError Journey → Client.Talk β) :
    Waits Conducts ((runToFinish bound).run >>= k) := by
  obtain ⟨bound, rfl⟩ : ∃ b, bound = b + 1 := ⟨bound - 1, by omega⟩
  rw [runToFinish_run, ask_bind]
  exact ⟨_, _, rfl, reads_receive⟩

theorem Client.waits_last {bound : Nat} (h : 0 < bound) :
    Waits Conducts (runToFinish bound).run := by
  have hw := waits_runToFinish h .done
  rwa [Dialogue.bind_done] at hw

theorem Together.rest {delay : Option Nat} {line : UInt32}
    {k : Except SessionError Unit → Talk α} {client : Client.Talk β}
    (hw : Waits Client.Conducts client) (h : Together agree (k (.ok ())) client) :
    Together agree (Endpoint.rest delay line >>= k) client := by
  cases delay with
  | none => exact .note hw h
  | some milliseconds => exact .pause hw (.note hw h)

/-- **A break and its answer:** the controller goes on, and the client has one more line. -/
theorem Together.suspend {e : Endpoint} (he : e.hasPeer = true) (delay : Option Nat)
    (line : UInt32) {bound : Nat} (hbound : 0 < bound) {k : Except SessionError Unit → Talk α}
    {g : Except ClientError Client.Journey → Client.Talk β}
    (h : Together agree (k (.ok ()))
      ((Client.runToFinish bound).run >>= fun r => Client.arrive line r >>= g)) :
    Together agree ((e.suspend delay line).run >>= k)
      ((Client.runToFinish (bound + 1)).run >>= g) := by
  have hw := Client.waits_runToFinish hbound fun r => Client.arrive line r >>= g
  rw [Endpoint.suspend_run he]
  refine .note (Client.waits_runToFinish (Nat.succ_pos bound) g) ?_
  rw [Client.runToFinish_run, ask_bind]
  refine .send (fun _ => ⟨_, _, rfl, Controller.reads_receive⟩) ?_
  intro _
  rw [Client.hearing_bytes]
  refine .answer ?_ ?_
  · intro _
    show Waits _ ((Client.runToFinish bound).run >>= Client.arrive line >>= g)
    rw [bind_assoc]
    exact hw
  · intro _
    dsimp only
    rw [hear_bytes]
    show Together agree (Endpoint.rest delay line >>= k)
      ((Client.runToFinish bound).run >>= Client.arrive line >>= g)
    rw [bind_assoc]
    exact .rest hw h

end Turns

/-! ## From start to end -/

/-- A client that greets and then goes on to the end, or until it has waited `bound` times. -/
def Client.visit (bound : Nat) : Client.Action Client.Journey := do
  Client.greet
  Client.runToFinish bound

/-- What two results have to meet: each of them tells of the same stops. -/
def Agree (row : List UInt32) (fault : Option String) (report : Except SessionError Report)
    (journey : Except ClientError Client.Journey) : Prop :=
  report = .ok ⟨row.length, fault⟩ ∧ journey = .ok ⟨row, true⟩

section Replay

variable {e : Endpoint} (he : e.hasPeer = true) (delay : Option Nat) (target : String)
include he

/--
**The stops before the controller are the lines before the client.** Where `k` is what the
controller does after its last line, and `g` what the client does with the lines it collects, it is
enough that they are safe together when no stop is left.
-/
theorem Together.replayEvents {α β : Type} {agree : α → β → Prop}
    {k : Except SessionError Unit × Progress → Talk α} (lines : List (UInt32 × Bool))
    (p : Progress) {bound : Nat} (hbound : (stopsFrom p.lastLine lines).length < bound)
    {g : Except ClientError Client.Journey → Client.Talk β}
    (h : ∀ p' bound' g', p'.breaks = p.breaks + (stopsFrom p.lastLine lines).length → 0 < bound' →
      g' (.ok ⟨[], true⟩) = g (.ok ⟨stopsFrom p.lastLine lines, true⟩) →
      Together agree (k (.ok (), p')) ((Client.runToFinish bound').run >>= g')) :
    Together agree
      (Engine.replayEvents (stepper e delay) (lines.map (Engine.event target)) p >>= k)
      ((Client.runToFinish bound).run >>= g) := by
  induction lines generalizing p bound g with
  | nil => exact h p bound g rfl hbound rfl
  | cons event rest ih =>
      obtain ⟨line, inTarget⟩ := event
      -- until the next stop the client waits, and the controller is on its own
      have hw := Client.waits_runToFinish (Nat.zero_lt_of_lt hbound) g
      cases inTarget with
      | false =>
          rw [stopsFrom_cons_foreign] at h hbound
          rw [Engine.replayEvents_foreign]
          exact .mark hw (ih p hbound h)
      | true =>
          by_cases hnew : p.lastLine = some line
          · rw [hnew, stopsFrom_cons_repeated, ← hnew] at h hbound
            rw [Engine.replayEvents_repeated e delay target line rest hnew]
            exact .mark hw (.note hw (ih p hbound h))
          · rw [stopsFrom_cons_new hnew] at h hbound
            obtain ⟨bound, rfl⟩ : ∃ b, bound = b + 1 := ⟨bound - 1, by omega⟩
            have hrest : (stopsFrom (p.advance line).lastLine rest).length < bound :=
              Nat.lt_of_succ_lt_succ hbound
            rw [Engine.replayEvents_new e delay target line rest hnew, ask_bind, bind_assoc]
            refine .mark hw ?_
            -- one stop fewer before the controller, one message fewer for the client to wait for
            refine .suspend he delay line (Nat.zero_lt_of_lt hrest) (ih (p.advance line) hrest ?_)
            intro p' bound' g' hbreaks hpos hg
            refine h p' bound' g' ?_ hpos hg
            rw [hbreaks, List.length_cons, Nat.add_comm _ 1, ← Nat.add_assoc]
            rfl

end Replay

section Session

variable {e : Endpoint} {row : List UInt32} {fault : Option String}

/-- A controller that closes its connection only has to finish. -/
theorem Endpoint.close_tail (report : Report) (record : Journal.Record) :
    Tail Controller.Conducts (· = .ok report)
      (e.close.run >>= Session.onOk fun _ =>
        (.ask (.note record) fun _ => .done (.ok report) : Talk (Except SessionError Report))) := by
  have hnote : Tail Controller.Conducts (· = .ok report)
      (.ask (.note record) fun _ => .done (.ok report) : Talk (Except SessionError Report)) :=
    .ask ⟨(), _, .note record⟩ (fun _ _ h => .inl ((Controller.writes_note record).only _ _ h))
      fun _ _ _ => .done rfl
  rw [close_run]
  refine .ask ⟨⟨[], .ok ()⟩, _, .flush rfl rfl⟩ (fun _ _ h => .inl h.of_flush.2) ?_
  intro d act h
  obtain ⟨⟨accepted, rfl⟩, -⟩ := h.of_flush
  cases e with
  | stream => exact hnote
  | loopback => exact hnote
  | socket host port =>
      -- a client that is gone already makes no difference to the result
      refine .ask ⟨.ok (), _, .hangUp (.inl rfl)⟩ (fun _ _ h => .inr h.of_hangUp.2) ?_
      intro reply act h
      show Tail _ _ (Session.onOk _ (Endpoint.hangUpResult reply))
      rw [h.of_hangUp.1]
      exact hnote

/-- **The farewell:** the client learns that it is over, and both come to their results. -/
theorem Together.bidFarewell {bound : Nat} (hbound : 0 < bound)
    {g : Except ClientError Client.Journey → Client.Talk (Except ClientError Client.Journey)}
    (hg : g (.ok ⟨[], true⟩) = .done (.ok ⟨row, true⟩)) :
    Together (Agree row fault) (Session.bidFarewell e row.length fault)
      ((Client.runToFinish bound).run >>= g) := by
  obtain ⟨bound, rfl⟩ : ∃ b, bound = b + 1 := ⟨bound - 1, by omega⟩
  rw [Client.runToFinish_run, ask_bind]
  have hwrites := Controller.writes_send .finish
  rw [Message.bytes_eq] at hwrites
  refine Rests.farewell (Q := (· = .ok ⟨row.length, fault⟩))
    Message.finish.lineFeed_not_mem_body hwrites Client.reads_receive ?_ ?_
  · intro d hd
    obtain ⟨⟨accepted, rfl⟩, -⟩ := hd.of_send
    exact Endpoint.close_tail _ _
  · intro told htold
    cases htold
    rw [← Message.bytes_eq, Client.hearing_bytes]
    exact ⟨_, hg, fun a ha => ⟨ha, rfl⟩⟩

/-- How the client goes on after the greeting. -/
theorem Client.visit_run (bound : Nat) :
    (visit bound).run = greet.run >>= fun
      | .ok () => (runToFinish bound).run
      | .error failure => .done (.error failure) := by
  unfold visit
  rw [ExceptT.run_bind]
  refine bind_congr ?_
  intro result
  cases result <;> rfl

/-- **The greeting:** each learns that the other one is there. -/
theorem Together.introduce (he : e.hasPeer = true) {bound : Nat} (hbound : 0 < bound)
    {α : Type} {agree : α → Except ClientError Client.Journey → Prop}
    {k : Except SessionError Unit → Talk α}
    (h : Together agree (k (.ok ())) (Client.runToFinish bound).run) :
    Together agree ((Session.introduce e).run >>= k) (Client.visit bound).run := by
  obtain ⟨host, port, hopening⟩ : ∃ host port, e.opening = .serverInit host port := by
    cases e <;> exact ⟨_, _, rfl⟩
  rw [Session.introduce_run, Endpoint.greet_run he, Client.visit_run, Client.greet_run, hopening]
  refine .send ?_ ?_
  · intro _
    show Waits _ (e.awaitGreeting.run >>= _ >>= k)
    rw [Endpoint.awaitGreeting_run he]
    exact ⟨_, _, rfl, Controller.reads_receive⟩
  · intro _
    dsimp only
    rw [Client.hearing_bytes]
    show Together agree (e.awaitGreeting.run >>= _ >>= k) ((Client.send .clientInit).run >>= _)
    rw [Endpoint.awaitGreeting_run he, Client.send_run]
    have hw := Client.waits_last hbound
    refine .answer (fun _ => hw) ?_
    intro _
    dsimp only
    rw [hear_bytes]
    exact .note hw h

/-- **The whole session** is safe from the start. -/
theorem Together.replay (he : e.hasPeer = true) (lines : List (UInt32 × Bool))
    (fault : Option String) (delay : Option Nat) (target : String) {bound : Nat}
    (hbound : (stops lines).length < bound) :
    Together (Agree (stops lines) fault)
      (Session.run (Engine.replay lines fault) e delay target).run (Client.visit bound).run := by
  have hpos : 0 < bound := Nat.zero_lt_of_lt hbound
  have hw := Client.waits_last hpos
  rw [Session.run_run]
  refine .introduce he hpos ?_
  show Together _ (((Engine.replay lines fault).resolve target).run >>= _) _
  rw [Engine.replay_resolve_run, ask_bind]
  refine .mark hw (.note hw ?_)
  rw [Engine.replay_run, bind_assoc, ← Dialogue.bind_done (Client.runToFinish bound).run]
  refine .replayEvents he delay target lines .start ?_ ?_
  · rw [← stopsFrom_none] at hbound
    exact hbound
  · intro p bound' g hbreaks hpos' hg
    have hrow : p.breaks = (stops lines).length := by
      rw [hbreaks, ← stopsFrom_none]
      exact Nat.zero_add _
    have hend : g (.ok ⟨[], true⟩) = .done (.ok ⟨stops lines, true⟩) := by
      rw [hg, ← stopsFrom_none]
      rfl
    cases fault with
    | none =>
        show Together _ (Session.bidFarewell e p.breaks none) _
        rw [hrow]
        exact .bidFarewell hpos' hend
    | some text =>
        refine .note (Client.waits_runToFinish hpos' g) ?_
        rw [hrow]
        exact .bidFarewell hpos' hend

end Session

/-! ## Every order of steps -/

/-- A controller at a socket and a client, before either of them has done anything. -/
def Joint.start (host : String) (port : UInt16) (lines : List (UInt32 × Bool))
    (fault : Option String) (delay : Option Nat) (target : String) (bound : Nat) :
    Joint Controller.interface Client.interface (Except SessionError Report)
      (Except ClientError Client.Journey) :=
  ⟨(Session.run (Engine.replay lines fault) (.socket host port) delay target).run,
    (Client.visit bound).run, .empty, .empty⟩

/-- The two are safe from their starts. -/
theorem safe_start (host : String) (port : UInt16) (lines : List (UInt32 × Bool))
    (fault : Option String) (delay : Option Nat) (target : String) {bound : Nat}
    (hbound : (stops lines).length < bound) :
    Safe Controller.Conducts Client.Conducts (Agree (stops lines) fault)
      (.start host port lines fault delay target bound) :=
  Together.replay (e := .socket host port) rfl lines fault delay target hbound _ _ .empty .empty

/-- **They always stop:** there is no order of steps in which they go on for ever. -/
theorem controller_client_stop (host : String) (port : UInt16) (lines : List (UInt32 × Bool))
    (fault : Option String) (delay : Option Nat) (target : String) {bound : Nat}
    (hbound : (stops lines).length < bound) :
    Acc (fun s' s => Step Controller.Conducts Client.Conducts s s')
      (.start host port lines fault delay target bound) :=
  (safe_start host port lines fault delay target hbound).stops

/--
**Controller and client agree,** in whatever order they take their steps and in whatever pieces the
bytes arrive. There is never more than one whole message on its way; until both have returned, one
of them can take a step; and when both have, both have succeeded, the client has collected the
stops of the target, and the controller's report counts them. The client goes on to the end, so
its bound may be any number that the stops and the farewell do not use up.
-/
theorem controller_client_agree (host : String) (port : UInt16) (lines : List (UInt32 × Bool))
    (fault : Option String) (delay : Option Nat) (target : String) {bound : Nat}
    (hbound : (stops lines).length < bound)
    {s : Joint Controller.interface Client.interface (Except SessionError Report)
      (Except ClientError Client.Journey)}
    (h : Relation.ReflTransGen (Step Controller.Conducts Client.Conducts)
      (.start host port lines fault delay target bound) s) :
    s.toLeft.lines + s.toRight.lines ≤ 1 ∧
      (¬ (s.left.IsDone ∧ s.right.IsDone) →
        ∃ s', Step Controller.Conducts Client.Conducts s s') ∧
      ∀ result journey, s.left = .done result → s.right = .done journey →
        result = .ok ⟨(stops lines).length, fault⟩ ∧ journey = .ok ⟨stops lines, true⟩ := by
  have hsafe := safe_start host port lines fault delay target hbound
  obtain ⟨hlines, hlive, hagree⟩ := (hsafe.reachable h).sound
  exact ⟨hlines, hlive, hagree⟩

/-- With a line that comes twice, the two part over two stops. -/
theorem controller_client_agree_two_stops :
    let start := Joint.start "localhost" 7000 [(3, true), (3, true), (5, true)] none none "target" 3
    ∃ s, Relation.ReflTransGen (Step Controller.Conducts Client.Conducts) start s ∧
      s.left = .done (.ok ⟨2, none⟩) ∧ s.right = .done (.ok ⟨[3, 5], true⟩) := by
  intro start
  have hstops : stops [(3, true), (3, true), (5, true)] = [3, 5] := by decide
  have hbound : (stops [(3, true), (3, true), (5, true)]).length < 3 := by decide
  obtain ⟨s, hreach, hleft, hright⟩ :=
    (safe_start "localhost" 7000 _ none none "target" hbound).finishes
  obtain ⟨result, hresult⟩ := hleft.exists
  obtain ⟨journey, hjourney⟩ := hright.exists
  obtain ⟨-, -, hagree⟩ :=
    controller_client_agree "localhost" 7000 _ none none "target" hbound hreach
  obtain ⟨rfl, rfl⟩ := hagree result journey hresult hjourney
  rw [hstops] at hresult hjourney
  exact ⟨s, hreach, hresult, hjourney⟩

end Lockstep
