import Lockstep.Proofs.Fragility
import Lockstep.Proofs.ReplaySession
import Lockstep.Proofs.Subject

/-!
# A failing writer only truncates a session

Every part of a session is fragile: a delivery that fails ends it with the failure of the
connection, and neither a hook, an engine nor the farewell makes anything else of this. So a
session over a connection that fails is the session over one that does not, cut short
(`session_truncates`).
-/

namespace Lockstep

open Controller

variable {e : Endpoint}

/-- The connection failed. -/
def Disconnected {α : Type} (result : Except SessionError α) : Prop :=
  ∃ cause, result = .error (.io cause)

/-- A run of a target ended because the connection failed. -/
def Halted (result : Except Stop Unit × Progress) : Prop :=
  ∃ cause, result.1 = .error (.aborted (.io cause))

namespace Controller

variable {α β : Type}

/-- After a failure of the connection nothing is left to be done. -/
theorem Halts.onOk {f : α → Talk (Except SessionError β)} {result : Except SessionError α}
    (h : Disconnected result) : Halts Disconnected (Session.onOk f result) := by
  obtain ⟨cause, rfl⟩ := h
  exact .done ⟨cause, rfl⟩

/-- One action after another. -/
theorem Fragile.onOk {d : Talk (Except SessionError α)} {f : α → Talk (Except SessionError β)}
    (hd : Fragile Disconnected d) (hf : ∀ a, Fragile Disconnected (f a)) :
    Fragile Disconnected (d >>= Session.onOk f) := by
  refine hd.bind ?_ fun _ => .onOk
  intro result
  cases result with
  | ok a => exact hf a
  | error failure => exact .done _

/-- What the session makes of a delivery. -/
theorem heeds_outcome (d : Talk (Except SessionError α)) :
    Heeds Disconnected fun delivery : Delivery =>
      match delivery.outcome with
      | .error cause => .done (.error (.io cause))
      | .ok () => d where
  same d d' h := by simp only [h]
  fail d cause h := by
    simp only [h]
    exact .done ⟨cause, rfl⟩

theorem Fragile.send_outcome {m : Message} {d : Talk (Except SessionError α)}
    (h : Fragile Disconnected d) :
    Fragile Disconnected (.ask (.send m) fun delivery =>
      match delivery.outcome with
      | .error cause => .done (.error (.io cause))
      | .ok () => d) := by
  refine .send (heeds_outcome d) ?_
  intro delivery hok
  rw [hok]
  exact h

end Controller

/-! ## Greeting and suspension -/

namespace Endpoint

theorem greet_fragile : Fragile Disconnected e.greet.run := by
  cases he : e.hasPeer with
  | false =>
      rw [greet_run_alone he]
      exact .send_outcome (.ask trivial fun _ => .done _)
  | true =>
      rw [greet_run he, awaitGreeting_run he]
      refine .send_outcome (.ask trivial fun reply => ?_)
      cases greetingResult (hear reply) with
      | error failure => exact .done _
      | ok u => exact .ask trivial fun _ => .done _

theorem rest_fragile (delay : Option Nat) (line : UInt32) :
    Fragile Disconnected (rest delay line) := by
  cases delay with
  | none => exact .ask trivial fun _ => .done _
  | some milliseconds => exact .ask trivial fun _ => .ask trivial fun _ => .done _

theorem suspend_fragile (delay : Option Nat) (line : UInt32) :
    Fragile Disconnected (e.suspend delay line).run := by
  have hrest := rest_fragile delay line
  cases he : e.hasPeer with
  | false =>
      rw [suspend_run_alone he]
      exact .ask trivial fun _ => .send_outcome hrest
  | true =>
      rw [suspend_run he]
      refine .ask trivial fun _ => .send_outcome (.ask trivial fun reply => ?_)
      cases resumeResult (hear reply) with
      | error failure => exact .done _
      | ok u => exact hrest

theorem close_fragile : Fragile Disconnected e.close.run := by
  rw [close_run]
  refine .flush (heeds_outcome _) ?_
  intro delivery hok
  rw [hok]
  cases e with
  | stream => exact .done _
  | loopback => exact .done _
  | socket host port => exact .ask trivial fun _ => .done _

end Endpoint

/-! ## Running a target -/

theorem stepper_fragile (delay : Option Nat) (event : LineEvent) (p : Progress) :
    Fragile (fun result => Disconnected result.1) ((stepper e delay).line event p) := by
  obtain ⟨place, inTarget⟩ := event
  cases inTarget with
  | false => exact .done _
  | true =>
      by_cases hnew : p.lastLine = some place.line
      · rw [stepper_repeated e delay place hnew]
        exact .ask trivial fun _ => .done _
      · rw [stepper_new e delay place hnew]
        exact (Endpoint.suspend_fragile delay place.line).bind (fun _ => .done _) fun _ => .done

/-- Nothing is sent to the client where the target goes on. -/
def Station.Mute (x : Station) : Prop := Fragile (fun _ => False) x.act

/-- **Going through places,** a failure of the connection is handed on as it came. -/
theorem visit_fragile (delay : Option Nat) {stations : List Station}
    (hmute : ∀ x ∈ stations, x.Mute) (p : Progress) :
    Fragile Halted (visit (stepper e delay) stations p) := by
  induction stations generalizing p with
  | nil => exact .done _
  | cons x rest ih =>
      obtain ⟨hx, hrest⟩ := List.forall_mem_cons.mp hmute
      rw [visit_cons]
      refine .ask trivial fun _ => (stepper_fragile delay x.event p).bind ?_ ?_
      · rintro ⟨result, p⟩
        cases result with
        | error failure => exact .done _
        | ok u =>
            refine hx.bind ?_ fun _ => False.elim
            intro fault
            cases fault with
            | none => exact ih hrest p
            | some text => exact .ask trivial fun _ => .done _
      · rintro ⟨_, p⟩ ⟨cause, rfl⟩
        exact .done ⟨cause, rfl⟩

theorem Script.execute_fragile (shell : String) (s : Statement) :
    Fragile (fun _ => False) (execute shell s) := by
  refine .ask trivial fun reply => ?_
  cases reply with
  | error cause => exact .done _
  | ok completion =>
      refine .ask trivial fun delivery => ?_
      obtain ⟨accepted, outcome⟩ := delivery
      cases outcome with
      | error cause => exact .done _
      | ok u =>
          show Fragile _ (if completion.status.succeeded then _ else _)
          split <;> exact .done _

theorem Script.stations_mute (shell target : String) (script : List Statement) :
    ∀ x ∈ stations shell target script, x.Mute :=
  forall_stations (execute_fragile shell)

theorem Engine.stations_mute (target : String) (lines : List (UInt32 × Bool)) :
    ∀ x ∈ lines.map (station target), x.Mute :=
  List.forall_mem_map.mpr fun _ _ => .done _

namespace Subject

/-- Visiting all places and then stopping. -/
theorem places_fragile (delay : Option Nat) {stations : List Station}
    (hmute : ∀ x ∈ stations, x.Mute) (fault : Option String) (p : Progress) :
    Fragile Halted (visit (stepper e delay) stations p >>=
      onPassed fun p => .done (Engine.ending fault, p)) := by
  refine (visit_fragile delay hmute p).bind ?_ ?_
  · rintro ⟨result, p⟩
    cases result <;> exact .done _
  · rintro ⟨_, p⟩ ⟨cause, rfl⟩
    exact .done ⟨cause, rfl⟩

theorem run_fragile (subject : Subject) (delay : Option Nat) (target : String) (p : Progress) :
    Fragile Halted (subject.engine.run (stepper e delay) target p) := by
  rw [run_eq]
  cases subject with
  | replay found lines fault =>
      exact places_fragile delay (Engine.stations_mute target lines) fault p
  | script shell =>
      refine .ask trivial fun reply => ?_
      cases reply with
      | error cause => exact .done _
      | ok text =>
          dsimp only
          cases Script.parse text with
          | error flaw => exact .done _
          | ok statements =>
              exact places_fragile delay (Script.stations_mute shell target statements) none p

theorem resolve_fragile (subject : Subject) (target : String) :
    Fragile Disconnected (subject.engine.resolve target).run := by
  cases subject with
  | replay found lines fault =>
      rw [replay_resolve_run]
      exact .ask trivial fun _ => .done _
  | script shell =>
      rw [script_resolve_run]
      exact .ask trivial fun _ => .ask trivial fun _ => .done _

end Subject

/-! ## The whole session -/

namespace Session

theorem introduce_fragile : Fragile Disconnected (introduce e).run := by
  rw [introduce_run]
  refine Endpoint.greet_fragile.bind ?_ ?_
  · intro result
    cases result with
    | ok u => exact .done _
    | error failure => exact .ask trivial fun _ => .done _
  · rintro _ ⟨cause, rfl⟩
    exact .note (.done ⟨cause, rfl⟩)

theorem bidFarewell_fragile (breaks : Nat) (fault : Option String) :
    Fragile Disconnected (bidFarewell e breaks fault) :=
  .send_outcome (Endpoint.close_fragile.onOk fun _ => .ask trivial fun _ => .done _)

theorem conclude_fragile (result : Except Stop Unit × Progress) :
    Fragile Disconnected (conclude e result) := by
  obtain ⟨result, p⟩ := result
  cases result with
  | ok u => exact bidFarewell_fragile p.breaks none
  | error stop =>
      cases stop with
      | fault text => exact .ask trivial fun _ => bidFarewell_fragile p.breaks (some text)
      | aborted failure => exact .ask trivial fun _ => .done _

/-- An aborted run ends the session with the failure that aborted it. -/
theorem conclude_halts {result : Except Stop Unit × Progress} (h : Halted result) :
    Halts Disconnected (conclude e result) := by
  obtain ⟨result, p⟩ := result
  obtain ⟨cause, rfl⟩ := h
  exact .note (.done ⟨cause, rfl⟩)

theorem run_fragile (subject : Subject) (e : Endpoint) (delay : Option Nat) (target : String) :
    Fragile Disconnected (run subject.engine e delay target).run := by
  rw [run_run]
  refine introduce_fragile.onOk fun _ => (subject.resolve_fragile target).onOk fun path => ?_
  refine .ask trivial fun _ => (subject.run_fragile delay path Progress.start).bind ?_ ?_
  · exact conclude_fragile
  · exact fun _ => conclude_halts

end Session

/-! ## The law -/

namespace Controller

/-- Commands and lines of the client are not deliveries. -/
theorem executed_eq_other (t : List Exchange) :
    executed t = (t.filter Exchange.isOther).filterMap Exchange.execution? := by
  rw [executed, List.filterMap_filter]
  refine List.filterMap_congr ?_
  rintro ⟨r, reply⟩ -
  cases r <;> rfl

theorem consumed_eq_other (t : List Exchange) :
    consumed t = (t.filter Exchange.isOther).filter Exchange.isReceive := by
  rw [consumed, List.filter_filter]
  refine List.filter_congr ?_
  rintro ⟨r, reply⟩ -
  cases r <;> rfl

end Controller

namespace Session

/--
**A failing writer only truncates a session,** at any endpoint and of either kind of target. The
first session writes to any receiver, and the second one, in the same surroundings, to one that
never fails. What the first sends, the commands that it runs and the lines that it consumes are
those of the second up to some point. Its first failed call is its last, and it ends with the
failure of the connection. So it either ends as the second does and has sent the same, or it ends
with that failure.
-/
theorem session_truncates {η : Type} (host : Host η) (subject : Subject) (e : Endpoint)
    (delay : Option Nat) (target : String) {w w' : World η} (hw : Spares w w') :
    let o := outcome host subject.engine e delay target w
    let o' := outcome host subject.engine e delay target w'
    sent o.trace <+: sent o'.trace ∧
      executed o.trace <+: executed o'.trace ∧
      consumed o.trace <+: consumed o'.trace ∧
      Sink.Counted w.sink (calls w.sink o.trace) o.state.sink ∧
      (∀ before c after, calls w.sink o.trace = before ++ c :: after → c.failed = true →
        after = [] ∧ Disconnected o.value) ∧
      ((o.value = o'.value ∧ sent o.trace = sent o'.trace) ∨ Disconnected o.value) := by
  intro o o'
  have hfragile := run_fragile subject e delay target
  have htruncates : Truncates Disconnected o o' := hfragile.run host hw
  obtain ⟨result, hstop, hend⟩ : Ceases Disconnected o.value (calls w.sink o.trace) :=
    hfragile.ceases host w
  refine ⟨htruncates.sent, ?_, ?_, count_calls host _ w, ?_, htruncates.ends⟩
  · rw [executed_eq_other, executed_eq_other]
    exact htruncates.other.filterMap _
  · rw [consumed_eq_other, consumed_eq_other]
    exact htruncates.other.filter _
  · intro before c after hcalls hc
    refine ⟨hstop.last hcalls hc, ?_⟩
    rcases hend with rfl | hbad
    · -- where everything succeeded, there is no failed call
      have hgood : c.failed = false := hstop c (by rw [hcalls]; simp)
      rw [hc] at hgood
      exact nomatch hgood
    · exact hbad

/-- A receiver that takes one byte and then breaks, and one that does not. -/
theorem session_truncates_one_byte :
    let host : Host Unit :=
      ⟨fun _ => .ok, fun _ _ => .ok [], fun _ _ => (.ok ⟨[], [], .exited 0⟩, ())⟩
    let sink : Sink := .ofReceiver
      ⟨fun calls _ _ => if calls = 0 then .ok 1 else .error (.numbered 32), fun _ _ => .ok ()⟩
    let w : World Unit :=
      ⟨Source.ofBytes (Message.clientInit.bytes ++ Message.resume.bytes), sink, .willing, .ok (), ()⟩
    let o := outcome host (Subject.replay .ok [(3, true)] none).engine .stream none "t" w
    let o' := outcome host (Subject.replay .ok [(3, true)] none).engine .stream none "t"
      { w with sink := .willing }
    sent o.trace = [123] ∧ sent o.trace <+: sent o'.trace ∧
      o.value = .error (.io (.numbered 32)) := by
  intro host sink w o o'
  have hw : Spares w { w with sink := .willing } :=
    ⟨Receiver.willing_obliging, rfl, rfl, rfl, rfl⟩
  obtain ⟨hsent, -⟩ := session_truncates host (.replay .ok [(3, true)] none) .stream none "t" hw
  have hopening : ∃ rest, Endpoint.stream.opening.bytes = 123 :: 34 :: rest := ⟨_, rfl⟩
  have hdelivery : (sink.deliver [Endpoint.stream.opening.bytes]).1 =
      ⟨[[123]], .error (.numbered 32)⟩ := by
    obtain ⟨rest, hopening⟩ := hopening
    simp [Sink.deliver, Sink.writeEach, Sink.writeAll, hopening, sink, Sink.ofReceiver]
  have ho : sent o.trace = [123] ∧ o.value = .error (.io (.numbered 32)) := by
    show sent (Dialogue.run _ (ExceptT.run (run _ _ _ _)) w).trace = _ ∧
      (Dialogue.run _ (ExceptT.run (run _ _ _ _)) w).value = _
    rw [run_run, introduce_run, Endpoint.greet_run rfl]
    simp only [Dialogue.ask_bind, Dialogue.run_ask, World.answer_send]
    rw [show w.sink = sink from rfl, hdelivery]
    exact ⟨rfl, rfl⟩
  exact ⟨ho.1, hsent, ho.2⟩

end Session

end Lockstep
