import Lockstep.Proofs.Course
import Lockstep.Proofs.Delivery
import Lockstep.Proofs.HookCalls
import Lockstep.Proofs.Unfolding

/-!
# What a run of a script does

A script that was read is run under hooks that may do anything and may fail at any call, on a host
that may make anything of its commands, with an output that may fail at any byte. Its run is a row
of events: hooks are called, commands are run, and what these print is passed on. `Ran` says which
rows there are. Every iteration is one `Turn`, which begins with the hook for its line, and the
first one that does not go through is the last.

The way through the loop is taken apart where its parts were joined, one inversion lemma for each
part, and the induction is on the iterations that are left. What a receiver does to a delivery is
all that has to be known about who answers.
-/

namespace Lockstep

open Controller (Exchange printed)
open Dialogue (Unfolds run_unfolds unfolds_ask_iff unfolds_bind_iff unfolds_done_iff)

/-! ## Outputs -/

namespace Controller

/-- What was to be passed on, with what became of it. -/
def Exchange.relay? : Exchange → Option ((Bytes × Bytes) × Delivery)
  | ⟨.relay out err, delivery⟩ => some ((out, err), delivery)
  | _ => none

/-- All that was to be passed on, with what became of it. -/
def relayed (t : List Exchange) : List ((Bytes × Bytes) × Delivery) :=
  t.filterMap Exchange.relay?

/-- If something was passed on, nothing else got through. -/
def Exchange.Conveyed : Exchange → Prop
  | ⟨.relay out err, delivery⟩ => delivery.Conveys (out ++ err)
  | _ => True

end Controller

/-- What becomes of outputs that are delivered one after another, each before its errors. -/
def Sink.relays : Sink → List (Bytes × Bytes) → List ((Bytes × Bytes) × Delivery)
  | _, [] => []
  | s, x :: rest => (x, (s.deliver [x.1, x.2]).1) :: relays (s.deliver [x.1, x.2]).2 rest

namespace Controller

variable {η α : Type} (host : Host η)

/-- Whatever a controller does, its output takes what it passes on piece by piece. -/
theorem relayed_eq_relays (d : Talk α) (w : World η) :
    relayed (d.run (World.answer host) w).trace =
      w.output.relays ((relayed (d.run (World.answer host) w).trace).map Prod.fst) := by
  induction d generalizing w with
  | done a => rfl
  | ask r next ih =>
      rw [Dialogue.run_ask]
      dsimp only
      have hrest := ih (World.answer host r w).1 (World.answer host r w).2
      cases r with
      | relay out err => exact congrArg (_ :: ·) hrest
      | _ => exact hrest

theorem run_conveyed (d : Talk α) (w : World η) :
    ∀ x ∈ (d.run (World.answer host) w).trace, Exchange.Conveyed x := by
  induction d generalizing w with
  | done a => exact List.forall_mem_nil _
  | ask r next ih =>
      refine List.forall_mem_cons.mpr ⟨?_, ih _ _⟩
      cases r with
      | relay out err =>
          have hconveys := Sink.deliver_conveys w.output [out, err]
          rw [List.flatten_cons, List.flatten_singleton] at hconveys
          exact hconveys
      | _ => trivial

end Controller

/-! ## Events -/

/-- What is marked when a hook is called. -/
def HookCall.marks : HookCall → List Exchange
  | .line event => [⟨.mark (.reached event), ()⟩]
  | .exception place fault => [⟨.mark (.faulted place fault), ()⟩]
  | .call _ | .callEnd _ => []

namespace Script

/-- What happens while a script runs. -/
inductive Event where
  /-- A hook is called, asks for what it likes, and comes to this. -/
  | called (call : HookCall) (own : List Exchange) (result : Except SessionError Unit)
  /-- A command is run. -/
  | invoked (invocation : Invocation) (reply : Except SystemError Completion)
  /-- What a command printed is passed on. -/
  | relayed (out err : Bytes) (delivery : Delivery)

namespace Event

/-- The exchanges of an event. -/
def trace : Event → List Exchange
  | called call own _ => call.marks ++ own
  | invoked invocation reply => [⟨.invoke invocation, reply⟩]
  | relayed out err delivery => [⟨.relay out err, delivery⟩]

/-- What a command printed. -/
def produced : Event → Bytes
  | invoked _ (.ok completion) => completion.out ++ completion.err
  | _ => []

/-- What the output took of it. -/
def accepted : Event → Bytes
  | relayed _ _ delivery => delivery.accepted.flatten
  | _ => []

end Event

/-- What comes of a command that is run once, with the fault of its statement. -/
inductive Executes (shell : String) (s : Statement) : List Event → Option String → Prop
  | success {completion : Completion} {d : Delivery} :
      d.outcome = .ok () → d.accepted.flatten = completion.out ++ completion.err →
      completion.status.succeeded = true →
      Executes shell s [.invoked (s.invocation shell) (.ok completion),
        .relayed completion.out completion.err d] none
  | unspawned {cause : SystemError} :
      Executes shell s [.invoked (s.invocation shell) (.error cause)]
        (some s!"line {s.line.toNat}: failed to spawn '{shell}': {cause.message}")
  | unrelayed {completion : Completion} {d : Delivery} {cause : SystemError} :
      d.outcome = .error cause → d.accepted.flatten <+: completion.out ++ completion.err →
      Executes shell s [.invoked (s.invocation shell) (.ok completion),
        .relayed completion.out completion.err d]
        (some s!"line {s.line.toNat}: failed to relay output: {cause.message}")
  | failure {completion : Completion} {d : Delivery} :
      d.outcome = .ok () → d.accepted.flatten = completion.out ++ completion.err →
      completion.status.succeeded = false →
      Executes shell s [.invoked (s.invocation shell) (.ok completion),
        .relayed completion.out completion.err d]
        (some s!"line {s.line.toNat}: '{s.command}' exited with {completion.status.message}")

/-- One iteration, and how it stops the run if it does. -/
inductive Turn (shell target : String) (s : Statement) : List Event → Option Stop → Prop
  /-- The hook for the line fails, and the command is not run. -/
  | refused {own : List Exchange} {failure : SessionError} :
      Turn shell target s [.called (.line ⟨⟨target, s.line⟩, true⟩) own (.error failure)]
        (some (.aborted failure))
  | passed {own : List Exchange} {events : List Event} :
      Executes shell s events none →
      Turn shell target s (.called (.line ⟨⟨target, s.line⟩, true⟩) own (.ok ()) :: events) none
  | faulted {own own' : List Exchange} {events : List Event} {text : String} :
      Executes shell s events (some text) →
      Turn shell target s (.called (.line ⟨⟨target, s.line⟩, true⟩) own (.ok ()) :: events ++
        [.called (.exception ⟨target, s.line⟩ text) own' (.ok ())]) (some (.fault text))
  /-- The hook for the fault fails as well. -/
  | aborted {own own' : List Exchange} {events : List Event} {text : String}
      {failure : SessionError} :
      Executes shell s events (some text) →
      Turn shell target s (.called (.line ⟨⟨target, s.line⟩, true⟩) own (.ok ()) :: events ++
        [.called (.exception ⟨target, s.line⟩ text) own' (.error failure)])
        (some (.aborted failure))

/-- So many iterations of the row go through, and the next one, if there is one, stops the run. -/
inductive Ran (shell target : String) :
    List Statement → List Event → Nat → Except Stop Unit → Prop
  | done : Ran shell target [] [] 0 (.ok ())
  | passed {s : Statement} {row : List Statement} {events later : List Event} {n : Nat}
      {result : Except Stop Unit} :
      Turn shell target s events none → Ran shell target row later n result →
      Ran shell target (s :: row) (events ++ later) (n + 1) result
  | stopped {s : Statement} {row : List Statement} {events : List Event} {stop : Stop} :
      Turn shell target s events (some stop) →
      Ran shell target (s :: row) events 0 (.error stop)

variable {σ : Type}

/-- The calls among the events are those that the hooks answer, from one state to another. -/
inductive Answers (hooks : Hooks σ) : σ → List Event → σ → Prop
  | done {s : σ} : Answers hooks s [] s
  | called {s s' s'' : σ} {call : HookCall} {own : List Exchange}
      {result : Except SessionError Unit} {events : List Event} :
      Unfolds (hooks.invoke call s) own (result, s') → Answers hooks s' events s'' →
      Answers hooks s (.called call own result :: events) s''
  | invoked {s s' : σ} {i : Invocation} {r : Except SystemError Completion} {events : List Event} :
      Answers hooks s events s' → Answers hooks s (.invoked i r :: events) s'
  | relayed {s s' : σ} {out err : Bytes} {d : Delivery} {events : List Event} :
      Answers hooks s events s' → Answers hooks s (.relayed out err d :: events) s'

/-! ## What the events say -/

variable {shell target : String} {s : Statement} {row : List Statement} {events later : List Event}
  {fault : Option String} {stop : Option Stop} {result : Except Stop Unit} {n : Nat}
  {hooks : Hooks σ} {a a' a'' : σ} {t : List Exchange}

theorem Answers.append (h : Answers hooks a events a') (hlater : Answers hooks a' later a'') :
    Answers hooks a (events ++ later) a'' := by
  induction h with
  | done => exact hlater
  | called hcall _ ih => exact .called hcall (ih hlater)
  | invoked _ ih => exact .invoked (ih hlater)
  | relayed _ ih => exact .relayed (ih hlater)

/-- No hook is called while a command runs. -/
theorem Executes.answers (h : Executes shell s events fault) (hooks : Hooks σ) (a : σ) :
    Answers hooks a events a := by
  cases h with
  | success => exact .invoked (.relayed .done)
  | unspawned => exact .invoked .done
  | unrelayed => exact .invoked (.relayed .done)
  | failure => exact .invoked (.relayed .done)

/-- A fault begins with the line of its statement. -/
theorem Executes.names_line {text : String} (h : Executes shell s events (some text)) :
    ∃ rest, text = s!"line {s.line.toNat}: " ++ rest := by
  cases h with
  | unspawned => exact Statement.fault?_names_line (r := .error _) rfl
  | @unrelayed _ _ cause =>
      refine ⟨s!"failed to relay output: {cause.message}", ?_⟩
      rw [show ": failed to relay output: " = ": " ++ "failed to relay output: " from rfl]
      simp only [toString, String.append_assoc]
  | @failure completion _ _ _ hfailed =>
      have hfault : s.fault? shell (.ok completion) = some
          s!"line {s.line.toNat}: '{s.command}' exited with {completion.status.message}" := by
        rw [Statement.fault?, hfailed]
        exact if_neg Bool.false_ne_true
      exact Statement.fault?_names_line hfault

theorem Executes.called_not_mem (h : Executes shell s events fault) {call : HookCall}
    {own : List Exchange} {reply : Except SessionError Unit} :
    Event.called call own reply ∉ events := by
  cases h <;> simp

/-- From the hook for its line on, no hook is told of a fault while a command runs. -/
theorem Executes.exception_not_mem (h : Executes shell s events fault) {event : LineEvent}
    {place : Place} {text : String} {own own' : List Exchange}
    {reply reply' : Except SessionError Unit} :
    Event.called (.exception place text) own reply ∉ .called (.line event) own' reply' :: events := by
  intro hmem
  rcases List.mem_cons.mp hmem with hline | hin
  · exact nomatch hline
  · exact h.called_not_mem hin

/-- If a hook is told of the fault of a command, it is told its line. -/
theorem Executes.told_line {text told : String} (h : Executes shell s events (some text))
    {event : LineEvent} {place : Place} {own own₁ own₂ : List Exchange}
    {reply reply₁ reply₂ : Except SessionError Unit}
    (hmem : .called (.exception place told) own reply ∈ .called (.line event) own₁ reply₁ ::
      events ++ [.called (.exception ⟨target, s.line⟩ text) own₂ reply₂]) :
    ∃ rest, told = s!"line {place.line.toNat}: " ++ rest := by
  rcases List.mem_append.mp hmem with hearlier | hlast
  · exact absurd hearlier h.exception_not_mem
  · obtain ⟨⟨rfl, rfl⟩, -, -⟩ := by simpa using hlast
    exact h.names_line

/-- What a hook is told of a fault begins with the line of its place. -/
theorem Turn.names_line (h : Turn shell target s events stop) {place : Place} {text : String}
    {own : List Exchange} {reply : Except SessionError Unit}
    (hmem : .called (.exception place text) own reply ∈ events) :
    ∃ rest, text = s!"line {place.line.toNat}: " ++ rest := by
  cases h with
  | refused => simp at hmem
  | passed hexec => exact absurd hmem hexec.exception_not_mem
  | faulted hexec => exact hexec.told_line hmem
  | aborted hexec => exact hexec.told_line hmem

theorem Ran.names_line (h : Ran shell target row events n result) {place : Place} {text : String}
    {own : List Exchange} {reply : Except SessionError Unit}
    (hmem : .called (.exception place text) own reply ∈ events) :
    ∃ rest, text = s!"line {place.line.toNat}: " ++ rest := by
  induction h with
  | done => exact absurd hmem List.not_mem_nil
  | passed hturn _ ih =>
      rcases List.mem_append.mp hmem with hfirst | hlater
      · exact hturn.names_line hfirst
      · exact ih hlater
  | stopped hturn => exact hturn.names_line hmem

/-- A run is a success exactly if all iterations go through. -/
theorem Ran.ok_iff (h : Ran shell target row events n result) :
    result = .ok () ↔ n = row.length := by
  induction h with
  | done => exact iff_of_true rfl rfl
  | passed _ _ ih => rw [ih, List.length_cons, Nat.add_right_cancel_iff]
  | stopped _ =>
      constructor
      · intro h
        exact nomatch h
      · intro h
        exact nomatch h

/-! ## Bytes -/

/-- The output takes some of what was produced, from the first byte on, and all of it if no
delivery fails. -/
structure Passes (events : List Event) : Prop where
  part : events.flatMap Event.accepted <+: events.flatMap Event.produced
  whole : (∀ out err d, .relayed out err d ∈ events → d.outcome = .ok ()) →
    events.flatMap Event.accepted = events.flatMap Event.produced

theorem Passes.of_eq (h : events.flatMap Event.accepted = events.flatMap Event.produced) :
    Passes events :=
  ⟨h ▸ List.prefix_rfl, fun _ => h⟩

/-- If everything was taken before, it goes on from there. -/
theorem Passes.append (h : events.flatMap Event.accepted = events.flatMap Event.produced)
    (hlater : Passes later) : Passes (events ++ later) := by
  refine ⟨?_, ?_⟩
  · rw [List.flatMap_append, List.flatMap_append, h]
    exact (List.prefix_append_right_inj _).mpr hlater.part
  · intro hall
    have hwhole := hlater.whole fun out err d hd => hall out err d (List.mem_append_right _ hd)
    rw [List.flatMap_append, List.flatMap_append, h, hwhole]

theorem Passes.called (h : Passes events) (call : HookCall) (own : List Exchange)
    (reply : Except SessionError Unit) : Passes (.called call own reply :: events) :=
  .append (rfl : [Event.called call own reply].flatMap Event.accepted = _) h

theorem Passes.concat_called (h : Passes events) (call : HookCall) (own : List Exchange)
    (reply : Except SessionError Unit) : Passes (events ++ [.called call own reply]) := by
  refine ⟨?_, ?_⟩
  · simpa [Event.accepted, Event.produced] using h.part
  · intro hall
    have hwhole := h.whole fun out err d hd => hall out err d (List.mem_append_left _ hd)
    simpa [Event.accepted, Event.produced] using hwhole

/-- What is taken of a command that has run is taken of what it printed. -/
theorem accepted_exchanged (i : Invocation) (completion : Completion) (d : Delivery) :
    [Event.invoked i (.ok completion), .relayed completion.out completion.err d].flatMap
      Event.accepted = d.accepted.flatten := by
  simp [Event.accepted]

theorem produced_exchanged (i : Invocation) (completion : Completion) (d : Delivery) :
    [Event.invoked i (.ok completion), .relayed completion.out completion.err d].flatMap
      Event.produced = completion.out ++ completion.err := by
  simp [Event.produced]

/-- A command that succeeds had its whole output taken. -/
theorem Executes.whole (h : Executes shell s events none) :
    events.flatMap Event.accepted = events.flatMap Event.produced := by
  cases h with
  | success _ haccepted _ => rw [accepted_exchanged, produced_exchanged, haccepted]

theorem Executes.passes (h : Executes shell s events fault) : Passes events := by
  cases h with
  | success houtcome haccepted hstatus =>
      exact .of_eq (Executes.success houtcome haccepted hstatus).whole
  | unspawned => exact .of_eq rfl
  | unrelayed houtcome hpart =>
      refine ⟨?_, ?_⟩
      · rw [accepted_exchanged, produced_exchanged]
        exact hpart
      · intro hall
        have hok := hall _ _ _ (List.mem_cons_of_mem _ List.mem_cons_self)
        rw [houtcome] at hok
        exact nomatch hok
  | failure _ haccepted _ =>
      refine .of_eq ?_
      rw [accepted_exchanged, produced_exchanged, haccepted]

theorem Turn.passes (h : Turn shell target s events stop) : Passes events := by
  cases h with
  | refused => exact .of_eq rfl
  | passed hexec => exact hexec.passes.called _ _ _
  | faulted hexec => exact (hexec.passes.called _ _ _).concat_called _ _ _
  | aborted hexec => exact (hexec.passes.called _ _ _).concat_called _ _ _

theorem Ran.passes (h : Ran shell target row events n result) : Passes events := by
  induction h with
  | done => exact .of_eq rfl
  | passed hturn _ ih =>
      refine .append ?_ ih
      -- a turn that goes through has left nothing behind
      cases hturn with
      | passed hexec => exact hexec.whole
  | stopped hturn => exact hturn.passes

/-- If the hooks print nothing, nothing is printed but what the output takes of the commands. -/
theorem printed_events (events : List Event)
    (h : ∀ call own reply, .called call own reply ∈ events → printed own = []) :
    printed (events.flatMap Event.trace) = events.flatMap Event.accepted := by
  induction events with
  | nil => rfl
  | cons x rest ih =>
      have hrest := ih fun call own reply hmem => h call own reply (List.mem_cons_of_mem _ hmem)
      have hfirst : printed x.trace = x.accepted := by
        cases x with
        | called call own reply =>
            have hown := h call own reply List.mem_cons_self
            cases call <;> exact hown
        | invoked i r => rfl
        | relayed out err d => exact List.append_nil _
      rw [List.flatMap_cons, List.flatMap_cons, ← hfirst, ← hrest]
      exact List.flatMap_append

/-! ## Ways through a run -/

/-- The way through a hook that is called at a line. -/
theorem reach_unfolds {event : LineEvent} {r : Except SessionError Unit × σ}
    (h : Unfolds (hooks.reach event a) t r) :
    ∃ own, t = (Event.called (.line event) own r.1).trace ∧
      Unfolds (hooks.invoke (.line event) a) own r := by
  obtain ⟨_, own, ht, hown⟩ := unfolds_ask_iff.mp h
  exact ⟨own, ht, hown⟩

/-- The way through a hook that is told of a fault. -/
theorem report_unfolds {place : Place} {text : String} {r : Except SessionError Unit × σ}
    (h : Unfolds (hooks.report place text a) t r) :
    ∃ own, t = (Event.called (.exception place text) own r.1).trace ∧
      Unfolds (hooks.invoke (.exception place text) a) own r := by
  obtain ⟨_, own, ht, hown⟩ := unfolds_ask_iff.mp h
  exact ⟨own, ht, hown⟩

/-- The way through a command that is run. -/
theorem execute_unfolds (h : Unfolds (execute shell s) t fault)
    (hconveyed : ∀ x ∈ t, Exchange.Conveyed x) :
    ∃ events, t = events.flatMap Event.trace ∧ Executes shell s events fault := by
  obtain ⟨reply, u, rfl, hu⟩ := unfolds_ask_iff.mp h
  cases reply with
  | error cause =>
      obtain ⟨rfl, rfl⟩ := unfolds_done_iff.mp hu
      exact ⟨_, rfl, .unspawned⟩
  | ok completion =>
      obtain ⟨d, v, rfl, hv⟩ := unfolds_ask_iff.mp hu
      have hconveys : d.Conveys (completion.out ++ completion.err) :=
        hconveyed _ (List.mem_cons_of_mem _ List.mem_cons_self)
      obtain ⟨accepted, outcome⟩ := d
      -- the delivery is looked at first, so a status counts only where all was passed on
      cases outcome with
      | error cause =>
          obtain ⟨rfl, rfl⟩ := unfolds_done_iff.mp hv
          exact ⟨_, rfl, .unrelayed rfl hconveys.part⟩
      | ok _ =>
          have hwhole := hconveys.whole rfl
          by_cases hstatus : completion.status.succeeded = true
          · replace hv :
                Unfolds (if completion.status.succeeded then .done none else _) v fault := hv
            rw [if_pos hstatus] at hv
            obtain ⟨rfl, rfl⟩ := unfolds_done_iff.mp hv
            exact ⟨_, rfl, .success rfl hwhole hstatus⟩
          · replace hv : Unfolds (if completion.status.succeeded then _ else .done (some
              s!"line {s.line.toNat}: '{s.command}' exited with {completion.status.message}"))
              v fault := hv
            rw [if_neg hstatus] at hv
            obtain ⟨rfl, rfl⟩ := unfolds_done_iff.mp hv
            exact ⟨_, rfl, .failure rfl hwhole (Bool.eq_false_iff.mpr hstatus)⟩

/-- The way through a row of iterations begins with a turn. Either it goes through and the others
follow, or the run stops there. -/
theorem turn_unfolds {others : List Station}
    (h : Unfolds (visit hooks (station shell target s :: others) a) t (result, a'))
    (hconveyed : ∀ x ∈ t, Exchange.Conveyed x) :
    (∃ events b u, t = events.flatMap Event.trace ++ u ∧ Answers hooks a events b ∧
      Turn shell target s events none ∧ Unfolds (visit hooks others b) u (result, a')) ∨
    ∃ events stop, t = events.flatMap Event.trace ∧ Answers hooks a events a' ∧
      Turn shell target s events (some stop) ∧ result = .error stop := by
  obtain ⟨⟨reached, b⟩, t₁, u₁, rfl, hreach, hrun⟩ := unfolds_bind_iff.mp h
  obtain ⟨own, rfl, hown⟩ := reach_unfolds hreach
  obtain ⟨-, hothers⟩ := List.forall_mem_append.mp hconveyed
  cases reached with
  | error failure =>
      -- the run is over before the command is asked for
      obtain ⟨rfl, hvalue⟩ := unfolds_done_iff.mp hrun
      obtain ⟨rfl, rfl⟩ := Prod.mk.inj hvalue
      refine .inr ⟨_, _, ?_, .called hown .done, .refused, rfl⟩
      rw [List.flatMap_cons]
      rfl
  | ok _ =>
      obtain ⟨fault, t₂, u₂, rfl, hexecute, hafter⟩ := unfolds_bind_iff.mp hrun
      obtain ⟨hcommand, -⟩ := List.forall_mem_append.mp hothers
      obtain ⟨events, rfl, hexec⟩ := execute_unfolds hexecute hcommand
      have hanswers : Answers hooks a
          (.called (.line ⟨⟨target, s.line⟩, true⟩) own (.ok ()) :: events) b :=
        .called hown (hexec.answers _ _)
      cases fault with
      | none =>
          refine .inl ⟨_, b, u₂, ?_, hanswers, .passed hexec, hafter⟩
          rw [List.flatMap_cons, List.append_assoc]
          rfl
      | some text =>
          obtain ⟨⟨reported, c⟩, t₃, u₃, rfl, hreport, hend⟩ := unfolds_bind_iff.mp hafter
          obtain ⟨own', rfl, hown'⟩ := report_unfolds hreport
          -- what the hook comes to decides how the run stops, but it stops
          cases reported with
          | error failure =>
              obtain ⟨rfl, hvalue⟩ := unfolds_done_iff.mp hend
              obtain ⟨rfl, rfl⟩ := Prod.mk.inj hvalue
              refine .inr ⟨_, _, ?_, hanswers.append (.called hown' .done), .aborted hexec, rfl⟩
              simp [station]
          | ok _ =>
              obtain ⟨rfl, hvalue⟩ := unfolds_done_iff.mp hend
              obtain ⟨rfl, rfl⟩ := Prod.mk.inj hvalue
              refine .inr ⟨_, _, ?_, hanswers.append (.called hown' .done), .faulted hexec, rfl⟩
              simp [station]

/-- **The way through a row of iterations** is one turn after another, up to the first that stops
the run. -/
theorem visit_unfolds
    (h : Unfolds (visit hooks (row.map (station shell target)) a) t (result, a'))
    (hconveyed : ∀ x ∈ t, Exchange.Conveyed x) :
    ∃ events n, t = events.flatMap Event.trace ∧ Answers hooks a events a' ∧
      Ran shell target row events n result := by
  induction row generalizing a t with
  | nil =>
      obtain ⟨rfl, hvalue⟩ := unfolds_done_iff.mp h
      obtain ⟨rfl, rfl⟩ := Prod.mk.inj hvalue
      exact ⟨[], 0, rfl, .done, .done⟩
  | cons s rest ih =>
      rcases turn_unfolds h hconveyed with hpassed | hstopped
      · obtain ⟨events, b, u, rfl, hanswers, hturn, hrest⟩ := hpassed
        obtain ⟨-, hlater⟩ := List.forall_mem_append.mp hconveyed
        obtain ⟨later, n, rfl, hothers, hran⟩ := ih hrest hlater
        exact ⟨events ++ later, n + 1, List.flatMap_append.symm, hanswers.append hothers,
          .passed hturn hran⟩
      · obtain ⟨events, stop, rfl, hanswers, hturn, rfl⟩ := hstopped
        exact ⟨events, 0, rfl, hanswers, .stopped hturn⟩

/-- A script is read, and if there is no flaw in it, its iterations are visited. -/
theorem run_eq (hooks : Hooks σ) (shell target : String) (a : σ) :
    run hooks shell target a = .ask (.load target) fun
      | .error cause => .done (.error (.fault (Flaw.unreadable target cause).message), a)
      | .ok text =>
        match parse text with
        | .error flaw => .done (.error (.fault flaw.message), a)
        | .ok script => visit hooks ((iterations script).map (station shell target)) a := by
  refine Dialogue.ask_congr ?_
  intro reply
  cases reply with
  | error cause => rfl
  | ok text =>
      show (Dialogue.done (parse text) >>= _ : Talk _) = _
      dsimp only
      cases parse text with
      | error flaw => rfl
      | ok script =>
          show runStatements hooks shell target script a = _
          rw [runStatements_eq_visit, stations_eq_map]

/-- The run of a script that is read is one way through its iterations. -/
theorem run_of_parse {η : Type} (host : Host η) (hooks : Hooks σ) (shell : String)
    {target : String} (a : σ) {w : World η} {text : List Char} {script : List Statement}
    (hload : host.load w.host target = .ok text) (hparse : parse text = .ok script) :
    (run hooks shell target a).run (World.answer host) w =
      let o := (visit hooks ((iterations script).map (station shell target)) a).run
        (World.answer host) w
      ⟨o.value, ⟨.load target, .ok text⟩ :: o.trace, o.state⟩ := by
  have hreply : World.answer host (.load target) w = (.ok text, w) := by
    show (host.load w.host target, w) = _
    rw [hload]
  rw [run_eq, Dialogue.run_ask, hreply]
  dsimp only
  rw [hparse]

end Script

end Lockstep
