import Lockstep.Proofs.Gate
import Lockstep.Proofs.Obedience
import Lockstep.Proofs.Reply

/-!
# Sessions keep the gate

A session of a script obeys the rule of `Gate.lean`, part by part: the greeting takes a fresh
history to an even one, a suspension an even one to an even one in which its line is acknowledged
or to a settled one, and the statements of a script keep the history even, with the last line of
the progress acknowledged. That last condition, `Running`, is the invariant of all three loops.
-/

namespace Lockstep

open Controller

variable {shell : String} {t : List Exchange} {α : Type}

namespace Controller

/-- A condition under which anything quiet may come, and that nothing quiet ends. -/
structure Lasting (P : List Exchange → Prop) : Prop where
  calm : ∀ t, P t → Calm t
  append : ∀ t x, x.isStill = true → P t → P (t ++ [x])

theorem Lasting.fresh : Lasting Fresh := ⟨fun _ => Fresh.calm, fun _ _ => Fresh.append⟩

theorem Lasting.even : Lasting Even := ⟨fun _ => Even.calm, fun _ _ => Even.append⟩

theorem Lasting.ask {P : List Exchange → Prop} (hP : Lasting P) {r : Request}
    {next : Reply r → Talk α} {post : α → List Exchange → Prop} (hr : r.isQuiet = true) (h : P t)
    (hnext : ∀ reply t, P t → (next reply).Obeys (Gated shell) post t) :
    (Dialogue.ask r next : Talk α).Obeys (Gated shell) post t := by
  refine .ask ?_
  intro reply
  obtain ⟨hstill, hinvoke⟩ := Request.isQuiet_isStill hr reply
  exact ⟨(hP.calm t h).gated hstill hinvoke, hnext reply _ (hP.append t _ hstill h)⟩

theorem Settled.note {record : Journal.Record} {next : Unit → Talk α}
    {post : α → List Exchange → Prop} (h : Settled t)
    (hnext : ∀ t, Settled t → (next ()).Obeys (Gated shell) post t) :
    (Dialogue.ask (.note record) next : Talk α).Obeys (Gated shell) post t :=
  .ask fun _ => ⟨h.gated_note record, hnext _ (h.append rfl)⟩

/-- What holds after an action: `P` if it succeeded, and else nothing more is to come. -/
def After (P : α → List Exchange → Prop) : Except SessionError α → List Exchange → Prop
  | .ok a, t => P a t
  | .error _, t => Settled t

/-- Every break is answered, and the last one was for this line. -/
structure At (line : UInt32) (t : List Exchange) : Prop where
  even : Even t
  here : Acknowledged t line

theorem Lasting.at (line : UInt32) : Lasting (At line) where
  calm := fun _ h => h.even.calm
  append := by
    intro t x hx h
    exact ⟨h.even.append hx, h.here.append (Exchange.isStill_iff.mp hx).1⟩

/-- Every break is answered, and the last line of the progress is the one of the last break. -/
structure Going (p : Progress) (t : List Exchange) : Prop where
  even : Even t
  here : ∀ line, p.lastLine = some line → Acknowledged t line

theorem Lasting.going (p : Progress) : Lasting (Going p) where
  calm := fun _ h => h.even.calm
  append := by
    intro t x hx h
    refine ⟨h.even.append hx, ?_⟩
    intro line hline
    exact (h.here line hline).append (Exchange.isStill_iff.mp hx).1

end Controller

/-! ## Greeting and suspension -/

namespace Endpoint

variable {e : Endpoint}

theorem greet_obeys (he : e.hasPeer = true) (h : Fresh t) :
    e.greet.run.Obeys (Gated shell) (After fun _ => Even) t := by
  have hopening : (Request.send e.opening).isQuiet = true := by cases e <;> rfl
  rw [greet_run he]
  refine Lasting.fresh.ask hopening h ?_
  intro d t h
  cases d.outcome with
  | error cause => exact h.calm.settled
  | ok u =>
      show e.awaitGreeting.run.Obeys _ _ t
      rw [awaitGreeting_run he]
      -- the one line that is consumed without a break before it
      refine .ask ?_
      intro reply
      obtain ⟨hgated, heven⟩ := h.receive reply
      refine ⟨hgated, ?_⟩
      cases greetingResult (hear reply) with
      | error failure => exact heven.calm.settled
      | ok u => exact Lasting.even.ask rfl heven fun _ t h => h

theorem rest_obeys (delay : Option Nat) {line : UInt32} (h : At line t) :
    (rest delay line).Obeys (Gated shell) (After fun _ => At line) t := by
  cases delay with
  | none => exact (Lasting.at line).ask rfl h fun _ t h => h
  | some milliseconds =>
      refine (Lasting.at line).ask rfl h ?_
      intro _ t h
      exact (Lasting.at line).ask rfl h fun _ t h => h

/-- **A suspension ends with its line acknowledged,** or nothing more is to come. -/
theorem suspend_obeys (he : e.hasPeer = true) (delay : Option Nat) (line : UInt32) (h : Even t) :
    (e.suspend delay line).run.Obeys (Gated shell) (After fun _ => At line) t := by
  rw [suspend_run he]
  refine Lasting.even.ask rfl h fun _ t h => .ask fun d => ?_
  obtain ⟨hgated, hpending⟩ := h.break line d
  refine ⟨hgated, ?_⟩
  cases d.outcome with
  | error cause => exact hpending.settled
  | ok u =>
      refine .ask ?_
      intro reply
      obtain ⟨hgated, hsettled, hresumed⟩ := hpending.receive reply
      refine ⟨hgated, ?_⟩
      cases hreply : resumeResult (hear reply) with
      | error failure => exact hsettled
      | ok u =>
          obtain ⟨heven, hhere⟩ := hresumed hreply
          exact rest_obeys delay ⟨heven, hhere⟩

end Endpoint

/-- **The stepper stands at the line it was called for,** or nothing more is to come. -/
theorem stepper_obeys (shell : String) {e : Endpoint} (he : e.hasPeer = true) (delay : Option Nat)
    (place : Place) {p : Progress} (h : Going p t) :
    ((stepper e delay).line ⟨place, true⟩ p).Obeys (Gated shell)
      (fun r => After (fun _ t => Going r.2 t ∧ r.2.lastLine = some place.line) r.1) t := by
  by_cases hnew : p.lastLine = some place.line
  · rw [stepper_repeated e delay place hnew]
    exact (Lasting.going p).ask rfl h fun _ t h => ⟨h, hnew⟩
  · rw [stepper_new e delay place hnew]
    refine (Endpoint.suspend_obeys he delay place.line h.even).bind ?_
    intro result t h
    cases result with
    | error failure => exact h
    | ok u =>
        -- the progress has advanced to the line that was just acknowledged
        refine ⟨⟨h.even, ?_⟩, rfl⟩
        intro line hline
        rw [← Option.some.inj hline]
        exact h.here

/-! ## Scripts -/

namespace Script

variable {script : List Statement}

/-- The history of a script that runs: even, at the last line of the progress, and loaded. -/
structure Running (script : List Statement) (p : Progress) (t : List Exchange) : Prop where
  going : Going p t
  loaded : Loaded t script

/-- What holds after statements. A fault leaves the history even, as the farewell still follows. -/
def AfterRun (script : List Statement) :
    Except Stop Unit × Progress → List Exchange → Prop
  | (.ok (), p), t => Running script p t
  | (.error (.fault _), _), t => Even t
  | (.error (.aborted _), _), t => Settled t

theorem resolve_obeys (path : String) (h : Even t) :
    (resolve path).run.Obeys (Gated shell) (After fun _ => Even) t := by
  refine Lasting.even.ask (r := .resolve path) rfl h ?_
  intro reply t h
  refine Lasting.even.ask (r := .mark (.resolved path reply.toOption)) rfl h ?_
  intro _ t h
  cases reply with
  | error cause => exact h.calm.settled
  | ok path => exact h

/-- A command runs only at its own line. -/
theorem execute_obeys (shell : String) {s : Statement} (hs : s ∈ script) {p : Progress}
    (h : Running script p t) (hp : p.lastLine = some s.line) :
    (execute shell s).Obeys (Gated shell) (fun _ t => Going p t) t := by
  have hlasting := Lasting.going p
  refine .ask fun reply => ⟨h.going.even.invoke (h.going.here _ hp) h.loaded hs reply, ?_⟩
  have hgoing := hlasting.append t ⟨.invoke ⟨s.line, shell, s.command⟩, reply⟩ rfl h.going
  cases reply with
  | error cause => exact hgoing
  | ok completion =>
      refine hlasting.ask (r := .relay completion.out completion.err) rfl hgoing ?_
      intro d t h
      obtain ⟨accepted, outcome⟩ := d
      cases outcome with
      | error cause => exact h
      | ok u =>
          show Dialogue.Obeys _ _ (if completion.status.succeeded then _ else _) t
          split
          · exact h
          · exact h

variable {e : Endpoint} (he : e.hasPeer = true) (delay : Option Nat) (target : String)
include he

/-- A line that is reached is acknowledged, and the script stays loaded. -/
theorem reach_obeys (line : UInt32) {p : Progress} (h : Running script p t) :
    ((stepper e delay).reach ⟨⟨target, line⟩, true⟩ p).Obeys (Gated shell)
      (fun r => After (fun _ t => Running script r.2 t ∧ r.2.lastLine = some line) r.1) t := by
  have hlasting := Lasting.going p
  refine .ask ?_
  intro reply
  refine ⟨(hlasting.calm t h.going).gated rfl nofun, ?_⟩
  have hgoing := hlasting.append t ⟨.mark (.reached ⟨⟨target, line⟩, true⟩), reply⟩ rfl h.going
  have hline := stepper_obeys shell he delay ⟨target, line⟩ hgoing
  refine (hline.keep Loaded.append (h.loaded.append _ _)).mono ?_
  rintro ⟨result, p'⟩ t h
  cases result with
  | error failure => exact h.1
  | ok u => exact ⟨⟨h.1.1, h.2⟩, h.1.2⟩

/-- **One step of a script:** the line is acknowledged, and then its command runs. -/
theorem step_obeys {s : Statement} (hs : s ∈ script) {p : Progress} (h : Running script p t) :
    (step (stepper e delay) shell target s p).Obeys (Gated shell) (AfterRun script) t := by
  refine (reach_obeys he delay target s.line h).bind ?_
  rintro ⟨result, p'⟩ t h
  cases result with
  | error failure => exact h
  | ok u =>
      obtain ⟨hrunning, hhere⟩ := h
      have hexecute := execute_obeys shell hs hrunning hhere
      refine (hexecute.keep Loaded.append hrunning.loaded).bind ?_
      intro fault t h
      cases fault with
      | none => exact ⟨h.1, h.2⟩
      | some text => exact Lasting.even.ask rfl h.1.even fun _ t h => h

theorem stepTimes_obeys {s : Statement} (hs : s ∈ script) (n : Nat) {p : Progress}
    (h : Running script p t) :
    (stepTimes (stepper e delay) shell target s n p).Obeys (Gated shell) (AfterRun script) t := by
  -- `Running` holds before and after each repetition, also where the line is not new
  induction n generalizing p t with
  | zero => exact h
  | succ n ih =>
      refine (step_obeys he delay target hs h).bind ?_
      rintro ⟨result, p'⟩ t h
      cases result with
      | ok u => exact ih h
      | error stop => exact h

/-- **The statements of a script keep the gate,** however often each of them runs. -/
theorem runStatements_obeys {rest : List Statement} (hrest : rest ⊆ script) {p : Progress}
    (h : Running script p t) :
    (runStatements (stepper e delay) shell target rest p).Obeys (Gated shell) (AfterRun script)
      t := by
  induction rest generalizing p t with
  | nil => exact h
  | cons s rest ih =>
      rw [List.cons_subset] at hrest
      refine (stepTimes_obeys he delay target hrest.1 s.repeats h).bind ?_
      rintro ⟨result, p'⟩ t h
      cases result with
      | ok u => exact ih hrest.2 h
      | error stop => exact h

/-- What holds after a script. -/
def Ended : Except Stop Unit × Progress → List Exchange → Prop
  | (.error (.aborted _), _), t => Settled t
  | _, t => Even t

theorem run_obeys (h : Even t) :
    (run (stepper e delay) shell target Progress.start).Obeys (Gated shell) Ended t := by
  refine .ask ?_
  intro reply
  refine ⟨h.calm.gated rfl nofun, ?_⟩
  have heven := h.append (x := ⟨.load target, reply⟩) rfl
  cases reply with
  | error cause => exact heven
  | ok text =>
      show Dialogue.Obeys _ _ (Dialogue.done (parse text) >>= _ : Talk _) _
      cases hparse : parse text with
      | error flaw => exact heven
      | ok script =>
          have hrunning : Running script .start (t ++ [⟨.load target, .ok text⟩]) :=
            ⟨⟨heven, nofun⟩, target, text, by simp, hparse⟩
          refine (runStatements_obeys he delay target (List.Subset.refl _) hrunning).mono ?_
          rintro ⟨result, p⟩ t h
          cases result with
          | ok u => exact h.going.even
          | error stop =>
              cases stop with
              | fault text => exact h
              | aborted failure => exact h

end Script

/-! ## The session -/

namespace Session

variable {e : Endpoint}

theorem introduce_obeys (he : e.hasPeer = true) (h : Fresh t) :
    (introduce e).run.Obeys (Gated shell) (After fun _ => Even) t := by
  rw [introduce_run]
  refine (Endpoint.greet_obeys he h).bind ?_
  intro result t h
  cases result with
  | ok u => exact h
  | error failure => exact h.note fun _ h => h

theorem close_obeys (h : Even t) :
    e.close.run.Obeys (Gated shell) (fun _ => Even) t := by
  rw [Endpoint.close_run]
  refine Lasting.even.ask rfl h ?_
  intro d t h
  cases d.outcome with
  | error cause => exact h
  | ok u =>
      cases e with
      | stream => exact h
      | loopback => exact h
      | socket name port => exact Lasting.even.ask rfl h fun _ t h => h

theorem bidFarewell_obeys (breaks : Nat) (fault : Option String) (h : Even t) :
    (bidFarewell e breaks fault).Obeys (Gated shell) (fun _ => Settled) t := by
  refine Lasting.even.ask rfl h ?_
  intro d t h
  cases d.outcome with
  | error cause => exact h.calm.settled
  | ok u =>
      refine (close_obeys h).bind ?_
      intro result t h
      cases result with
      | error failure => exact h.calm.settled
      | ok u => exact Lasting.even.ask rfl h fun _ t h => h.calm.settled

theorem conclude_obeys (r : Except Stop Unit × Progress) (h : Script.Ended r t) :
    (conclude e r).Obeys (Gated shell) (fun _ => Settled) t := by
  obtain ⟨result, p⟩ := r
  cases result with
  | ok u => exact bidFarewell_obeys p.breaks none h
  | error stop =>
      cases stop with
      | fault text => exact Lasting.even.ask rfl h fun _ t h => bidFarewell_obeys p.breaks _ h
      | aborted failure => exact Settled.note h fun _ h => h

/-- **A session of a script keeps the gate** from the start. -/
theorem script_obeys (he : e.hasPeer = true) (shell : String) (delay : Option Nat)
    (target : String) :
    (run (Script.engine shell) e delay target).run.Obeys (Gated shell) (fun _ => Settled) [] := by
  rw [run_run]
  refine (introduce_obeys he Fresh.nil).bind ?_
  intro greeted t h
  cases greeted with
  | error failure => exact h
  | ok u =>
      refine (Script.resolve_obeys target h).bind ?_
      intro resolved t h
      cases resolved with
      | error failure => exact h
      | ok path =>
          refine Lasting.even.ask rfl h ?_
          intro _ t h
          refine (Script.run_obeys he delay path h).bind ?_
          intro r t h
          exact conclude_obeys r h

/--
**The client gates the script.** Whatever is answered, at every point of a session of a script
with a client, at most one break waits for its answer; no break, no farewell and no command comes
while one waits; a command is that of a statement of the script at whose line the client last let
the target go on; and after an answer that does not let it go on, only the journal is written.
-/
theorem script_gated {σ : Type} (h : Dialogue.Handler Controller.interface σ) (s : σ)
    (he : e.hasPeer = true) (shell : String) (delay : Option Nat) (target : String) :
    let trace := ((run (Script.engine shell) e delay target).run.run h s).trace
    (∀ t, t <+: trace → breaks t = resumes t ∨ breaks t = resumes t + 1) ∧
      ∀ t x, t ++ [x] <+: trace →
        (x.isAdvance = true → breaks t = resumes t) ∧
        (∀ i, x.request = .invoke i → Acknowledged t i.line ∧
          ∃ script, Loaded t script ∧ ∃ s ∈ script, i = ⟨s.line, shell, s.command⟩) ∧
        ((∃ y ∈ answers t, y.isResume = false) → ∃ record, x.request = .note record) := by
  intro trace
  obtain ⟨hrule, -⟩ := (script_obeys he shell delay target).run h s
  have hgated : ∀ t x, t ++ [x] <+: trace → Gated shell t x := by
    rintro t x ⟨later, hlater⟩
    refine hrule t x later ?_
    rw [← List.append_cons] at hlater
    exact hlater.symm
  constructor
  · intro t ht
    -- the balance after a history is part of what its last exchange has to keep
    rcases List.eq_nil_or_concat t with rfl | ⟨before, x, rfl⟩
    · exact .inl rfl
    · rw [List.concat_eq_append] at ht ⊢
      exact (hgated before x ht).balance
  · intro t x hx
    exact ⟨(hgated t x hx).gate, (hgated t x hx).command, (hgated t x hx).silence⟩

/-- A client that greets and then always goes on, and a host with a script of one command. -/
def agreeable : Dialogue.Handler Controller.interface Bool
  | .send _, greeted | .flush, greeted | .relay _ _, greeted => (⟨[], .ok ()⟩, greeted)
  | .receive, greeted =>
    (.ok (if greeted then Message.resume.bytes else Message.clientInit.bytes), true)
  | .hangUp, greeted => (.ok (), greeted)
  | .resolve path, greeted => (.ok path, greeted)
  | .load _, greeted => (.ok ['l', 's'], greeted)
  | .invoke _, greeted => (.ok ⟨[], [], .exited 0⟩, greeted)
  | .pause _, greeted | .mark _, greeted | .note _, greeted => ((), greeted)

/-- The command of such a script runs, and the client has let its line go before. -/
theorem script_gated_agreeable :
    let trace := ((run (Script.engine "sh") .stream none "t").run.run agreeable false).trace
    ∃ before x, before ++ [x] <+: trace ∧
      x.request = .invoke ⟨1, "sh", String.ofList ['l', 's']⟩ ∧ Acknowledged before 1 := by
  intro trace
  have hgreeting : greetingResult (.ok .clientInit) = .ok () := rfl
  have hresume : resumeResult (.ok .resume) = .ok () := rfl
  have hparse : Script.parse ['l', 's'] = .ok [⟨1, String.ofList ['l', 's'], 1⟩] := rfl
  have hawait := Endpoint.awaitGreeting_run (e := .stream) rfl
  have hpure : (ExceptT.pure "t" : Action String).run = .done (.ok "t") := rfl
  have hreach : ∀ event p, (stepper .stream none).reach event p =
      .ask (.mark (.reached event)) fun _ => (stepper .stream none).line event p := fun _ _ => rfl
  have hline := stepper_new .stream none ⟨"t", 1⟩ (p := .start) nofun
  rw [Endpoint.suspend_run rfl] at hline
  have hrequest : (trace.map (·.request))[12]? =
      some (.invoke ⟨1, "sh", String.ofList ['l', 's']⟩) := by
    show (List.map _ (Dialogue.run _ (ExceptT.run (run _ _ _ _)) _).trace)[12]? = _
    rw [run_run, introduce_run, Endpoint.greet_run rfl]
    simp only [Dialogue.ask_bind, Dialogue.run_ask, agreeable, hawait, if_neg, Bool.false_eq_true,
      not_false_eq_true, hear_bytes, hgreeting, Dialogue.done_bind, onOk]
    simp only [Script.engine, Script.resolve, Script.run, Script.read, ExceptT.run_bind,
      ExceptT.run_liftM, ask, Dialogue.ask_bind, Dialogue.run_ask, Dialogue.map_ask,
      Dialogue.map_done, Dialogue.done_bind, agreeable, pure, hpure, onOk, hparse,
      Script.runStatements, Script.stepTimes, Script.step, hreach, hline, hear_bytes, hresume,
      if_pos, Endpoint.rest, Script.execute, List.map_cons, List.getElem?_cons_succ,
      List.getElem?_cons_zero]
  rw [List.getElem?_map, Option.map_eq_some_iff] at hrequest
  obtain ⟨x, hx, hinvoke⟩ := hrequest
  have hprefix : trace.take 12 ++ [x] <+: trace := by
    have htake : trace.take 13 = trace.take 12 ++ [x] := by rw [List.take_add_one, hx]; rfl
    rw [← htake]
    exact List.take_prefix 13 trace
  obtain ⟨-, hgated⟩ := script_gated agreeable false (e := .stream) rfl "sh" none "t"
  obtain ⟨-, hcommand, -⟩ := hgated _ x hprefix
  exact ⟨trace.take 12, x, hprefix, hinvoke, (hcommand _ hinvoke).1⟩

end Session

end Lockstep
