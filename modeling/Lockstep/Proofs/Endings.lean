import Lockstep.Proofs.Subject
import Lockstep.Proofs.Transcript

/-!
# How the parts of a session end

Part by part, `Ends` carries the state of the history through a session, for any client, any host,
and a connection that may fail at any byte. A failure leaves what `Failed` says of its kind; the
only kind of which nothing is said is that of the connection. The places of a target are gone
through once here, for both kinds of targets, and what happens between two of them only has to be
quiet.
-/

namespace Lockstep

open Controller

variable {e : Endpoint} {t : List Exchange}

/-- What a failed suspension shows. -/
def Failed (e : Endpoint) : SessionError → List Exchange → Prop
  | .io _, _ => True
  | .violation _ _, t | .malformed _ _, t | .closed, t => Refused e t
  | .handshakeFailed _, _ | .targetUnavailable _ _, _ => False

theorem Controller.Steady.failed (failure : SessionError) : Steady (Failed e failure) := by
  intro t x hx h
  cases failure with
  | io cause => trivial
  | violation | malformed | closed => exact Steady.refused t x hx h
  | handshakeFailed | targetUnavailable => exact h

/-! ## Greeting and suspension -/

/-- What a greeting shows. -/
def Introduced (e : Endpoint) : Except SessionError Unit → List Exchange → Prop
  | .ok (), t => Greeted e t ∧ Idle t
  | .error (.handshakeFailed _), t => Told e [] t ∧ Idle t
  | .error failure, _ => ∃ cause, failure = .io cause

/-- Whatever is wrong with the answer to the opening fails the handshake. -/
theorem greetingResult_error {heard : Except SessionError Message} {failure : SessionError}
    (h : greetingResult heard = .error failure) : ∃ reason, failure = .handshakeFailed reason := by
  cases heard with
  | error cause => exact ⟨_, (Except.error.inj h).symm⟩
  | ok m =>
      rw [greetingResult, heed] at h
      split at h
      · cases h
      · exact ⟨_, (Except.error.inj h).symm⟩

/-- What is wrong with the answer to a break is its own kind of failure. -/
theorem failed_of_refused (h : Refused e t) {reply : Except SystemError Bytes}
    {failure : SessionError} (hreply : resumeResult (hear reply) = .error failure) :
    Failed e failure t := by
  cases reply with
  | error cause =>
      obtain rfl : .io cause = failure := Except.error.inj hreply
      trivial
  | ok line =>
      cases failsResume_of_error hreply with
      | nothing hline => cases hline <;> exact h
      | other _ _ => exact h

namespace Endpoint

theorem greet_ends : e.greet.run.Ends Exchange.Fair (Introduced e) [] := by
  -- the opening gets to the client whole, or its delivery fails
  have hopening : ∀ d : Delivery, d.Conveys e.opening.bytes → d.outcome = .ok () →
      Told e [] [⟨.send e.opening, d⟩] := by
    intro d hd hok
    show d.accepted.flatten ++ [] = e.opening.bytes ++ []
    rw [hd.whole hok]
  cases he : e.hasPeer with
  | false =>
      rw [greet_run_alone he]
      refine .ask fun d hd => ?_
      cases hok : d.outcome with
      | error cause => exact ⟨cause, rfl⟩
      | ok u =>
          have htold := hopening d hd hok
          refine .ask fun _ _ => ⟨⟨?_, ?_⟩, ?_⟩
          · rw [Told, sent_append, List.nil_append, htold]
            exact List.append_nil _
          · rw [he]
            rfl
          · simp [Idle, Request.isEngine]
  | true =>
      rw [greet_run he]
      refine .ask fun d hd => ?_
      cases hok : d.outcome with
      | error cause => exact ⟨cause, rfl⟩
      | ok u =>
          have htold := hopening d hd hok
          show e.awaitGreeting.run.Ends _ _ _
          rw [awaitGreeting_run he]
          refine .ask fun reply _ => ?_
          -- the answer has been waited for, and nothing else was sent
          have hheard : Greeted e [⟨.send e.opening, d⟩, ⟨.receive, reply⟩] := by
            refine ⟨?_, by rw [he]; rfl⟩
            exact (sent_append [_] _).trans ((List.append_nil _).trans htold)
          have hidle : Idle [⟨.send e.opening, d⟩, ⟨.receive, reply⟩] := by
            simp [Idle, Request.isEngine]
          cases hgreeting : greetingResult (hear reply) with
          | ok u => exact .ask fun _ _ => ⟨Steady.greeted _ _ rfl hheard, hidle.append rfl⟩
          | error failure =>
              obtain ⟨reason, rfl⟩ := greetingResult_error hgreeting
              exact ⟨hheard.told, hidle⟩

theorem rest_ends (delay : Option Nat) (line : UInt32) (h : Stepped e t) :
    (rest delay line).Ends Exchange.Fair (fun r t => r = .ok () ∧ Stepped e t) t := by
  cases delay with
  | none => exact Steady.stepped.ask rfl h fun _ t h => ⟨rfl, h⟩
  | some milliseconds =>
      refine Steady.stepped.ask rfl h ?_
      intro _ t h
      exact Steady.stepped.ask rfl h fun _ t h => ⟨rfl, h⟩

/-- What holds after an action that suspends the target. -/
def Suspended (e : Endpoint) : Except SessionError Unit → List Exchange → Prop
  | .ok (), t => Stepped e t
  | .error failure, t => Failed e failure t

/-- **A suspension ends with its break answered,** or its failure says why not. -/
theorem suspend_ends (delay : Option Nat) (line : UInt32) (h : Stepped e t) :
    (e.suspend delay line).run.Ends Exchange.Fair (Suspended e) t := by
  have hrest : ∀ t, Stepped e t → (rest delay line).Ends Exchange.Fair (Suspended e) t := by
    intro t h
    refine (rest_ends delay line h).mono ?_
    rintro _ t ⟨rfl, h⟩
    exact h
  cases he : e.hasPeer with
  | false =>
      rw [suspend_run_alone he]
      refine Steady.stepped.ask rfl h fun _ t h => .ask fun d hd => ?_
      cases hok : d.outcome with
      | error cause => trivial
      | ok u =>
          obtain ⟨row, htold, -⟩ := h
          exact hrest _ ⟨row ++ [line], htold.break line hd hok, by simp [he]⟩
  | true =>
      rw [suspend_run he]
      refine Steady.stepped.ask rfl h fun _ t h => .ask fun d hd => ?_
      cases hok : d.outcome with
      | error cause => trivial
      | ok u =>
          obtain ⟨row, htold, hpeer⟩ := h
          obtain ⟨hheard, hrow⟩ := hpeer he
          have htold := htold.break line hd hok
          have hheard := consumed_append_ne_nil (x := ⟨.send (.breakAt line), d⟩) hheard
          have hrow : row.length = resumes (t ++ [⟨.send (.breakAt line), d⟩]) := by
            rw [resumes_append rfl]
            exact hrow
          refine .ask fun reply _ => ?_
          cases hreply : resumeResult (hear reply) with
          | ok u => exact hrest _ (htold.resume hheard hrow hreply)
          | error failure => exact failed_of_refused (htold.refuse hheard hrow hreply) hreply

end Endpoint

open Endpoint (Suspended)

/-! ## Running a target -/

theorem stepper_ends (delay : Option Nat) (event : LineEvent) (p : Progress) (h : Stepped e t) :
    ((stepper e delay).line event p).Ends Exchange.Fair (fun r => Suspended e r.1) t := by
  obtain ⟨place, inTarget⟩ := event
  cases inTarget with
  | false => exact h
  | true =>
      by_cases hnew : p.lastLine = some place.line
      · rw [stepper_repeated e delay place hnew]
        exact Steady.stepped.ask rfl h fun _ t h => h
      · rw [stepper_new e delay place hnew]
        exact (Endpoint.suspend_ends delay place.line h).bind fun result t h => h

/-- What holds after a run of a target; a fault is no failure of the session. -/
def Ran (e : Endpoint) : Except Stop Unit × Progress → List Exchange → Prop
  | (.error (.aborted failure), _), t => Failed e failure t
  | _, t => Stepped e t

/-- What happens between two places sends nothing. -/
def Station.Quiet (e : Endpoint) (x : Station) : Prop :=
  ∀ t, Stepped e t → x.act.Ends Exchange.Fair (fun _ => Stepped e) t

/-- **Going through places,** every break is answered before the next place. -/
theorem visit_ends (delay : Option Nat) {stations : List Station}
    (hquiet : ∀ x ∈ stations, x.Quiet e) (p : Progress) (h : Stepped e t) :
    (visit (stepper e delay) stations p).Ends Exchange.Fair (Ran e) t := by
  induction stations generalizing p t with
  | nil => exact h
  | cons x rest ih =>
      obtain ⟨hx, hrest⟩ := List.forall_mem_cons.mp hquiet
      rw [visit_cons]
      refine Steady.stepped.ask rfl h fun _ t h => (stepper_ends delay x.event p h).bind ?_
      rintro ⟨result, p⟩ t h
      cases result with
      | error failure => exact h
      | ok u =>
          refine (hx t h).bind ?_
          intro fault t h
          cases fault with
          | none => exact ih hrest p h
          | some text => exact Steady.stepped.ask rfl h fun _ t h => h

theorem Script.execute_ends (shell : String) (s : Statement) (h : Stepped e t) :
    (execute shell s).Ends Exchange.Fair (fun _ => Stepped e) t := by
  refine Steady.stepped.ask rfl h ?_
  intro reply t h
  cases reply with
  | error cause => exact h
  | ok completion =>
      refine Steady.stepped.ask rfl h ?_
      intro d t h
      obtain ⟨accepted, outcome⟩ := d
      cases outcome with
      | error cause => exact h
      | ok u =>
          show Dialogue.Ends _ _ (if completion.status.succeeded then _ else _) t
          split <;> exact h

theorem Script.stations_quiet (shell target : String) (script : List Statement) :
    ∀ x ∈ stations shell target script, x.Quiet e :=
  forall_stations fun s _ h => execute_ends shell s h

theorem Engine.stations_quiet (target : String) (lines : List (UInt32 × Bool)) :
    ∀ x ∈ lines.map (station target), x.Quiet e :=
  List.forall_mem_map.mpr fun _ _ _ h => h

namespace Subject

theorem read_ends (subject : Subject) (target : String) (h : Stepped e t) :
    (subject.read target).Ends Exchange.Fair
      (fun r t => Stepped e t ∧ ∀ stations fault, r = .ok (stations, fault) →
        ∀ x ∈ stations, x.Quiet e) t := by
  cases subject with
  | replay found lines fault =>
      refine ⟨h, ?_⟩
      rintro _ _ ⟨⟩
      exact Engine.stations_quiet target lines
  | script shell =>
      refine Steady.stepped.ask rfl h ?_
      intro reply t h
      cases reply with
      | error cause => exact ⟨h, nofun⟩
      | ok text =>
          dsimp only
          cases Script.parse text with
          | error flaw => exact ⟨h, nofun⟩
          | ok statements =>
              refine ⟨h, ?_⟩
              rintro _ _ ⟨⟩
              exact Script.stations_quiet shell target statements

theorem run_ends (subject : Subject) (delay : Option Nat) (target : String) (h : Stepped e t) :
    (subject.engine.run (stepper e delay) target Progress.start).Ends Exchange.Fair (Ran e) t := by
  rw [run_eq]
  refine (subject.read_ends target h).bind ?_
  rintro r t ⟨h, hquiet⟩
  cases r with
  | error fault => exact h
  | ok r =>
      obtain ⟨stations, fault⟩ := r
      refine (visit_ends delay (hquiet stations fault rfl) Progress.start h).bind ?_
      rintro ⟨result, p⟩ t h
      cases result with
      | error stop => exact h
      | ok u => cases fault <;> exact h

/-- A target that is not there shows so before anything of it runs. -/
theorem resolve_ends (subject : Subject) (path : String) (h : Greeted e t) (hidle : Idle t) :
    (subject.engine.resolve path).run.Ends Exchange.Fair
      (fun r t => Greeted e t ∧ Unrun t ∧
        ∀ failure, r = .error failure → ∃ path cause, failure = .targetUnavailable path cause) t := by
  have hresolution : ∀ found failure, resolution path found = .error failure →
      ∃ path cause, failure = .targetUnavailable path cause := by
    intro found failure hfound
    cases found with
    | ok path => exact absurd hfound nofun
    | error cause => exact ⟨path, cause, (Except.error.inj hfound).symm⟩
  cases subject with
  | replay found lines fault =>
      rw [replay_resolve_run]
      exact .ask fun _ _ => ⟨Steady.greeted _ _ rfl h, hidle.unrun.append rfl, hresolution _⟩
  | script shell =>
      rw [script_resolve_run]
      refine .ask fun found _ => .ask fun _ _ => ⟨?_, ?_, hresolution found⟩
      · exact Steady.greeted _ _ rfl (Steady.greeted _ _ rfl h)
      · exact (hidle.unrun.append rfl).append rfl

end Subject

/-! ## The end of a session -/

/-- What the end of a session shows in which a target was run. -/
def Concluded (e : Endpoint) : Except SessionError Report → List Exchange → Prop
  | .ok _, t => Dismissed e t
  | .error failure, t => Failed e failure t

/-- What the end of a session shows that was greeted. -/
def Proceeded (e : Endpoint) : Except SessionError Report → List Exchange → Prop
  | .error (.targetUnavailable _ _), t => Greeted e t ∧ Unrun t
  | result, t => Concluded e result t

namespace Session

theorem close_ends (h : Dismissed e t) :
    e.close.run.Ends Exchange.Fair
      (fun r t => Dismissed e t ∧ ∀ failure, r = .error failure → ∃ cause, failure = .io cause)
      t := by
  rw [Endpoint.close_run]
  refine .ask fun d hd => ?_
  have hflush : Dismissed e (t ++ [⟨.flush, d⟩]) := by
    obtain ⟨row, hsent⟩ := h
    have hnothing : d.accepted.flatten = [] := List.prefix_nil.mp hd.part
    refine ⟨row, ?_⟩
    rw [sent_append, hsent]
    exact (congrArg _ hnothing).trans (List.append_nil _)
  cases d.outcome with
  | error cause =>
      refine ⟨hflush, ?_⟩
      rintro failure ⟨⟩
      exact ⟨cause, rfl⟩
  | ok u =>
      cases e with
      | stream => exact ⟨hflush, by rintro failure ⟨⟩⟩
      | loopback => exact ⟨hflush, by rintro failure ⟨⟩⟩
      | socket name port =>
          refine Steady.dismissed.ask rfl hflush fun reply t h => ⟨h, ?_⟩
          intro failure hfailure
          cases reply with
          | ok u =>
              rw [Endpoint.hangUpResult] at hfailure
              cases hfailure
          | error cause =>
              rw [Endpoint.hangUpResult] at hfailure
              split at hfailure
              · cases hfailure
              · exact ⟨cause, (Except.error.inj hfailure).symm⟩

theorem bidFarewell_ends (breaks : Nat) (fault : Option String) (h : Stepped e t) :
    (bidFarewell e breaks fault).Ends Exchange.Fair (Concluded e) t := by
  refine .ask fun d hd => ?_
  cases hok : d.outcome with
  | error cause => trivial
  | ok u =>
      have hdismissed : Dismissed e (t ++ [⟨.send .finish, d⟩]) := by
        obtain ⟨row, htold, -⟩ := h
        refine ⟨row, ?_⟩
        rw [sent_append, htold]
        exact congrArg _ (hd.whole hok)
      refine (close_ends hdismissed).bind ?_
      rintro result t ⟨h, hresult⟩
      cases result with
      | ok u => exact Steady.dismissed.ask rfl h fun _ t h => h
      | error failure =>
          obtain ⟨cause, rfl⟩ := hresult failure rfl
          trivial

theorem conclude_ends (r : Except Stop Unit × Progress) (h : Ran e r t) :
    (conclude e r).Ends Exchange.Fair (Concluded e) t := by
  obtain ⟨result, p⟩ := r
  cases result with
  | ok u => exact bidFarewell_ends p.breaks none h
  | error stop =>
      cases stop with
      | fault text => exact Steady.stepped.ask rfl h fun _ t h => bidFarewell_ends p.breaks _ h
      | aborted failure => exact (Steady.failed failure).ask rfl h fun _ t h => h

theorem introduce_ends : (introduce e).run.Ends Exchange.Fair (Introduced e) [] := by
  rw [introduce_run]
  refine Endpoint.greet_ends.bind ?_
  intro result t h
  cases result with
  | ok u => exact h
  | error failure =>
      refine .ask fun _ _ => ?_
      cases failure with
      | handshakeFailed reason => exact ⟨Steady.told _ _ rfl h.1, h.2.append rfl⟩
      | _ => exact h

/-- Runs a target that was found. -/
def advance (engine : Engine) (e : Endpoint) (delay : Option Nat) (path : String) :
    Talk (Except SessionError Report) :=
  .ask (.note ⟨.info, .session, "running target", [("target", path)]⟩) fun _ =>
    engine.run (stepper e delay) path Progress.start >>= conclude e

theorem advance_ends (subject : Subject) (delay : Option Nat) (path : String)
    (h : Greeted e t) :
    (advance subject.engine e delay path).Ends Exchange.Fair (Concluded e) t :=
  Steady.stepped.ask rfl h.stepped fun _ _ h =>
    (subject.run_ends delay path h).bind fun r _ h => conclude_ends r h

/-- Goes on when the client has been greeted. -/
def proceed (engine : Engine) (e : Endpoint) (delay : Option Nat) (target : String) :
    Talk (Except SessionError Report) :=
  (engine.resolve target).run >>= onOk (advance engine e delay)

theorem proceed_ends (subject : Subject) (delay : Option Nat) (target : String)
    (h : Greeted e t) (hidle : Idle t) :
    (proceed subject.engine e delay target).Ends Exchange.Fair (Proceeded e) t := by
  refine (subject.resolve_ends target h hidle).bind ?_
  rintro result t ⟨h, hunrun, hresult⟩
  cases result with
  | error failure =>
      obtain ⟨path, cause, rfl⟩ := hresult failure rfl
      exact ⟨h, hunrun⟩
  | ok path =>
      refine (advance_ends subject delay path h).mono ?_
      intro result t h
      cases result with
      | ok report => exact h
      | error failure =>
          cases failure with
          | targetUnavailable => exact h.elim
          | _ => exact h

end Session

end Lockstep
