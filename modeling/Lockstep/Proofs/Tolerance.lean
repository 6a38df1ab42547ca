import Lockstep.Proofs.Subject
import Lockstep.Proofs.Transcript

/-!
# What a session puts up with

A session fails by its client, and by a target that is not there. It never fails by what the target
does: a script that cannot be read, a shell that is missing, a command that fails and output that
does not get out are faults, and a fault is reported by a session that succeeds.

`Healthy` looks at a history and passes over what the target did. A session succeeds just if its
history is healthy (`script_ok_iff_healthy`). The proof carries this along the tree: what goes on is
healthy, and what has failed is not and will not be again.
-/

namespace Lockstep

open Controller Dialogue

variable {α : Type} {e : Endpoint} {t : List Exchange} {x : Exchange}

namespace Controller

/-- The exchange does not end the session: what was to be sent got out, the target was there, and
the connection was closed, or there was none any more. -/
def Exchange.WentWell : Exchange → Prop
  | ⟨.send _, d⟩ | ⟨.flush, d⟩ => Delivery.outcome d = .ok ()
  | ⟨.resolve _, found⟩ => ∃ path, (found : Except SystemError String) = .ok path
  | ⟨.hangUp, reply⟩ => Endpoint.hangUpResult reply = .ok ()
  | _ => True

/-- The client introduced itself. -/
def Exchange.Greets : Exchange → Prop
  | ⟨.receive, reply⟩ => hear reply = .ok .clientInit
  | _ => False

theorem Exchange.greets_receive (reply : Except SystemError Bytes) :
    Exchange.Greets ⟨.receive, reply⟩ ↔ greetingResult (hear reply) = .ok () := by
  rw [Greets]
  cases hear reply with
  | error failure => exact ⟨nofun, nofun⟩
  | ok m => cases m <;> first | exact ⟨fun _ => rfl, fun _ => rfl⟩ | exact ⟨nofun, nofun⟩

/-- Nothing that ends a session has happened: no exchange went wrong, and the client introduced
itself and then let the target go on each time. -/
structure Healthy (t : List Exchange) : Prop where
  well : ∀ x ∈ t, x.WentWell
  greeted : ∀ x ∈ (consumed t).head?, x.Greets
  resumed : ∀ x ∈ answers t, x.isResume = true

namespace Healthy

theorem nil : Healthy [] := ⟨List.forall_mem_nil _, nofun, List.forall_mem_nil _⟩

/-- Where no line is consumed, only the exchange itself counts. -/
theorem append_iff (hx : x.isReceive = false) : Healthy (t ++ [x]) ↔ Healthy t ∧ x.WentWell := by
  have hconsumed : consumed (t ++ [x]) = consumed t := by
    rw [consumed_append, hx, if_neg Bool.false_ne_true, List.append_nil]
  have hanswers : answers (t ++ [x]) = answers t := answers_append hx
  constructor
  · intro h
    obtain ⟨hwell, hx⟩ := List.forall_mem_append.mp h.well
    refine ⟨⟨hwell, ?_, ?_⟩, List.forall_mem_singleton.mp hx⟩
    · rw [← hconsumed]
      exact h.greeted
    · rw [← hanswers]
      exact h.resumed
  · intro hboth
    obtain ⟨h, hx⟩ := hboth
    refine ⟨List.forall_mem_append.mpr ⟨h.well, List.forall_mem_singleton.mpr hx⟩, ?_, ?_⟩
    · rw [hconsumed]
      exact h.greeted
    · rw [hanswers]
      exact h.resumed

theorem last_wentWell (hx : x.isReceive = false) (h : Healthy (t ++ [x])) : x.WentWell :=
  ((append_iff hx).mp h).2

/-- The first line that is consumed has to be the greeting. -/
theorem first_iff (h : consumed t = []) (reply : Except SystemError Bytes) :
    Healthy (t ++ [⟨.receive, reply⟩]) ↔ Healthy t ∧ greetingResult (hear reply) = .ok () := by
  have hconsumed : consumed (t ++ [⟨.receive, reply⟩]) = [⟨.receive, reply⟩] := by
    rw [consumed_append, h]
    rfl
  have hnone : answers t = [] := by
    rw [answers, h]
    rfl
  constructor
  · intro hs
    refine ⟨⟨(List.forall_mem_append.mp hs.well).1, ?_, ?_⟩, ?_⟩
    · rw [h]
      intro x hx
      cases hx
    · rw [hnone]
      exact List.forall_mem_nil _
    · refine (Exchange.greets_receive reply).mp (hs.greeted _ ?_)
      rw [hconsumed]
      rfl
  · intro hboth
    obtain ⟨hs, hreply⟩ := hboth
    refine ⟨List.forall_mem_append.mpr ⟨hs.well, List.forall_mem_singleton.mpr trivial⟩, ?_, ?_⟩
    · rw [hconsumed]
      intro x hx
      obtain rfl := Option.some.inj hx
      exact (Exchange.greets_receive reply).mpr hreply
    · rw [answers_append_first h]
      exact List.forall_mem_nil _

/-- Every later line has to let the target go on. -/
theorem later_iff (h : consumed t ≠ []) (reply : Except SystemError Bytes) :
    Healthy (t ++ [⟨.receive, reply⟩]) ↔ Healthy t ∧ resumeResult (hear reply) = .ok () := by
  have hhead : (consumed (t ++ [⟨.receive, reply⟩])).head? = (consumed t).head? := by
    rw [consumed_append, List.head?_append_of_ne_nil _ h]
  have hanswers : answers (t ++ [⟨.receive, reply⟩]) = answers t ++ [⟨.receive, reply⟩] :=
    answers_append_receive h rfl
  constructor
  · intro hs
    have hresumed := hs.resumed
    rw [hanswers] at hresumed
    obtain ⟨hbefore, hlast⟩ := List.forall_mem_append.mp hresumed
    refine ⟨⟨(List.forall_mem_append.mp hs.well).1, ?_, hbefore⟩, ?_⟩
    · rw [← hhead]
      exact hs.greeted
    · exact (Exchange.isResume_receive reply).mp (hlast _ (List.mem_singleton_self _))
  · intro hboth
    obtain ⟨hs, hreply⟩ := hboth
    refine ⟨List.forall_mem_append.mpr ⟨hs.well, List.forall_mem_singleton.mpr trivial⟩, ?_, ?_⟩
    · rw [hhead]
      exact hs.greeted
    · rw [hanswers]
      exact List.forall_mem_append.mpr ⟨hs.resumed, List.forall_mem_singleton.mpr
        ((Exchange.isResume_receive reply).mpr hreply)⟩

end Healthy

/-- A request by which no session is ended, whatever it is answered with. -/
def Request.isHarmless : Request → Bool
  | .load _ | .invoke _ | .relay _ _ | .pause _ | .mark _ | .note _ => true
  | .send _ | .receive | .flush | .hangUp | .resolve _ => false

theorem Healthy.harmless_iff (h : x.request.isHarmless = true) : Healthy (t ++ [x]) ↔ Healthy t := by
  obtain ⟨r, reply⟩ := x
  cases r with
  | send | receive | flush | hangUp | resolve => exact nomatch h
  | _ => exact (append_iff rfl).trans (and_iff_left trivial)

/-! ## Going on and failing -/

/-- The session goes on: all went well, and a client has introduced itself if there is one. -/
structure Alive (e : Endpoint) (t : List Exchange) : Prop where
  healthy : Healthy t
  heard : e.hasPeer = true → consumed t ≠ []

/-- Whoever answers, the dialogue ends so. -/
abbrev Comes (post : α → List Exchange → Prop) (d : Talk α) (t : List Exchange) : Prop :=
  d.Ends (fun _ => True) post t

/-- An action that was done has kept the session going, and one that failed has ended it. -/
def Judged (e : Endpoint) {ε : Type} : Except ε α → List Exchange → Prop
  | .ok _, t => Alive e t
  | .error _, t => ¬ Healthy t

variable {post : α → List Exchange → Prop}

theorem Alive.append (h : Alive e t) (hx : x.isReceive = false) (hwell : x.WentWell) :
    Alive e (t ++ [x]) :=
  ⟨(Healthy.append_iff hx).mpr ⟨h.healthy, hwell⟩, fun he => consumed_append_ne_nil (h.heard he)⟩

theorem Alive.harmless (h : Alive e t) (hx : x.request.isHarmless = true) : Alive e (t ++ [x]) :=
  ⟨(Healthy.harmless_iff hx).mpr h.healthy, fun he => consumed_append_ne_nil (h.heard he)⟩

theorem Alive.ask {r : Request} {next : Reply r → Talk α} (h : Alive e t)
    (hr : r.isHarmless = true) (hnext : ∀ reply t, Alive e t → Comes post (next reply) t) :
    Comes post (.ask r next) t :=
  .ask fun reply _ => hnext reply _ (h.harmless (x := ⟨r, reply⟩) hr)

/-- A message gets out, or the session is ended. -/
theorem Alive.send {m : Message} {next : Delivery → Talk α} (h : Alive e t)
    (hok : ∀ d t, d.outcome = .ok () → Alive e t → Comes post (next d) t)
    (hfail : ∀ d cause t, d.outcome = .error cause → ¬ Healthy t → Comes post (next d) t) :
    Comes post (.ask (.send m) next) t := by
  refine .ask ?_
  intro d _
  cases houtcome : Delivery.outcome d with
  | ok u => exact hok d _ houtcome (h.append rfl houtcome)
  | error cause =>
      refine hfail d cause _ houtcome ?_
      intro hs
      exact nomatch houtcome.symm.trans (hs.last_wentWell rfl)

/-- A history that is not healthy any more stays so while the journal is written. -/
theorem ask_note {record : Journal.Record} {next : Unit → Talk α} (h : ¬ Healthy t)
    (hnext : ∀ t, ¬ Healthy t → Comes post (next ()) t) :
    Comes post (.ask (.note record) next) t :=
  .ask fun _ _ => hnext _ fun hs => h ((Healthy.harmless_iff rfl).mp hs)

end Controller

/-! ## The parts of a session -/

variable {shell : String} {delay : Option Nat}

namespace Endpoint

theorem greet_judged : Comes (Judged e) e.greet.run [] := by
  have hsend : ∀ d : Delivery, Healthy [⟨.send e.opening, d⟩] ↔ d.outcome = .ok () := by
    intro d
    exact (Healthy.append_iff (t := []) rfl).trans (and_iff_right Healthy.nil)
  cases he : e.hasPeer with
  | false =>
      rw [greet_run_alone he]
      refine .ask fun d _ => ?_
      cases hok : d.outcome with
      | error cause => exact fun hs => nomatch hok.symm.trans ((hsend d).mp hs)
      | ok u =>
          have halive : Alive e [⟨.send e.opening, d⟩] :=
            ⟨(hsend d).mpr hok, fun hpeer => nomatch he.symm.trans hpeer⟩
          exact halive.ask rfl fun _ t h => h
  | true =>
      rw [greet_run he]
      refine .ask fun d _ => ?_
      cases hok : d.outcome with
      | error cause => exact fun hs => nomatch hok.symm.trans ((hsend d).mp hs)
      | ok u =>
          show Comes (Judged e) e.awaitGreeting.run _
          rw [awaitGreeting_run he]
          refine .ask fun reply _ => ?_
          have hfirst := Healthy.first_iff (t := [⟨.send e.opening, d⟩]) rfl reply
          cases hgreeting : greetingResult (hear reply) with
          | error failure => exact fun hs => nomatch hgreeting.symm.trans (hfirst.mp hs).2
          | ok u =>
              have hhealthy := hfirst.mpr ⟨(hsend d).mpr hok, hgreeting⟩
              have halive : Alive e [⟨.send e.opening, d⟩, ⟨.receive, reply⟩] :=
                ⟨hhealthy, fun _ => List.cons_ne_nil _ _⟩
              exact halive.ask rfl fun _ t h => h

theorem rest_judged (line : UInt32) (h : Alive e t) : Comes (Judged e) (rest delay line) t := by
  cases delay with
  | none => exact h.ask rfl fun _ t h => h
  | some milliseconds => exact h.ask rfl fun _ t h => h.ask rfl fun _ t h => h

theorem suspend_judged (line : UInt32) (h : Alive e t) :
    Comes (Judged e) (e.suspend delay line).run t := by
  cases he : e.hasPeer with
  | false =>
      rw [suspend_run_alone he]
      refine h.ask rfl fun _ t h => h.send ?_ ?_
      · intro d t hok h
        rw [hok]
        exact rest_judged line h
      · intro d cause t hfail h
        rw [hfail]
        exact h
  | true =>
      rw [suspend_run he]
      refine h.ask rfl fun _ t h => h.send ?_ ?_
      · intro d t hok h
        rw [hok]
        refine .ask fun reply _ => ?_
        have hlater := Healthy.later_iff (h.heard he) reply
        cases hreply : resumeResult (hear reply) with
        | error failure => exact fun hs => nomatch hreply.symm.trans (hlater.mp hs).2
        | ok u =>
            exact rest_judged line
              ⟨hlater.mpr ⟨h.healthy, hreply⟩, fun _ => consumed_append_ne_nil (h.heard he)⟩
      · intro d cause t hfail h
        rw [hfail]
        exact h

theorem close_judged (h : Alive e t) : Comes (Judged e) e.close.run t := by
  rw [close_run]
  refine .ask fun d _ => ?_
  cases hok : d.outcome with
  | error cause => exact fun hs => nomatch hok.symm.trans (hs.last_wentWell rfl)
  | ok u =>
      have hflush : Alive e (t ++ [⟨.flush, d⟩]) := h.append rfl hok
      cases e with
      | stream => exact hflush
      | loopback => exact hflush
      | socket name port =>
          refine .ask fun reply _ => ?_
          cases hreply : hangUpResult reply with
          | ok u => exact hflush.append rfl hreply
          | error failure => exact fun hs => nomatch hreply.symm.trans (hs.last_wentWell rfl)

end Endpoint

theorem stepper_judged (event : LineEvent) (p : Progress) (h : Alive e t) :
    Comes (fun r => Judged e r.1) ((stepper e delay).line event p) t := by
  obtain ⟨place, inTarget⟩ := event
  cases inTarget with
  | false => exact h
  | true =>
      by_cases hold : p.lastLine = some place.line
      · rw [stepper_repeated e delay place hold]
        exact h.ask rfl fun _ t h => h
      · rw [stepper_new e delay place hold]
        exact (Endpoint.suspend_judged place.line h).bind fun result t h => h

/-- A fault of the target leaves the session going. -/
def Survived (e : Endpoint) : Except Stop Unit × Progress → List Exchange → Prop
  | (.error (.aborted _), _), t => ¬ Healthy t
  | _, t => Alive e t

/-- **Going through places** keeps the session going if what happens there does. -/
theorem visit_judged {stations : List Station}
    (hact : ∀ x ∈ stations, ∀ t, Alive e t → Comes (fun _ => Alive e) x.act t) (p : Progress)
    (h : Alive e t) : Comes (Survived e) (visit (stepper e delay) stations p) t := by
  induction stations generalizing p t with
  | nil => exact h
  | cons x rest ih =>
      obtain ⟨hx, hrest⟩ := List.forall_mem_cons.mp hact
      rw [visit_cons]
      refine h.ask rfl fun _ t h => (stepper_judged x.event p h).bind ?_
      intro r t h
      obtain ⟨result, p⟩ := r
      cases result with
      | error failure => exact h
      | ok u =>
          refine (hx t h).bind ?_
          intro fault t h
          cases fault with
          | none => exact ih hrest p h
          | some text => exact h.ask rfl fun _ t h => h

namespace Script

/-- Whatever becomes of a command and of its output, the session goes on. -/
theorem execute_alive (s : Statement) (h : Alive e t) :
    Comes (fun _ => Alive e) (execute shell s) t := by
  refine h.ask rfl ?_
  intro reply t h
  cases reply with
  | error cause => exact h
  | ok completion =>
      refine h.ask rfl ?_
      intro d t h
      obtain ⟨accepted, outcome⟩ := d
      cases outcome with
      | error cause => exact h
      | ok u =>
          show Dialogue.Ends _ _ (if completion.status.succeeded then _ else _) t
          split <;> exact h

/-- Whatever becomes of a script that was found, only its client can end the session. -/
theorem run_judged (path : String) (h : Alive e t) :
    Comes (Survived e) ((engine shell).run (stepper e delay) path Progress.start) t := by
  show Comes (Survived e) ((Subject.script shell).engine.run (stepper e delay) path Progress.start) t
  rw [Subject.run_eq, Subject.read, ask_bind]
  refine h.ask rfl ?_
  intro reply t h
  cases reply with
  | error cause => exact h
  | ok text =>
      dsimp only
      cases parse text with
      | error flaw => exact h
      | ok statements =>
          have hstations : ∀ x ∈ stations shell path statements,
              ∀ t, Alive e t → Comes (fun _ => Alive e) x.act t :=
            forall_stations fun s t h => execute_alive s h
          show Comes (Survived e) (visit (stepper e delay) _ Progress.start >>= _) t
          refine Ends.bind (visit_judged hstations Progress.start h) ?_
          intro r t h
          obtain ⟨result, p⟩ := r
          cases result with
          | ok u => exact h
          | error stop => cases stop <;> exact h

end Script

namespace Session

theorem bidFarewell_judged (breaks : Nat) (fault : Option String) (h : Alive e t) :
    Comes (Judged e) (bidFarewell e breaks fault) t := by
  refine h.send ?_ ?_
  · intro d t hok h
    rw [hok]
    refine (Endpoint.close_judged h).bind ?_
    intro result t h
    cases result with
    | ok u => exact h.ask rfl fun _ t h => h
    | error failure => exact h
  · intro d cause t hfail h
    rw [hfail]
    exact h

theorem conclude_judged (r : Except Stop Unit × Progress) (h : Survived e r t) :
    Comes (Judged e) (conclude e r) t := by
  obtain ⟨result, p⟩ := r
  cases result with
  | ok u => exact bidFarewell_judged p.breaks none h
  | error stop =>
      cases stop with
      | fault text => exact h.ask rfl fun _ t h => bidFarewell_judged p.breaks _ h
      | aborted failure => exact ask_note h fun _ h => h

theorem introduce_judged : Comes (Judged e) (introduce e).run [] := by
  rw [introduce_run]
  refine Endpoint.greet_judged.bind ?_
  intro result t h
  cases result with
  | ok u => exact h
  | error failure => exact ask_note h fun _ h => h

theorem script_judged (target : String) :
    Comes (Judged e) (run (Script.engine shell) e delay target).run [] := by
  rw [run_run]
  refine introduce_judged.bind ?_
  intro result t h
  cases result with
  | error failure => exact h
  | ok u =>
      show Comes (Judged e) (((Subject.script shell).engine.resolve target).run >>= _) t
      rw [Subject.script_resolve_run]
      refine .ask fun found _ => ?_
      cases found with
      | error cause =>
          refine .ask fun _ _ hs => ?_
          obtain ⟨path, hpath⟩ := ((Healthy.harmless_iff rfl).mp hs).last_wentWell rfl
          exact nomatch hpath
      | ok path =>
          have halive : Alive e (t ++ [⟨.resolve target, .ok path⟩]) := h.append rfl ⟨path, rfl⟩
          refine halive.ask rfl fun _ t h => h.ask rfl fun _ t h => ?_
          exact (Script.run_judged path h).bind fun r t h => conclude_judged r h

/-- **A session of a script succeeds just if nothing that ends a session happens in it,** whoever
answers; what the target does is nothing of this kind. -/
theorem script_ok_iff_healthy {σ : Type} (h : Handler Controller.interface σ) (s : σ)
    (target : String) :
    let o := (run (Script.engine shell) e delay target).run.run h s
    (∃ report, o.value = .ok report) ↔ Healthy o.trace := by
  intro o
  have hjudged : Judged e o.value o.trace :=
    (script_judged target).run (fun _ _ => trivial) s
  cases hvalue : o.value with
  | ok report =>
      rw [hvalue] at hjudged
      exact iff_of_true ⟨report, rfl⟩ hjudged.healthy
  | error failure =>
      rw [hvalue] at hjudged
      exact iff_of_false nofun hjudged

end Session

end Lockstep
