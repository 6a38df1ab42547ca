import Lockstep.Proofs.Causality

/-!
# A session without a client

At a loopback nothing is waited for, and the target runs as if a client let it go on at every break.
`HeldUp` makes this precise: the second of two dialogues is the first one, except that it may wait
for a line after a break, and goes on as the first one does if this line lets it. The session over a
stream is the session at a loopback held up in this way, part by part and so as a whole, once the
greetings are over. `HeldUp.run` takes it to runs: a client that answers every break in this way
makes no difference.
-/

namespace Lockstep

open Controller
open Line (Says)
open Source (linesOf lineAt lineAt_tail Supplies)

variable {η α β : Type}

namespace Controller

/-- The second dialogue is the first one, but may wait for leave to go on after a break. The first
one waits for nothing, and its value is one of these. -/
def HeldUp (good : α → Prop) : Talk α → Talk α → Prop
  | .done a, d => good a ∧ d = .done a
  | .ask r next, d => r.isWait = false ∧ ∃ next', d = .ask r next' ∧ ∀ reply,
      HeldUp good (next reply) (next' reply) ∨
      Exchange.isBreak ⟨r, reply⟩ = true ∧ ∃ later, next' reply = .ask .receive later ∧
        ∀ answer, resumeResult (hear answer) = .ok () → HeldUp good (next reply) (later answer)

namespace HeldUp

variable {good : α → Prop} {good' : β → Prop} {d d' : Talk α}

theorem done {a : α} (h : good a) : HeldUp good (.done a) (.done a) := ⟨h, rfl⟩

/-- A request after which nothing is waited for. -/
theorem ask {r : Request} {next next' : Reply r → Talk α} (hr : r.isWait = false)
    (h : ∀ reply, HeldUp good (next reply) (next' reply)) :
    HeldUp good (.ask r next) (.ask r next') :=
  ⟨hr, next', rfl, fun reply => .inl (h reply)⟩

/-- What waits for nothing is not held up. -/
theorem of_deaf (h : Deaf good d) : HeldUp good d d := by
  induction d with
  | done a => exact .done h
  | ask r next ih => exact .ask h.1 fun reply => ih reply (h.2 reply)

/-- The first dialogue waits for nothing. -/
theorem deaf (h : HeldUp good d d') : Deaf good d := by
  induction d generalizing d' with
  | done a => exact .done h.1
  | ask r next ih =>
      obtain ⟨hr, next', rfl, hnext⟩ := h
      refine .ask hr fun reply => ?_
      rcases hnext reply with h | ⟨hbreak, later, -, h⟩
      · exact ih reply h
      · exact ih reply (h (.ok Message.resume.bytes) (by rw [hear_bytes]; rfl))

/-- One dialogue after another. -/
theorem bind {f f' : α → Talk β} (h : HeldUp good d d')
    (hf : ∀ a, good a → HeldUp good' (f a) (f' a)) : HeldUp good' (d >>= f) (d' >>= f') := by
  induction d generalizing d' with
  | done a =>
      obtain ⟨ha, rfl⟩ := h
      exact hf a ha
  | ask r next ih =>
      obtain ⟨hr, next', rfl, hnext⟩ := h
      refine ⟨hr, fun reply => next' reply >>= f', rfl, fun reply => ?_⟩
      rcases hnext reply with h | ⟨hbreak, later, hlater, h⟩
      · exact .inl (ih reply h)
      · refine .inr ⟨hbreak, fun answer => later answer >>= f', ?_, ?_⟩
        · exact congrArg (· >>= f') hlater
        · exact fun answer hanswer => ih reply (h answer hanswer)

end HeldUp

/-- The exchanges but those in which a line was waited for. -/
def unheard (t : List Exchange) : List Exchange := t.filter fun x => !x.isReceive

theorem sent_unheard (t : List Exchange) : sent (unheard t) = sent t := by
  induction t with
  | nil => rfl
  | cons x rest ih =>
      have hcons : sent (x :: rest) = x.sent ++ sent rest := List.flatMap_cons
      rw [unheard, List.filter_cons, hcons]
      cases hx : x.isReceive with
      | false => exact congrArg (x.sent ++ ·) ih
      | true =>
          have hnothing : x.sent = [] := by
            obtain ⟨r, reply⟩ := x
            cases r <;> first | rfl | exact nomatch hx
          rw [hnothing]
          exact ih

theorem executed_unheard (t : List Exchange) : executed (unheard t) = executed t := by
  rw [executed, unheard, List.filterMap_filter]
  refine List.filterMap_congr ?_
  rintro ⟨r, reply⟩ -
  cases r <;> rfl

theorem unheard_cons {x : Exchange} (hx : x.request ≠ .receive) (t : List Exchange) :
    unheard (x :: t) = x :: unheard t := by
  obtain ⟨r, reply⟩ := x
  cases r with
  | receive => exact absurd rfl hx
  | _ => rfl

theorem breaks_cons (x : Exchange) (t : List Exchange) :
    breaks (x :: t) = breaks t + if x.isBreak then 1 else 0 := List.countP_cons

/-- **A client that lets the target go on after every break makes no difference.** -/
theorem HeldUp.run {good : α → Prop} {d d' : Talk α} (h : HeldUp good d d') (host : Host η)
    {w : World η} {s : Source} {lines : List Bytes} (hs : s.Supplies lines) :
    let o := d.run (World.answer host) w
    let o' := d'.run (World.answer host) { w with source := s }
    (∀ k, k < breaks o.trace → Says (lineAt lines k) .resume) →
      o'.value = o.value ∧ unheard o'.trace = o.trace := by
  induction d generalizing d' w s lines with
  | done a =>
      obtain ⟨-, rfl⟩ := h
      exact fun _ => ⟨rfl, rfl⟩
  | ask r next ih =>
      obtain ⟨hwait, next', rfl, hnext⟩ := h
      obtain ⟨hr, -⟩ := Request.isWait_eq_false_iff.mp hwait
      obtain ⟨-, hanswer⟩ := answer_source host w s hr
      dsimp only
      rw [Dialogue.run_ask, Dialogue.run_ask, hanswer]
      dsimp only
      rw [breaks_cons, unheard_cons hr]
      intro hlines
      rcases hnext (World.answer host r w).1 with hgoes | ⟨hbreak, later, hlater, hgoes⟩
      · have hrest := ih _ (w := (World.answer host r w).2) hgoes hs fun k hk =>
          hlines k (Nat.lt_add_right _ hk)
        exact ⟨hrest.1, congrArg _ hrest.2⟩
      · -- the break is answered by the first line, and the later breaks by those after it
        rw [hbreak, if_pos rfl] at hlines
        obtain ⟨hread, hleft⟩ := hs.readLine
        have hreply : (World.answer host .receive
            { (World.answer host r w).2 with source := s }).1 = .ok (lineAt lines 0) := hread
        have hresume : resumeResult (hear (.ok (lineAt lines 0))) = .ok () :=
          resumeResult_eq_ok.mpr (hlines 0 (Nat.succ_pos _))
        have hrest := ih _ (w := (World.answer host r w).2) (hgoes _ hresume) hleft fun k hk => by
          rw [lineAt_tail]
          exact hlines (k + 1) (Nat.succ_lt_succ hk)
        rw [hlater, Dialogue.run_ask, hreply]
        exact ⟨hrest.1, congrArg _ hrest.2⟩

end Controller

/-! ## The parts of a session -/

variable {e : Endpoint}

/-- A suspension waits for nothing, or for leave to go on. -/
theorem Endpoint.suspend_heldUp (he : e.hasPeer = true) (delay : Option Nat) (line : UInt32) :
    HeldUp Unhindered (loopback.suspend delay line).run (e.suspend delay line).run := by
  rw [suspend_run_alone rfl, suspend_run he]
  refine .ask rfl fun _ => ⟨rfl, _, rfl, fun delivery => ?_⟩
  dsimp only
  cases delivery.outcome with
  | error cause => exact .inl (.done ⟨cause, rfl⟩)
  | ok u =>
      refine .inr ⟨rfl, _, rfl, fun answer hanswer => ?_⟩
      rw [hanswer]
      exact .of_deaf (rest_deaf delay line)

theorem stepper_heldUp (he : e.hasPeer = true) (delay : Option Nat) (event : LineEvent)
    (p : Progress) :
    HeldUp (fun r => Unhindered r.1) ((stepper .loopback delay).line event p)
      ((stepper e delay).line event p) := by
  obtain ⟨place, inTarget⟩ := event
  cases inTarget with
  | false => exact .done trivial
  | true =>
      by_cases hnew : p.lastLine = some place.line
      · rw [stepper_repeated _ delay place hnew, stepper_repeated e delay place hnew]
        exact .ask rfl fun _ => .done trivial
      · rw [stepper_new _ delay place hnew, stepper_new e delay place hnew]
        exact (Endpoint.suspend_heldUp he delay place.line).bind fun _ h => .done h

/-- Only a failure of the connection aborts the run. -/
def Unaborted : Except Stop Unit × Progress → Prop
  | (.error (.aborted failure), _) => ∃ cause, failure = .io cause
  | _ => True

/-- **Going through places,** each break is answered or not waited for. -/
theorem visit_heldUp (he : e.hasPeer = true) (delay : Option Nat) {stations : List Station}
    (halone : ∀ x ∈ stations, x.Alone) (p : Progress) :
    HeldUp Unaborted (visit (stepper .loopback delay) stations p)
      (visit (stepper e delay) stations p) := by
  induction stations generalizing p with
  | nil => exact .done trivial
  | cons x rest ih =>
      obtain ⟨hx, hrest⟩ := List.forall_mem_cons.mp halone
      rw [visit_cons, visit_cons]
      refine .ask rfl fun _ => (stepper_heldUp he delay x.event p).bind ?_
      rintro ⟨result, p⟩ hresult
      cases result with
      | error failure => exact .done hresult
      | ok u =>
          refine (HeldUp.of_deaf hx).bind ?_
          intro fault _
          cases fault with
          | none => exact ih hrest p
          | some text => exact .ask rfl fun _ => .done trivial

theorem Subject.run_heldUp (he : e.hasPeer = true) (subject : Subject) (delay : Option Nat)
    (target : String) (p : Progress) :
    HeldUp Unaborted (subject.engine.run (stepper .loopback delay) target p)
      (subject.engine.run (stepper e delay) target p) := by
  rw [run_eq, run_eq]
  refine (HeldUp.of_deaf (subject.read_deaf target)).bind ?_
  intro r halone
  cases r with
  | error fault => exact .done trivial
  | ok r =>
      obtain ⟨stations, fault⟩ := r
      refine (visit_heldUp he delay (halone stations fault rfl) p).bind ?_
      rintro ⟨result, p⟩ h
      cases result with
      | error stop => exact .done h
      | ok u => cases fault <;> exact .done trivial

namespace Session

/-- Nothing is waited for at the end of a session. -/
theorem conclude_deaf {result : Except Stop Unit × Progress} (h : Unaborted result) :
    Deaf Unhindered (conclude e result) := by
  have hfarewell : ∀ breaks fault, Deaf Unhindered (bidFarewell e breaks fault) :=
    fun breaks fault => (bidFarewell_deaf breaks fault).mono fun _ h => h.1
  obtain ⟨result, p⟩ := result
  cases result with
  | ok u => exact hfarewell p.breaks none
  | error stop =>
      cases stop with
      | fault text => exact .ask rfl fun _ => hfarewell p.breaks (some text)
      | aborted failure => exact .ask rfl fun _ => .done h

/-- A stream has nothing to close, and neither has a loopback. -/
theorem conclude_loopback (result : Except Stop Unit × Progress) :
    conclude .loopback result = conclude .stream result := by
  have hclose : Endpoint.loopback.close.run = Endpoint.stream.close.run := by
    rw [Endpoint.close_run, Endpoint.close_run]
  unfold conclude bidFarewell
  rw [hclose]

/-- The session failed for want of its target, or because of the connection. -/
def Unanswered (result : Except SessionError Report) : Prop :=
  ∀ failure, result = .error failure →
    (∃ cause, failure = .io cause) ∨ ∃ path cause, failure = .targetUnavailable path cause

/-- **After the greeting, a session over a stream is one at a loopback, held up.** -/
theorem proceed_heldUp (subject : Subject) (delay : Option Nat) (target : String) :
    HeldUp Unanswered (proceed subject.engine .loopback delay target)
      (proceed subject.engine .stream delay target) := by
  refine (HeldUp.of_deaf (subject.resolve_deaf target)).bind ?_
  rintro result ⟨path, found, rfl⟩
  cases found with
  | error cause =>
      refine .done ?_
      rintro failure ⟨⟩
      exact .inr ⟨path, cause, rfl⟩
  | ok path =>
      refine .ask rfl fun _ => (subject.run_heldUp rfl delay path Progress.start).bind ?_
      intro result hresult
      rw [conclude_loopback]
      refine .of_deaf ((conclude_deaf hresult).mono ?_)
      rintro _ h failure rfl
      exact .inl h

/-! ## The law -/

/-- A greeting that nobody answers. -/
theorem introduce_loopback (host : Host η) {w : World η} (hsink : w.sink.receiver.Obliging) :
    let r := w.sink.deliver [Endpoint.stream.opening.bytes]
    ∃ record, (introduce .loopback).run.run (World.answer host) w =
      ⟨.ok (), [⟨.send Endpoint.stream.opening, r.1⟩, ⟨.note record, ()⟩],
        { w with sink := r.2 }⟩ := by
  intro r
  have houtcome : r.1.outcome = .ok () := (Sink.deliver_obliging hsink _).outcome
  refine ⟨⟨.debug, .greeting, "no client attached, skipping clientinit", []⟩, ?_⟩
  rw [introduce_run, Endpoint.greet_run_alone rfl, Dialogue.ask_bind, Dialogue.run_ask,
    World.answer_send]
  dsimp only
  rw [show (w.sink.deliver [Endpoint.loopback.opening.bytes]).1.outcome = _ from houtcome]
  rfl

/-- A greeting that is answered by a greeting. -/
theorem introduce_stream (host : Host η) {w : World η} (hsink : w.sink.receiver.Obliging)
    {lines : List Bytes} (hw : w.source.Supplies lines)
    (hgreeting : Says (lineAt lines 0) .clientInit) :
    let r := w.sink.deliver [Endpoint.stream.opening.bytes]
    ∃ record, (introduce .stream).run.run (World.answer host) w =
      ⟨.ok (), [⟨.send Endpoint.stream.opening, r.1⟩, ⟨.receive, .ok (lineAt lines 0)⟩,
        ⟨.note record, ()⟩], { w with sink := r.2, source := w.source.readLine.2 }⟩ := by
  intro r
  have houtcome : r.1.outcome = .ok () := (Sink.deliver_obliging hsink _).outcome
  have hread : (World.answer host .receive { w with sink := r.2 }).1 = .ok (lineAt lines 0) :=
    hw.readLine.1
  refine ⟨⟨.info, .greeting, "handshake complete", []⟩, ?_⟩
  rw [introduce_run, Endpoint.greet_run rfl, Dialogue.ask_bind, Dialogue.run_ask,
    World.answer_send]
  dsimp only
  rw [houtcome]
  dsimp only
  rw [Endpoint.awaitGreeting_run rfl, Dialogue.ask_bind, Dialogue.run_ask, hread,
    greetingResult_eq_ok.mpr hgreeting]
  rfl

/--
**A session at a loopback is one over a stream whose client always goes on.** It waits for nothing:
neither is a line asked for, nor is one waited for in vain, so it does not fail as it would if it had
waited, since at a loopback nobody answers. A session over a stream whose first line is a greeting,
and whose next lines let the target go on, as many as the loopback shows breaks, ends alike and has
sent and run the same.
-/
theorem loopback_session (host : Host η) (subject : Subject) (delay : Option Nat)
    (target : String) {w : World η} {s : Source} {sink : Sink} {input : Bytes}
    (hsink : w.sink.receiver.Obliging) (hsink' : sink.receiver.Obliging)
    (hinput : s.Brings input) :
    let o := outcome host subject.engine .loopback delay target w
    let o' := outcome host subject.engine .stream delay target
      { w with source := s, sink := sink }
    (∀ x ∈ o.trace, x.request ≠ .receive ∧ x.request ≠ .mark .unanswered) ∧ Unanswered o.value ∧
      (Says (lineAt (linesOf input) 0) .clientInit →
        (∀ k, k < breaks o.trace → Says (lineAt (linesOf input) (k + 1)) .resume) →
        Alike o o') := by
  intro o o'
  let r := w.sink.deliver [Endpoint.stream.opening.bytes]
  obtain ⟨record, hopened⟩ := introduce_loopback host hsink
  have hheld := proceed_heldUp subject delay target
  let later := (proceed subject.engine .loopback delay target).run (World.answer host)
    { w with sink := r.2 }
  let later' := (proceed subject.engine .stream delay target).run (World.answer host)
    { w with sink := r.2, source := s.readLine.2 }
  have ho : o = ⟨later.value, ⟨.send Endpoint.stream.opening, r.1⟩ :: ⟨.note record, ()⟩ ::
      later.trace, later.state⟩ := by
    show (run _ _ _ _).run.run _ _ = _
    rw [run_eq_proceed, run_onOk_ok (by rw [hopened]), hopened]
    rfl
  obtain ⟨hdeaf, hvalue⟩ : (∀ x ∈ later.trace, x.request.isWait = false) ∧ Unanswered later.value :=
    hheld.deaf.run (World.answer host) { w with sink := r.2 }
  refine ⟨?_, ?_, ?_⟩
  · have hall : ∀ x ∈ o.trace, x.request.isWait = false := by
      rw [ho]
      exact List.forall_mem_cons.mpr ⟨rfl, List.forall_mem_cons.mpr ⟨rfl, hdeaf⟩⟩
    exact fun x hx => Request.isWait_eq_false_iff.mp (hall x hx)
  · rw [ho]
    exact hvalue
  · intro hgreeting hlines
    obtain ⟨record', hgreeted⟩ := introduce_stream host (w := { w with source := s }) hsink
      hinput.supplies hgreeting
    have ho' : outcome host subject.engine .stream delay target { w with source := s } =
        ⟨later'.value, ⟨.send Endpoint.stream.opening, r.1⟩ ::
          ⟨.receive, .ok (lineAt (linesOf input) 0)⟩ :: ⟨.note record', ()⟩ :: later'.trace,
          later'.state⟩ := by
      show (run _ _ _ _).run.run _ _ = _
      rw [run_eq_proceed, run_onOk_ok (by rw [hgreeted]), hgreeted]
      rfl
    -- the greeting has read the first line
    obtain ⟨hsame, htrace⟩ := hheld.run host (w := { w with sink := r.2 })
      hinput.supplies.readLine.2 fun k hk => by
        rw [lineAt_tail]
        refine hlines k ?_
        rw [ho]
        exact hk
    have halike : Alike o
        (outcome host subject.engine .stream delay target { w with source := s }) := by
      rw [ho, ho']
      refine ⟨hsame.symm, ?_, ?_⟩
      · exact congrArg (r.1.accepted.flatten ++ ·) ((congrArg sent htrace.symm).trans (sent_unheard _))
      · exact (congrArg executed htrace.symm).trans (executed_unheard _)
    exact halike.trans (alike_of_sinks host subject .stream delay target hsink hsink')

/-- Two stops, shown to nobody and told to a client. -/
theorem loopback_session_two_stops :
    let host : Host Unit :=
      ⟨fun _ => .ok, fun _ _ => .ok [], fun _ _ => (.ok ⟨[], [], .exited 0⟩, ())⟩
    let subject : Subject := .replay .ok [(3, true), (3, true), (5, true)] (some "stopped")
    let input := [Message.clientInit, .resume, .resume].flatMap Message.bytes
    let w : World Unit := ⟨[], .willing, .willing, .ok (), ()⟩
    let o := outcome host subject.engine .loopback none "t" w
    let o' := outcome host subject.engine .stream none "t" { w with source := .ofBytes input }
    o.value = .ok ⟨2, some "stopped"⟩ ∧ Alike o o' := by
  intro host subject input w o o'
  have hbreaks : breaks o.trace = 2 := by decide +kernel
  have hvalue : o.value = .ok ⟨2, some "stopped"⟩ := by decide +kernel
  have hlines : linesOf input = [Message.clientInit, .resume, .resume].map Message.bytes :=
    Message.linesOf_bytes _
  have hsink : Sink.willing.receiver.Obliging := Receiver.willing_obliging
  obtain ⟨-, -, halike⟩ := loopback_session host subject none "t" (w := w) hsink hsink
    (Source.brings_ofBytes input)
  rw [hlines, show breaks _ = 2 from hbreaks] at halike
  refine ⟨hvalue, halike Message.clientInit.says_bytes ?_⟩
  intro k hk
  rcases k with _ | _ | k
  · exact Message.resume.says_bytes
  · exact Message.resume.says_bytes
  · exact absurd hk (by simp)

/-- Whoever waits at a loopback does so in vain, and this shows in a trace. -/
example : Endpoint.loopback.receive.run =
    .ask (.mark .unanswered) fun _ => .done (.error .closed) := rfl

end Session

end Lockstep
