import Lockstep.Proofs.Endings

/-!
# The kind of an error tells how far the session got

Every way in which a session can end is one of five, and each of them leaves its own transcript:
the handshake failed, the target was not there, an answer to a break was bad, the connection
failed, or the session reached its end. `error_kinds` says so for any client, any host, and a
connection that may fail at any byte.

A session is its greeting and what it goes on with. The engine comes only into the second part, so
a failure of the first is the same for every engine; and it is run only when its target was found.
-/

namespace Lockstep

open Controller

namespace Session

/-! ## The law -/

variable {η : Type} (host : Host η) (w : World η) (subject : Subject) (e : Endpoint)
  (delay : Option Nat) (target : String)

theorem run_eq_proceed (engine : Engine) :
    (run engine e delay target).run =
      (introduce e).run >>= onOk fun _ => proceed engine e delay target := run_run engine e delay target

section OnOk

variable {α β : Type} {d : Talk (Except SessionError α)} {f : α → Talk (Except SessionError β)}
  {w : World η} {host}

/-- After a failure nothing else is done, whatever was to come. -/
theorem run_onOk_error {failure : SessionError}
    (h : (d.run (World.answer host) w).value = .error failure) :
    (d >>= onOk f).run (World.answer host) w =
      ⟨.error failure, (d.run (World.answer host) w).trace,
        (d.run (World.answer host) w).state⟩ := by
  rw [Dialogue.run_bind]
  dsimp only
  rw [h]
  exact congrArg (fun t => Dialogue.Outcome.mk _ t _) (List.append_nil _)

theorem run_onOk_ok {a : α} (h : (d.run (World.answer host) w).value = .ok a) :
    (d >>= onOk f).run (World.answer host) w =
      let later := (f a).run (World.answer host) (d.run (World.answer host) w).state
      ⟨later.value, (d.run (World.answer host) w).trace ++ later.trace, later.state⟩ := by
  rw [Dialogue.run_bind]
  dsimp only
  rw [h]
  rfl

end OnOk

/-- What the end of a session shows. -/
def Shows (e : Endpoint) : Except SessionError Report → List Exchange → Prop
  | .error (.handshakeFailed _), t => Told e [] t ∧ Idle t
  | result, t => Proceeded e result t

/-- A session that was not greeted ends with its greeting, and the others go on from there. -/
theorem greeting_cases :
    let i := (introduce e).run.run (World.answer host) w
    (∃ failure, i.value = .error failure ∧ Introduced e (.error failure) i.trace ∧
        ∀ engine, outcome host engine e delay target w = ⟨.error failure, i.trace, i.state⟩) ∨
      (Greeted e i.trace ∧ Idle i.trace) ∧ ∀ engine, outcome host engine e delay target w =
        let later := (proceed engine e delay target).run (World.answer host) i.state
        ⟨later.value, i.trace ++ later.trace, later.state⟩ := by
  intro i
  have hends : Introduced e i.value i.trace := introduce_ends.run (answer_fair host) w
  cases hi : i.value with
  | error failure =>
      rw [hi] at hends
      refine .inl ⟨failure, rfl, hends, ?_⟩
      intro engine
      rw [outcome, run_eq_proceed]
      exact run_onOk_error hi
  | ok u =>
      rw [hi] at hends
      refine .inr ⟨hends, ?_⟩
      intro engine
      rw [outcome, run_eq_proceed]
      exact run_onOk_ok hi

/-- **The end of a session shows its transcript.** -/
theorem outcome_shows :
    let o := outcome host subject.engine e delay target w
    Shows e o.value o.trace := by
  intro o
  rcases greeting_cases host w e delay target with ⟨failure, -, hends, hall⟩ | ⟨⟨h, hidle⟩, hall⟩
  · rw [show o = _ from hall subject.engine]
    cases failure with
    | handshakeFailed reason => exact hends
    | io cause => trivial
    | _ => exact absurd hends (by rintro ⟨cause, ⟨⟩⟩)
  · have hlater := (proceed_ends subject delay target h hidle).run (answer_fair host)
      ((introduce e).run.run (World.answer host) w).state
    rw [show o = _ from hall subject.engine]
    dsimp only
    generalize (Dialogue.run _ (proceed _ _ _ _) _).value = result at hlater ⊢
    cases result with
    | ok report => exact hlater
    | error failure =>
        cases failure with
        | handshakeFailed reason => exact hlater.elim
        | _ => exact hlater

/-- A failed handshake does not depend on the engine, since none was asked for anything. -/
theorem outcome_of_handshakeFailed {reason : String}
    (h : (outcome host subject.engine e delay target w).value = .error (.handshakeFailed reason))
    (engine : Engine) :
    outcome host engine e delay target w = outcome host subject.engine e delay target w := by
  rcases greeting_cases host w e delay target with ⟨failure, -, -, hall⟩ | ⟨⟨hg, hidle⟩, hall⟩
  · rw [hall, hall]
  · have hlater := (proceed_ends subject delay target hg hidle).run (answer_fair host)
      ((introduce e).run.run (World.answer host) w).state
    rw [hall] at h
    rw [h] at hlater
    exact hlater.elim

/-- A target that is not there is never run, so any engine that does not find it does the same. -/
theorem outcome_of_targetUnavailable {path : String} {cause : SystemError}
    (h : (outcome host subject.engine e delay target w).value =
      .error (.targetUnavailable path cause)) {engine : Engine}
    (hresolve : engine.resolve = subject.engine.resolve) :
    outcome host engine e delay target w = outcome host subject.engine e delay target w := by
  rcases greeting_cases host w e delay target with ⟨failure, -, -, hall⟩ | ⟨⟨hg, hidle⟩, hall⟩
  · rw [hall, hall]
  · let w' := ((introduce e).run.run (World.answer host) w).state
    let r := (subject.engine.resolve target).run.run (World.answer host) w'
    have hproceed : (proceed engine e delay target).run (World.answer host) w' =
        (proceed subject.engine e delay target).run (World.answer host) w' := by
      rw [hall] at h
      unfold proceed at h ⊢
      rw [hresolve]
      cases hr : r.value with
      | error failure => rw [run_onOk_error hr, run_onOk_error hr]
      | ok found =>
          -- a target that was found and run does not end the session in this way
          have hfound := (subject.resolve_ends target hg hidle).run (answer_fair host) w'
          have hends := (advance_ends subject delay found hfound.1).run (answer_fair host) r.state
          rw [run_onOk_ok hr] at h
          rw [h] at hends
          exact hends.elim
    rw [hall, hall]
    dsimp only
    rw [show (proceed engine e delay target).run _ _ = _ from hproceed]

end Session

namespace Controller

/-- Each line that was waited for was read from the source, and nothing else was. -/
theorem source_eq {η α : Type} (host : Host η) (d : Talk α) (w : World η) :
    (d.run (World.answer host) w).state.source =
      (fun s : Source => s.readLine.2)^[(consumed (d.run (World.answer host) w).trace).length]
        w.source := by
  induction d generalizing w with
  | done a => rfl
  | ask r next ih =>
      rw [Dialogue.run_ask]
      dsimp only
      rw [ih]
      cases r <;> rfl

end Controller

namespace Session

/-- A bad answer to a break, as the session names it. -/
def isRefusal : SessionError → Bool
  | .violation _ _ | .malformed _ _ | .closed => true
  | _ => false

open Source (linesOf)

/--
**The kind of an error tells how far the session got,** for any endpoint, any reads and writes that
may fail, and both kinds of targets. After a failed handshake the client was sent the opening, and
neither was a target looked for nor run: every engine gives the same. After an unavailable target
the client was sent the opening and has answered it if there is one, and no target was run. After a
bad answer the client was sent the opening and breaks, one more than it has answered by leave to go
on, and no farewell. A session that succeeds ends with its farewell, which was sent once. A client
that was sent a whole farewell has seen a session that succeeded, or whose connection failed after
it.
-/
theorem error_kinds {η : Type} (host : Host η) (w : World η) (subject : Subject) (e : Endpoint)
    (delay : Option Nat) (target : String) :
    let o := outcome host subject.engine e delay target w
    let opening := e.opening.bytes
    let farewell := Message.finish.bytes
    (∀ reason, o.value = .error (.handshakeFailed reason) →
        sent o.trace = opening ∧ Idle o.trace ∧
          ∀ engine, outcome host engine e delay target w = o) ∧
      (∀ path cause, o.value = .error (.targetUnavailable path cause) →
        sent o.trace = opening ∧ Unrun o.trace ∧
          o.state.source = (if e.hasPeer then w.source.readLine.2 else w.source) ∧
          ∀ engine : Engine, engine.resolve = subject.engine.resolve →
            outcome host engine e delay target w = o) ∧
      (∀ failure, o.value = .error failure → isRefusal failure = true →
        ∃ row, sent o.trace = opening ++ breakBytes row ∧
          row.length = resumes o.trace + 1 ∧ farewell ∉ linesOf (sent o.trace)) ∧
      (∀ report, o.value = .ok report →
        (∃ row, sent o.trace = opening ++ breakBytes row ++ farewell) ∧
          (linesOf (sent o.trace)).count farewell = 1) ∧
      (farewell ∈ linesOf (sent o.trace) →
        (∃ report, o.value = .ok report) ∨ ∃ cause, o.value = .error (.io cause)) := by
  intro o opening farewell
  have hshows : Shows e o.value o.trace := outcome_shows host w subject e delay target
  have hopening : ∀ {t}, Told e [] t → sent t = opening := fun h => h.trans (List.append_nil _)
  refine ⟨?_, ?_, ?_, ?_, ?_⟩
  · intro reason hvalue
    rw [hvalue] at hshows
    exact ⟨hopening hshows.1, hshows.2,
      outcome_of_handshakeFailed host w subject e delay target hvalue⟩
  · intro path cause hvalue
    rw [hvalue] at hshows
    obtain ⟨hgreeted, hunrun⟩ := hshows
    refine ⟨hopening hgreeted.told, hunrun, ?_, fun engine =>
      outcome_of_targetUnavailable host w subject e delay target hvalue⟩
    have hsource : o.state.source = (fun s : Source => s.readLine.2)^[(consumed o.trace).length]
        w.source := source_eq host _ w
    rw [hsource, hgreeted.heard]
    cases e.hasPeer <;> rfl
  · intro failure hvalue hrefusal
    rw [hvalue] at hshows
    have hrefused : Refused e o.trace := by
      cases failure with
      | violation | malformed | closed => exact hshows
      | _ => exact nomatch hrefusal
    obtain ⟨row, htold, hrow⟩ := hrefused
    exact ⟨row, htold, hrow, htold.unfinished⟩
  · intro report hvalue
    rw [hvalue] at hshows
    exact ⟨hshows, Dismissed.count hshows⟩
  · intro hfarewell
    cases hvalue : o.value with
    | ok report => exact .inl ⟨report, rfl⟩
    | error failure =>
        rw [hvalue] at hshows
        -- all other failures leave a transcript without a farewell
        have hnot : ∀ row, Told e row o.trace → False := fun row h => h.unfinished hfarewell
        cases failure with
        | io cause => exact .inr ⟨cause, rfl⟩
        | handshakeFailed reason => exact (hnot _ hshows.1).elim
        | targetUnavailable path cause => exact (hnot _ hshows.1.told).elim
        | violation | malformed | closed =>
            obtain ⟨row, htold, -⟩ := hshows
            exact (hnot row htold).elim

/-- A session of a target that is not there ends when it has been greeted. -/
theorem missing_plays {η : Type} (host : Host η) (v : View η) {e : Endpoint}
    (he : e.hasPeer = true) (h : greetingResult (hear v.next) = .ok ())
    (found : String → Except SystemError String) (delay : Option Nat) (target : String)
    {cause : SystemError} (hfound : found target = .error cause) :
    Plays host (run (Subject.replay found [] none).engine e delay target).run v
      (.error (.targetUnavailable target cause)) [.said e.opening.bytes, .heard v.next] v.rest := by
  have hintroduce := introduce_plays host v he
  rw [h] at hintroduce
  rw [run_run]
  refine hintroduce.bind_quiet ?_
  have hresolve := Subject.replay_resolve_run found [] none target
  rw [hfound] at hresolve
  rw [onOk, hresolve]
  exact .mark (.done _)

/-- No client, a target that is not there, an answer that is none, and a session that succeeds. -/
theorem error_kinds_four_ends :
    let host : Host Unit :=
      ⟨fun _ => .ok, fun _ _ => .ok [], fun _ _ => (.ok ⟨[], [], .exited 0⟩, ())⟩
    let w (messages : List Message) : World Unit :=
      ⟨Source.ofBytes (messages.flatMap Message.bytes), .willing, .willing, .ok (), ()⟩
    let there : Subject := .replay .ok [(3, true)] none
    let o (subject : Subject) (messages : List Message) :=
      outcome host subject.engine .stream none "t" (w messages)
    let opening := (Message.serverInit none none).bytes
    sent (o there []).trace = opening ∧
      sent (o (.replay (fun _ => .error .notFound) [] none) [.clientInit]).trace = opening ∧
      (∃ row, sent (o there [.clientInit, .finish]).trace = opening ++ breakBytes row ∧
        row.length = resumes (o there [.clientInit, .finish]).trace + 1) ∧
      (linesOf (sent (o there [.clientInit, .resume]).trace)).count Message.finish.bytes = 1 := by
  intro host w there o opening
  have hlines : ∀ messages : List Message,
      linesOf (messages.flatMap Message.bytes) = messages.map Message.bytes :=
    Message.linesOf_bytes
  have hinput : ∀ messages, (w messages).source.Brings (messages.flatMap Message.bytes) :=
    fun messages => Source.brings_ofBytes _
  have hsink : ∀ messages, (w messages).sink.receiver.Obliging :=
    fun messages => Receiver.willing_obliging
  have hrow : stops [(3, true)] = [3] := by decide
  refine ⟨?_, ?_, ?_, ?_⟩
  · -- nothing arrives, so there is no greeting
    obtain ⟨-, failure, hvalue, hfailure⟩ := outcome_ungreeted host [(3, true)] none none "t"
      (hsink []) (hinput []) (fun h => nomatch h.1)
    have hhandshake : ∃ reason, failure = .handshakeFailed reason := by
      cases hfailure <;> exact ⟨_, rfl⟩
    obtain ⟨reason, rfl⟩ := hhandshake
    obtain ⟨hkind, -⟩ := error_kinds host (w []) there .stream none "t"
    exact (hkind reason hvalue).1
  · have hgreeted : greetingResult (hear (View.ofWorld (w [.clientInit])).next) = .ok () := by
      rw [(next_of_brings (hinput [.clientInit])).1, hlines]
      exact greetingResult_eq_ok.mpr Message.clientInit.says_bytes
    have hplays := missing_plays host (View.ofWorld (w [.clientInit])) (e := .stream) rfl hgreeted
      (fun _ => .error .notFound) none "t" rfl
    have hvalue := hplays.value (View.shows_ofWorld (hsink _))
    obtain ⟨-, hkind, -⟩ := error_kinds host (w [.clientInit])
      (.replay (fun _ => .error .notFound) [] none) .stream none "t"
    exact (hkind "t" .notFound hvalue).1
  · have hreplies := hlines [.clientInit, .finish]
    obtain ⟨-, failure, hvalue, hfailure⟩ := replay_refused host [(3, true)] none none "t"
      (hsink [.clientInit, .finish]) (hinput _) (k := 0) (by rw [hrow]; decide)
      (by rw [hreplies]; exact Message.clientInit.says_bytes) nofun
      (by rw [hreplies]; exact fun h => nomatch (says_iff Message.finish.says_bytes).mp h)
    have hrefusal : isRefusal failure = true := by
      cases hfailure with
      | nothing h => cases h <;> rfl
      | other _ _ => rfl
    obtain ⟨-, -, hkind, -⟩ := error_kinds host (w [.clientInit, .finish]) there .stream none "t"
    obtain ⟨row, hsent, hlength, -⟩ := hkind failure hvalue hrefusal
    exact ⟨row, hsent, hlength⟩
  · have hreplies := hlines [.clientInit, .resume]
    obtain ⟨report, hvalue⟩ := (replay_succeeds_iff host [(3, true)] none none "t"
      (hsink [.clientInit, .resume]) (hinput _)).mpr (by
        rw [hreplies, hrow]
        refine ⟨Message.clientInit.says_bytes, fun k hk => ?_⟩
        match k with
        | 0 => exact Message.resume.says_bytes
        | k + 1 => exact absurd hk (by simp))
    obtain ⟨-, -, -, hkind, -⟩ := error_kinds host (w [.clientInit, .resume]) there .stream none "t"
    exact (hkind report hvalue).2

end Session

end Lockstep
