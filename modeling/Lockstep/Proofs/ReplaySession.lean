import Lockstep.Proofs.Play
import Lockstep.Proofs.Stops
import Lockstep.Proofs.Suspensions

/-!
# Sessions of a replayed target

A replayed target comes to given lines. A session of it with a client says its opening, is
suspended at each stop of these lines, and says that it has finished; what the client sends decides
how far it gets. Each action has one rule here, which says what it makes of the view that it is
played in, and the whole session is the rules in a row. The last section reads the law of these
sessions off them.
-/

namespace Lockstep

open Controller (Plays Deed sent)
open Line (Says FailsGreeting FailsResume)
open Source (linesOf lineAt lineAt_tail)

variable {η : Type} (host : Host η)

/-! ## The actions -/

namespace Endpoint

variable {e : Endpoint} (v : View η)

/-- A greeting is the opening and one reply. -/
theorem greet_plays (he : e.hasPeer = true) :
    Plays host e.greet.run v (greetingResult (hear v.next)) [.said e.opening.bytes, .heard v.next]
      v.rest := by
  rw [greet_run he]
  refine .send ?_
  intro d hd
  rw [hd]
  show Plays host e.awaitGreeting.run v _ _ _
  rw [awaitGreeting_run he]
  refine .receive ?_
  cases greetingResult (hear v.next) with
  | ok u => exact .note (.done _)
  | error failure => exact .done _

theorem rest_plays (delay : Option Nat) (line : UInt32) :
    Plays host (rest delay line) v (.ok ()) [] v := by
  cases delay with
  | none => exact .note (.done _)
  | some milliseconds => exact .pause (.note (.done _))

/-- A suspension is one break and one reply. -/
theorem suspend_plays (he : e.hasPeer = true) (delay : Option Nat) (line : UInt32) :
    Plays host (e.suspend delay line).run v (resumeResult (hear v.next))
      [.said (Message.breakAt line).bytes, .heard v.next] v.rest := by
  rw [suspend_run he]
  refine .note (.send ?_)
  intro d hd
  rw [hd]
  refine .receive ?_
  cases resumeResult (hear v.next) with
  | ok u => exact rest_plays host _ delay line
  | error failure => exact .done _

/-- What the end of the connection does to a session, where `hangUp` is what closing it gives. -/
def closing (e : Endpoint) (hangUp : Except SystemError Unit) : Except SessionError Unit :=
  match e with
  | .stream | .loopback => .ok ()
  | .socket _ _ => hangUpResult hangUp

theorem close_plays : Plays host e.close.run v (closing e v.hangUp) [] v := by
  rw [close_run]
  refine .flush ?_
  intro d hd
  rw [hd]
  cases e with
  | stream => exact .done _
  | loopback => exact .done _
  | socket name port => exact .hangUp (.done _)

end Endpoint

/-- What is observed of a suspension. -/
def Suspension.deeds (s : Suspension) : List Deed :=
  [.said (Message.breakAt s.line).bytes, .heard s.reply]

/-- The progress after some suspensions. -/
def Progress.after (p : Progress) (suspensions : List Suspension) : Progress :=
  suspensions.foldl (fun p s => p.advance s.line) p

theorem Progress.breaks_after (p : Progress) (suspensions : List Suspension) :
    (p.after suspensions).breaks = p.breaks + suspensions.length := by
  induction suspensions generalizing p with
  | nil => rfl
  | cons s rest ih =>
      show ((p.advance s.line).after rest).breaks = _
      rw [ih, List.length_cons]
      show p.breaks + 1 + rest.length = _
      omega

namespace Engine

/-- **Coming to lines is a walk along their stops.** -/
theorem replayEvents_plays {e : Endpoint} (he : e.hasPeer = true) (delay : Option Nat)
    (target : String) (lines : List (UInt32 × Bool)) (p : Progress) (v : View η) :
    let w := walk (stopsFrom p.lastLine lines) v.source
    Plays host (replayEvents (stepper e delay) (lines.map (event target)) p) v
      (w.result, p.after w.suspensions) (w.suspensions.flatMap Suspension.deeds)
      { v with source := w.source } := by
  induction lines generalizing p v with
  | nil => exact .done _
  | cons event rest ih =>
      obtain ⟨line, inTarget⟩ := event
      cases inTarget with
      | false =>
          rw [replayEvents_foreign, stopsFrom_cons_foreign]
          exact .mark (ih p v)
      | true =>
          by_cases hnew : p.lastLine = some line
          · -- the same line again: nothing is sent, and the walk is the one of the other lines
            rw [replayEvents_repeated e delay target line rest hnew, hnew,
              stopsFrom_cons_repeated, ← hnew]
            exact .mark (.note (ih p v))
          · -- a stop: the reply to its break decides whether there is a next one
            rw [replayEvents_new e delay target line rest hnew, stopsFrom_cons_new hnew]
            have hsuspend := Endpoint.suspend_plays host v he delay line
            cases hreply : resumeResult (hear v.next) with
            | error failure =>
                rw [hreply] at hsuspend
                rw [walk_cons_error hreply]
                exact .mark (hsuspend.bind (.done _))
            | ok u =>
                rw [hreply] at hsuspend
                rw [walk_cons_ok hreply]
                exact .mark (hsuspend.bind (ih (p.advance line) v.rest))

end Engine

/-! ## The session -/

namespace Session

variable {e : Endpoint} (v : View η)

theorem introduce_plays (he : e.hasPeer = true) :
    Plays host (introduce e).run v (greetingResult (hear v.next))
      [.said e.opening.bytes, .heard v.next] v.rest := by
  rw [introduce_run]
  refine (Endpoint.greet_plays host v he).bind_quiet ?_
  cases greetingResult (hear v.next) with
  | ok u => exact .done _
  | error failure => exact .note (.done _)

theorem bidFarewell_plays (breaks : Nat) (fault : Option String) :
    Plays host (bidFarewell e breaks fault) v
      ((e.closing v.hangUp).map fun _ => ⟨breaks, fault⟩) [.said Message.finish.bytes] v := by
  refine .send ?_
  intro d hd
  rw [hd]
  refine (Endpoint.close_plays host v).bind_quiet ?_
  cases e.closing v.hangUp with
  | ok u => exact .note (.done _)
  | error failure => exact .done _

theorem conclude_ending_plays (p : Progress) (fault : Option String) :
    Plays host (conclude e (Engine.ending fault, p)) v
      ((e.closing v.hangUp).map fun _ => ⟨p.breaks, fault⟩) [.said Message.finish.bytes] v := by
  cases fault with
  | none => exact bidFarewell_plays host v p.breaks none
  | some text => exact .note (bidFarewell_plays host v p.breaks (some text))

variable (lines : List (UInt32 × Bool)) (fault : Option String) (delay : Option Nat)
  (target : String)

/-- A session without a greeting ends after its opening. -/
theorem replay_plays_ungreeted (he : e.hasPeer = true) {failure : SessionError}
    (h : greetingResult (hear v.next) = .error failure) :
    Plays host (run (Engine.replay lines fault) e delay target).run v (.error failure)
      [.said e.opening.bytes, .heard v.next] v.rest := by
  have hintroduce := introduce_plays host v he
  rw [h] at hintroduce
  rw [run_run]
  exact hintroduce.bind_error

/-- **A greeted session is its walk,** and the farewell if the walk passes all stops. -/
theorem replay_plays (he : e.hasPeer = true) (h : greetingResult (hear v.next) = .ok ()) :
    let w := walk (stops lines) v.rest.source
    Plays host (run (Engine.replay lines fault) e delay target).run v
      (w.result >>= fun _ =>
        (e.closing v.hangUp).map fun _ => ⟨w.suspensions.length, fault⟩)
      ([.said e.opening.bytes, .heard v.next] ++ w.suspensions.flatMap Suspension.deeds ++
        match w.result with
        | .ok () => [.said Message.finish.bytes]
        | .error _ => [])
      { v with source := w.source } := by
  intro w
  have hintroduce := introduce_plays host v he
  rw [h] at hintroduce
  have hwalk := Engine.replayEvents_plays host he delay target lines .start v.rest
  have hrow : walk (stopsFrom Progress.start.lastLine lines) v.rest.source = w :=
    congrArg (walk · v.rest.source) (stopsFrom_none lines)
  rw [hrow] at hwalk
  have hbreaks : (Progress.start.after w.suspensions).breaks = w.suspensions.length := by
    rw [Progress.breaks_after]
    exact Nat.zero_add _
  rw [run_run, List.append_assoc]
  refine hintroduce.bind ?_
  show Plays host (((Engine.replay lines fault).resolve target).run >>= _) ..
  rw [Engine.replay_resolve_run, Dialogue.ask_bind]
  refine .mark (.note ?_)
  rw [Engine.replay_run, bind_assoc]
  refine hwalk.bind ?_
  cases w.result with
  | error failure => exact .note (.done _)
  | ok u =>
      -- all stops are passed, so the session says its farewell, with a fault or without one
      have hfarewell := conclude_ending_plays host (e := e) { v with source := w.source }
        (Progress.start.after w.suspensions) fault
      rw [hbreaks] at hfarewell
      exact hfarewell

/-! ## The law -/

/-- The bytes of breaks at these lines. -/
def breakBytes (row : List UInt32) : Bytes := row.flatMap fun line => (Message.breakAt line).bytes

theorem bytes_of_suspensions (suspensions : List Suspension) :
    (suspensions.flatMap Suspension.deeds).flatMap Deed.bytes =
      breakBytes (suspensions.map (·.line)) := by
  rw [List.flatMap_assoc, breakBytes, List.flatMap_map]
  refine List.flatMap_congr ?_
  intro s _
  exact List.append_nil _

/-- What a session comes to in some surroundings. -/
def outcome (engine : Engine) (e : Endpoint) (delay : Option Nat) (target : String) (w : World η) :
    Dialogue.Outcome Controller.interface (World η) (Except SessionError Report) :=
  (run engine e delay target).run.run (World.answer host) w

variable {w : World η} {input : Bytes}

/-- The first line that arrives is the reply to the opening, and the lines after it are left. -/
theorem next_of_brings (hinput : w.source.Brings input) :
    (View.ofWorld w).next = .ok (lineAt (linesOf input) 0) ∧
      (View.ofWorld w).rest.source.Supplies (linesOf input).tail :=
  hinput.supplies.readLine

theorem outcome_ungreeted (hsink : w.sink.receiver.Obliging) (hinput : w.source.Brings input)
    (h : ¬ Says (lineAt (linesOf input) 0) .clientInit) :
    let o := outcome host (Engine.replay lines fault) .stream delay target w
    sent o.trace = (Message.serverInit none none).bytes ∧
      ∃ failure, o.value = .error failure ∧ FailsGreeting (lineAt (linesOf input) 0) failure := by
  obtain ⟨hnext, _⟩ := next_of_brings hinput
  have hshows := View.shows_ofWorld hsink
  cases hgreeting : greetingResult (hear (.ok (lineAt (linesOf input) 0))) with
  | ok u => exact absurd (greetingResult_eq_ok.mp hgreeting) h
  | error failure =>
      have hplays := replay_plays_ungreeted host (View.ofWorld w) lines fault delay target
        (e := .stream) rfl (by rw [hnext]; exact hgreeting)
      refine ⟨?_, failure, hplays.value hshows, failsGreeting_of_error hgreeting⟩
      exact (hplays.sent hshows).trans (List.append_nil _)

theorem outcome_greeted (hsink : w.sink.receiver.Obliging) (hinput : w.source.Brings input)
    (h : Says (lineAt (linesOf input) 0) .clientInit) :
    let o := outcome host (Engine.replay lines fault) .stream delay target w
    let along := walk (stops lines) (View.ofWorld w).rest.source
    o.value = (along.result.map fun _ => ⟨along.suspensions.length, fault⟩) ∧
      sent o.trace = (Message.serverInit none none).bytes ++
        breakBytes (along.suspensions.map (·.line)) ++
        match along.result with
        | .ok () => Message.finish.bytes
        | .error _ => [] := by
  intro o along
  obtain ⟨hnext, _⟩ := next_of_brings hinput
  have hshows := View.shows_ofWorld hsink
  have hplays := replay_plays host (View.ofWorld w) lines fault delay target (e := .stream) rfl
    (by rw [hnext]; exact greetingResult_eq_ok.mpr h)
  refine ⟨(hplays.value hshows).trans ?_, (hplays.sent hshows).trans ?_⟩
  · show (along.result >>= _) = _
    cases along.result <;> rfl
  · rw [List.flatMap_append, List.flatMap_append, bytes_of_suspensions]
    refine congrArg₂ (· ++ ·) (congrArg (· ++ _) (List.append_nil _)) ?_
    show List.flatMap Deed.bytes (match along.result with | .ok () => _ | .error _ => _) = _
    cases along.result with
    | ok u => exact List.append_nil _
    | error failure => rfl

/-- A session succeeds if its client greets it and lets every stop go on, and not otherwise. -/
theorem replay_succeeds_iff (hsink : w.sink.receiver.Obliging) (hinput : w.source.Brings input) :
    (∃ report, (outcome host (Engine.replay lines fault) .stream delay target w).value =
        .ok report) ↔
      Says (lineAt (linesOf input) 0) .clientInit ∧
        ∀ k, k < (stops lines).length → Says (lineAt (linesOf input) (k + 1)) .resume := by
  by_cases hgreeting : Says (lineAt (linesOf input) 0) .clientInit
  · obtain ⟨hvalue, _⟩ := outcome_greeted host lines fault delay target hsink hinput hgreeting
    obtain ⟨_, hsupplies⟩ := next_of_brings hinput
    have hpassed := walk_eq_ok (stops lines) hsupplies
    simp only [lineAt_tail] at hpassed
    -- a greeted session succeeds exactly when its walk does
    rw [and_iff_right hgreeting, ← hpassed, hvalue]
    cases (walk (stops lines) (View.ofWorld w).rest.source).result with
    | ok u => exact ⟨fun _ => rfl, fun _ => ⟨_, rfl⟩⟩
    | error failure =>
        constructor
        · rintro ⟨report, h⟩
          exact absurd h (by simp [Except.map])
        · intro h
          exact absurd h (by simp)
  · obtain ⟨_, failure, hvalue, _⟩ :=
      outcome_ungreeted host lines fault delay target hsink hinput hgreeting
    constructor
    · rintro ⟨report, h⟩
      rw [hvalue] at h
      exact absurd h (by simp)
    · intro h
      exact absurd h.1 hgreeting

/-- A session that succeeds has passed all stops, and the client was told of each. -/
theorem replay_completed (hsink : w.sink.receiver.Obliging) (hinput : w.source.Brings input)
    {report : Report}
    (h : (outcome host (Engine.replay lines fault) .stream delay target w).value = .ok report) :
    report = ⟨(stops lines).length, fault⟩ ∧
      sent (outcome host (Engine.replay lines fault) .stream delay target w).trace =
        (Message.serverInit none none).bytes ++ breakBytes (stops lines) ++
          Message.finish.bytes := by
  have hgreeting :=
    ((replay_succeeds_iff host lines fault delay target hsink hinput).mp ⟨report, h⟩).1
  obtain ⟨hvalue, hsent⟩ := outcome_greeted host lines fault delay target hsink hinput hgreeting
  rw [hvalue] at h
  cases hresult : (walk (stops lines) (View.ofWorld w).rest.source).result with
  | error failure =>
      rw [hresult] at h
      exact absurd h (by simp [Except.map])
  | ok u =>
      have hrow := walk_lines hresult
      have hlength := congrArg List.length hrow
      rw [List.length_map] at hlength
      rw [hresult] at h hsent
      rw [hrow] at hsent
      refine ⟨?_, hsent⟩
      rw [← hlength]
      exact (Except.ok.inj h).symm

/-- The first stop that is not answered by a leave to go on is the last that the client hears of. -/
theorem replay_refused (hsink : w.sink.receiver.Obliging) (hinput : w.source.Brings input) {k : Nat}
    (hk : k < (stops lines).length) (hgreeting : Says (lineAt (linesOf input) 0) .clientInit)
    (hbefore : ∀ j, j < k → Says (lineAt (linesOf input) (j + 1)) .resume)
    (hno : ¬ Says (lineAt (linesOf input) (k + 1)) .resume) :
    sent (outcome host (Engine.replay lines fault) .stream delay target w).trace =
        (Message.serverInit none none).bytes ++ breakBytes ((stops lines).take (k + 1)) ∧
      ∃ failure,
        (outcome host (Engine.replay lines fault) .stream delay target w).value = .error failure ∧
          FailsResume (lineAt (linesOf input) (k + 1)) failure := by
  obtain ⟨_, hsupplies⟩ := next_of_brings hinput
  obtain ⟨hvalue, hsent⟩ := outcome_greeted host lines fault delay target hsink hinput hgreeting
  -- the walk reads the lines after the greeting, so its answers are one place further on
  simp only [← lineAt_tail] at hbefore hno ⊢
  obtain ⟨failure, hfailure, hresult, hrow⟩ := walk_refused hsupplies hk hbefore hno
  rw [hresult] at hvalue hsent
  rw [hrow, List.append_nil] at hsent
  exact ⟨hsent, failure, hvalue, hfailure⟩

/--
**The law of a session over a stream** whose writer never fails. It succeeds if and only if the
client's first line is its greeting and each stop is answered by a line that lets the target go
on; then the report counts the stops, and the client was sent the opening, a break for each stop,
and the farewell. A first line that is no greeting ends it after the opening, and the first bad
answer ends it after the break that it answers, each with the error that tells what was wrong.
-/
theorem replay_over_stream (hsink : w.sink.receiver.Obliging) (hinput : w.source.Brings input) :
    let o := outcome host (Engine.replay lines fault) .stream delay target w
    let row := stops lines
    let reply := lineAt (linesOf input)
    let opening := (Message.serverInit none none).bytes
    ((∃ report, o.value = .ok report) ↔
        Says (reply 0) .clientInit ∧ ∀ k, k < row.length → Says (reply (k + 1)) .resume) ∧
      (∀ report, o.value = .ok report →
        report = ⟨row.length, fault⟩ ∧
          sent o.trace = opening ++ breakBytes row ++ Message.finish.bytes) ∧
      (¬ Says (reply 0) .clientInit →
        sent o.trace = opening ∧
          ∃ failure, o.value = .error failure ∧ FailsGreeting (reply 0) failure) ∧
      ∀ k, k < row.length → Says (reply 0) .clientInit →
        (∀ j, j < k → Says (reply (j + 1)) .resume) → ¬ Says (reply (k + 1)) .resume →
        sent o.trace = opening ++ breakBytes (row.take (k + 1)) ∧
          ∃ failure, o.value = .error failure ∧ FailsResume (reply (k + 1)) failure := by
  intro o row reply opening
  refine ⟨replay_succeeds_iff host lines fault delay target hsink hinput, ?_, ?_, ?_⟩
  · intro report hreport
    exact replay_completed host lines fault delay target hsink hinput hreport
  · intro hno
    exact outcome_ungreeted host lines fault delay target hsink hinput hno
  · intro k hk hgreeting hbefore hno
    exact replay_refused host lines fault delay target hsink hinput hk hgreeting hbefore hno

/-- Repetitions and lines of other files are not answered, so two answers are enough here. -/
theorem replay_over_stream_two_stops :
    let host : Host Unit :=
      ⟨fun _ => .ok, fun _ _ => .ok [], fun _ _ => (.ok ⟨[], [], .exited 0⟩, ())⟩
    let lines := [(3, true), (3, true), (9, false), (3, true), (5, true)]
    let input := [Message.clientInit, .resume, .resume].flatMap Message.bytes
    let w : World Unit := ⟨Source.ofBytes input, .willing, .willing, .ok (), ()⟩
    let o := outcome host (Engine.replay lines (some "stopped")) .stream none "target" w
    o.value = .ok ⟨2, some "stopped"⟩ ∧
      sent o.trace = (Message.serverInit none none).bytes ++ breakBytes [3, 5] ++
        Message.finish.bytes := by
  intro host lines input w o
  have hrow : stops lines = [3, 5] := by decide
  have hlines : linesOf input = [Message.clientInit, .resume, .resume].map Message.bytes :=
    Message.linesOf_bytes _
  obtain ⟨hok, hreport, -, -⟩ := replay_over_stream host lines (some "stopped") none "target"
    (w := w) Receiver.willing_obliging (Source.brings_ofBytes input)
  rw [hrow, hlines] at hok
  obtain ⟨report, hvalue⟩ := hok.mpr ⟨Message.clientInit.says_bytes, fun k hk => by
    match k with
    | 0 | 1 => exact Message.resume.says_bytes
    | k + 2 => exact absurd hk (by simp)⟩
  obtain ⟨rfl, hsent⟩ := hreport report hvalue
  rw [hrow] at hvalue hsent
  exact ⟨hvalue, hsent⟩

end Session

end Lockstep
