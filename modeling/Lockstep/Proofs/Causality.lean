import Lockstep.Proofs.Determinacy
import Lockstep.Proofs.ErrorKinds
import Lockstep.Proofs.Reading

/-!
# A session does not look ahead

What a session does up to some point depends only on what has arrived by then. A line is acted upon
when it is whole; a line whose end is missing ends the session, and nothing is sent and no command
is run after it. So a session on a part of what arrives does what the session on all of it does, up
to the point where the part runs out (`session_causal`), and a session that reaches its end has read
the greeting and one line for each break, and no byte more.

The invariant is `Served`: no line was cut, and so many lines were read. It counts the lines by the
breaks, so it is carried from place to place with the progress of the target.
-/

namespace Lockstep

open Controller
open Line (IsWhole IsCut)
open Source (linesOf)

variable {e : Endpoint} {t : List Exchange} {n : Nat}

/-- The session reports that the input ran out. -/
def SessionError.RanOut (failure : SessionError) : Prop :=
  failure = .closed ∨ failure = .handshakeFailed SessionError.closed.message

namespace Controller

/-- When the input has run out, only the journal is written. -/
def Lasts (t : List Exchange) (x : Exchange) : Prop :=
  Severed t → ∃ record, x.request = .note record

/-- Every line that was read was whole, and there were so many. -/
structure Served (n : Nat) (t : List Exchange) : Prop where
  whole : ¬ Severed t
  count : (heard t).length = n

/-- If the input has run out, the failure says so. -/
def Parted (failure : SessionError) (t : List Exchange) : Prop := Severed t → failure.RanOut

/-- What holds after an action that reads `n` lines unless it fails. -/
def Answered {α : Type} (n : α → Nat) : Except SessionError α → List Exchange → Prop
  | .ok a, t => Served (n a) t
  | .error failure, t => Parted failure t

theorem heard_append_other {x : Exchange} (hx : x.request ≠ .receive) :
    heard (t ++ [x]) = heard t := by
  rw [heard_append, heard, heard, List.filterMap_cons_none (Exchange.line?_eq_none hx)]
  exact List.append_nil _

namespace Served

theorem nil : Served 0 [] := ⟨fun ⟨_, h, _⟩ => absurd h List.not_mem_nil, rfl⟩

theorem lasts (h : Served n t) (x : Exchange) : Lasts t x := fun hcut => absurd hcut h.whole

theorem parted (h : Served n t) (failure : SessionError) : Parted failure t :=
  fun hcut => absurd hcut h.whole

/-- Nothing but reading a line counts. -/
theorem append {x : Exchange} (h : Served n t) (hx : x.request ≠ .receive) :
    Served n (t ++ [x]) := by
  refine ⟨?_, ?_⟩
  · rw [Severed, heard_append_other hx]
    exact h.whole
  · rw [heard_append_other hx]
    exact h.count

theorem ask {α : Type} {post : α → List Exchange → Prop} {r : Request} {next : Reply r → Talk α}
    (h : Served n t) (hr : r ≠ .receive)
    (hnext : ∀ reply t, Served n t → (next reply).Obeys Lasts post t) :
    (Dialogue.ask r next : Talk α).Obeys Lasts post t :=
  fun reply => ⟨h.lasts _, hnext reply _ (h.append hr)⟩

/-- What is deaf reads no more lines. -/
theorem deaf {α : Type} {good : α → Prop} {d : Talk α} (h : Served n t) (hd : Deaf good d) :
    d.Obeys Lasts (fun a t => good a ∧ Served n t) t :=
  hd.obeys (fun _ _ hx h => ⟨h.lasts _, h.append hx⟩) h

/-- A message that is waited for comes in one whole line, or the session ends; and if the line was
cut, the failure says so. -/
theorem receive {wanted : Message} {other : Message.Kind → SessionError}
    {nothing : SessionError → SessionError} (h : Served n t) (hclosed : (nothing .closed).RanOut)
    (reply : Except SystemError Bytes) :
    Answered (fun _ => n + 1) (heed wanted other nothing (hear reply))
      (t ++ [⟨.receive, reply⟩]) := by
  cases reply with
  | error cause =>
      -- a line that could not be read is neither whole nor cut
      have hsame : heard (t ++ [⟨.receive, .error cause⟩]) = heard t := by
        rw [heard_append]
        exact List.append_nil _
      intro hcut
      rw [Severed, hsame] at hcut
      exact absurd hcut h.whole
  | ok line =>
      have hheard : heard (t ++ [⟨.receive, .ok line⟩]) = heard t ++ [line] := heard_append _ _
      by_cases hline : IsCut line
      · rw [hear_fails (.unfinished hline)]
        exact fun _ => hclosed
      · have hserved : Served (n + 1) (t ++ [⟨.receive, .ok line⟩]) := by
          refine ⟨?_, ?_⟩
          · rintro ⟨cut, hmem, hcut⟩
            rw [hheard, List.mem_append, List.mem_singleton] at hmem
            rcases hmem with hmem | rfl
            · exact h.whole ⟨cut, hmem, hcut⟩
            · exact hline hcut
          · rw [hheard, List.length_append, h.count]
            rfl
        cases heed wanted other nothing (hear (.ok line)) with
        | ok u => exact hserved
        | error failure => exact hserved.parted failure

end Served

/-- A note changes nothing. -/
theorem Parted.note {α : Type} {n : α → Nat} {failure : SessionError} (h : Parted failure t)
    (record : Journal.Record) :
    (Dialogue.ask (.note record) fun _ => .done (.error failure) :
      Talk (Except SessionError α)).Obeys Lasts (Answered n) t := by
  refine .ask fun _ => ⟨fun _ => ⟨record, rfl⟩, ?_⟩
  have hsame : heard (t ++ [⟨.note record, ()⟩]) = heard t := heard_append_other nofun
  intro hcut
  rw [Severed, hsame] at hcut
  exact h hcut

end Controller

/-! ## Parts that read nothing -/

/-- Nothing failed but perhaps the connection. -/
def Unhindered {α : Type} : Except SessionError α → Prop
  | .ok _ => True
  | .error failure => ∃ cause, failure = .io cause

namespace Endpoint

theorem rest_deaf (delay : Option Nat) (line : UInt32) : Deaf Unhindered (rest delay line) := by
  cases delay with
  | none => exact .ask rfl fun _ => .done trivial
  | some milliseconds => exact .ask rfl fun _ => .ask rfl fun _ => .done trivial

theorem close_deaf : Deaf Unhindered e.close.run := by
  rw [close_run]
  refine .ask rfl fun delivery => ?_
  cases delivery.outcome with
  | error cause => exact .done ⟨cause, rfl⟩
  | ok u =>
      cases e with
      | stream => exact .done trivial
      | loopback => exact .done trivial
      | socket name port =>
          refine .ask rfl fun reply => .done ?_
          cases reply with
          | ok u => trivial
          | error cause =>
              rw [hangUpResult]
              split
              · trivial
              · exact ⟨cause, rfl⟩

end Endpoint

/-- Nothing is read where the target goes on. -/
def Station.Alone (x : Station) : Prop := Deaf (fun _ => True) x.act

theorem Script.station_alone (shell target : String) (s : Statement) :
    (station shell target s).Alone := by
  refine .ask rfl fun reply => ?_
  cases reply with
  | error cause => exact .done trivial
  | ok completion =>
      refine .ask rfl fun delivery => ?_
      obtain ⟨accepted, outcome⟩ := delivery
      cases outcome with
      | error cause => exact .done trivial
      | ok u =>
          show Deaf _ (if completion.status.succeeded then _ else _)
          split <;> exact .done trivial

namespace Subject

/-- A target and its places are read without the client. -/
theorem read_deaf (subject : Subject) (target : String) :
    Deaf (fun r => ∀ stations fault, r = .ok (stations, fault) → ∀ x ∈ stations, x.Alone)
      (subject.read target) := by
  cases subject with
  | replay found lines fault =>
      refine .done ?_
      rintro _ _ ⟨⟩
      exact List.forall_mem_map.mpr fun _ _ => .done trivial
  | script shell =>
      refine .ask rfl fun reply => ?_
      cases reply with
      | error cause => exact .done nofun
      | ok text =>
          dsimp only
          cases Script.parse text with
          | error flaw => exact .done nofun
          | ok statements =>
              refine .done ?_
              rintro _ _ ⟨⟩
              exact Script.forall_stations (Script.station_alone shell target)

theorem resolve_deaf (subject : Subject) (target : String) :
    Deaf (fun result => ∃ path found, result = resolution path found)
      (subject.engine.resolve target).run := by
  cases subject with
  | replay found lines fault =>
      rw [replay_resolve_run]
      exact .ask rfl fun _ => .done ⟨target, found target, rfl⟩
  | script shell =>
      rw [script_resolve_run]
      exact .ask rfl fun found => .ask rfl fun _ => .done ⟨target, found, rfl⟩

end Subject

/-- A farewell reports the breaks, and nothing is waited for. -/
theorem Session.bidFarewell_deaf (breaks : Nat) (fault : Option String) :
    Deaf (fun result => Unhindered result ∧ ∀ report, result = .ok report → report.breaks = breaks)
      (bidFarewell e breaks fault) := by
  refine .ask rfl fun delivery => ?_
  cases delivery.outcome with
  | error cause => exact .done ⟨⟨cause, rfl⟩, nofun⟩
  | ok u =>
      refine Endpoint.close_deaf.bind ?_
      rintro (failure | _) hclose
      · exact .done ⟨hclose, nofun⟩
      · refine .ask rfl fun _ => .done ⟨trivial, ?_⟩
        rintro _ ⟨⟩
        rfl

/-! ## Parts that read lines -/

theorem Controller.Served.answered {α : Type} {result : Except SessionError α} (h : Served n t) :
    Answered (fun _ => n) result t := by
  cases result with
  | ok a => exact h
  | error failure => exact h.parted failure

namespace Endpoint

theorem greet_served (he : e.hasPeer = true) :
    e.greet.run.Obeys Lasts (Answered fun _ => 1) [] := by
  rw [greet_run he]
  refine Served.nil.ask nofun fun delivery t h => ?_
  cases delivery.outcome with
  | error cause => exact h.parted _
  | ok u =>
      show e.awaitGreeting.run.Obeys _ _ _
      rw [awaitGreeting_run he]
      refine .ask fun reply => ⟨h.lasts _, ?_⟩
      have hanswered : Answered (fun _ => 1) (greetingResult (hear reply)) _ :=
        h.receive (.inr rfl) reply
      cases hreply : greetingResult (hear reply) with
      | error failure =>
          rw [hreply] at hanswered
          exact hanswered
      | ok u =>
          rw [hreply] at hanswered
          exact Served.ask hanswered nofun fun _ _ h => h

/-- A suspension reads one line. -/
theorem suspend_served (he : e.hasPeer = true) (delay : Option Nat) (line : UInt32)
    (h : Served n t) : (e.suspend delay line).run.Obeys Lasts (Answered fun _ => n + 1) t := by
  rw [suspend_run he]
  refine h.ask nofun fun _ t h => h.ask nofun fun delivery t h => ?_
  cases delivery.outcome with
  | error cause => exact h.parted _
  | ok u =>
      refine .ask fun reply => ⟨h.lasts _, ?_⟩
      have hanswered : Answered (fun _ => n + 1) (resumeResult (hear reply)) _ :=
        h.receive (.inl rfl) reply
      cases hreply : resumeResult (hear reply) with
      | error failure =>
          rw [hreply] at hanswered
          exact hanswered
      | ok u =>
          rw [hreply] at hanswered
          exact (Served.deaf hanswered (rest_deaf delay line)).mono fun _ _ h => h.2.answered

end Endpoint

/-- The lines are counted by the breaks. -/
theorem stepper_served (he : e.hasPeer = true) (delay : Option Nat) (event : LineEvent)
    (p : Progress) (h : Served (p.breaks + 1) t) :
    ((stepper e delay).line event p).Obeys Lasts
      (fun r => Answered (fun _ => r.2.breaks + 1) r.1) t := by
  obtain ⟨place, inTarget⟩ := event
  cases inTarget with
  | false => exact h
  | true =>
      by_cases hnew : p.lastLine = some place.line
      · rw [stepper_repeated e delay place hnew]
        exact h.ask nofun fun _ _ h => h
      · rw [stepper_new e delay place hnew]
        exact (Endpoint.suspend_served he delay place.line h).bind fun _ _ h => h

/-- What holds after a run of a target; a fault is no failure of the session. -/
def Controller.Visited : Except Stop Unit × Progress → List Exchange → Prop
  | (.error (.aborted failure), _), t => Parted failure t
  | (_, p), t => Served (p.breaks + 1) t

/-- **Going through places,** one line is read for each break. -/
theorem visit_served (he : e.hasPeer = true) (delay : Option Nat) {stations : List Station}
    (halone : ∀ x ∈ stations, x.Alone) (p : Progress) (h : Served (p.breaks + 1) t) :
    (visit (stepper e delay) stations p).Obeys Lasts Visited t := by
  induction stations generalizing p t with
  | nil => exact h
  | cons x rest ih =>
      obtain ⟨hx, hrest⟩ := List.forall_mem_cons.mp halone
      rw [visit_cons]
      refine h.ask nofun fun _ t h => (stepper_served he delay x.event p h).bind ?_
      rintro ⟨result, p⟩ t h
      cases result with
      | error failure => exact h
      | ok u =>
          refine (Served.deaf h hx).bind ?_
          rintro fault t ⟨-, h⟩
          cases fault with
          | none => exact ih hrest p h
          | some text => exact h.ask nofun fun _ _ h => h

theorem Subject.run_served (he : e.hasPeer = true) (subject : Subject) (delay : Option Nat)
    (target : String) (h : Served 1 t) :
    (subject.engine.run (stepper e delay) target Progress.start).Obeys Lasts Visited t := by
  rw [run_eq]
  refine (h.deaf (subject.read_deaf target)).bind ?_
  rintro r t ⟨halone, h⟩
  cases r with
  | error fault => exact h
  | ok r =>
      obtain ⟨stations, fault⟩ := r
      refine (visit_served he delay (halone stations fault rfl) Progress.start h).bind ?_
      rintro ⟨result, p⟩ t h
      cases result with
      | error stop => exact h
      | ok u => cases fault <;> exact h

namespace Session

theorem bidFarewell_served {breaks : Nat} (fault : Option String) (h : Served (breaks + 1) t) :
    (bidFarewell e breaks fault).Obeys Lasts (Answered (·.breaks + 1)) t := by
  refine (h.deaf (bidFarewell_deaf breaks fault)).mono ?_
  rintro result t ⟨⟨-, hresult⟩, h⟩
  cases result with
  | error failure => exact h.parted failure
  | ok report =>
      obtain rfl := hresult report rfl
      exact h

theorem conclude_served {result : Except Stop Unit × Progress} (h : Visited result t) :
    (conclude e result).Obeys Lasts (Answered (·.breaks + 1)) t := by
  obtain ⟨result, p⟩ := result
  cases result with
  | ok u => exact bidFarewell_served none h
  | error stop =>
      cases stop with
      | fault text =>
          have hserved : Served (p.breaks + 1) t := h
          exact hserved.ask nofun fun _ _ h => bidFarewell_served (some text) h
      | aborted failure => exact Parted.note h _

/-- **A session reads one line for its greeting and one for each break,** and when the input runs
out it does nothing more. -/
theorem run_served (he : e.hasPeer = true) (subject : Subject) (delay : Option Nat)
    (target : String) :
    (run subject.engine e delay target).run.Obeys Lasts (Answered (·.breaks + 1)) [] := by
  have hgreeted : (introduce e).run.Obeys Lasts (Answered fun _ => 1) [] := by
    rw [introduce_run]
    refine (Endpoint.greet_served he).bind ?_
    intro result t h
    cases result with
    | ok u => exact h
    | error failure => exact Parted.note h _
  rw [run_run]
  refine hgreeted.bind ?_
  intro result t h
  cases result with
  | error failure => exact h
  | ok u =>
      refine (Served.deaf h (subject.resolve_deaf target)).bind ?_
      rintro result t ⟨-, h⟩
      cases result with
      | error failure => exact h.parted failure
      | ok path =>
          refine h.ask nofun fun _ t h => ?_
          exact (subject.run_served he delay path h).bind fun _ _ h => conclude_served h

end Session

/-! ## The law -/

namespace Controller

variable {η α : Type}

/-- The journal is not seen outside. -/
theorem nothing_of_notes (h : ∀ x ∈ t, ∃ record, x.request = .note record) :
    sent t = [] ∧ executed t = [] := by
  have hnote : ∀ x ∈ t, x.sent = [] ∧ x.execution? = none := by
    rintro ⟨r, reply⟩ hx
    obtain ⟨record, rfl⟩ := h _ hx
    exact ⟨rfl, rfl⟩
  exact ⟨List.flatMap_eq_nil_iff.mpr fun x hx => (hnote x hx).1,
    List.filterMap_eq_nil_iff.mpr fun x hx => (hnote x hx).2⟩

/-- When a line was cut, nothing is sent and nothing is run after it. -/
theorem nothing_after_cut {before after : List Exchange} {line : Bytes} (hline : IsCut line)
    (h : ∀ earlier x later, before ++ ⟨.receive, .ok line⟩ :: after = earlier ++ x :: later →
      Lasts earlier x) : sent after = [] ∧ executed after = [] := by
  refine nothing_of_notes ?_
  intro x hx
  obtain ⟨between, later, rfl⟩ := List.append_of_mem hx
  refine h (before ++ ⟨.receive, .ok line⟩ :: between) x later (by simp) ⟨line, ?_, hline⟩
  rw [heard_append]
  exact List.mem_append_right _ List.mem_cons_self

theorem sent_of_split (before after : List Exchange) (reply : Except SystemError Bytes) :
    sent (before ++ ⟨.receive, reply⟩ :: after) = sent before ++ sent after := by
  rw [sent, sent, sent, List.flatMap_append, List.flatMap_cons]
  rfl

theorem executed_of_split (before after : List Exchange) (reply : Except SystemError Bytes) :
    executed (before ++ ⟨.receive, reply⟩ :: after) = executed before ++ executed after := by
  rw [executed, executed, executed, List.filterMap_append]
  rfl

/-- What comes of a dialogue on a part of its input, if it does nothing more where that runs out. -/
theorem Prolongs.causal {more : Bytes} {o o' : Dialogue.Outcome interface (World η) α}
    (h : Prolongs more o o')
    (hlasts : ∀ before x after, o.trace = before ++ x :: after → Lasts before x) :
    sent o.trace <+: sent o'.trace ∧ executed o.trace <+: executed o'.trace ∧
      (Alike o o' ∨ Severed o.trace) := by
  cases h with
  | same hvalue htrace =>
      rw [htrace]
      exact ⟨List.prefix_rfl, List.prefix_rfl, .inl ⟨hvalue, congrArg _ htrace, congrArg _ htrace⟩⟩
  | cut before line after after' _ hline ho ho' =>
      rw [ho] at hlasts
      obtain ⟨hsent, hexecuted⟩ := nothing_after_cut hline hlasts
      rw [ho, ho', sent_of_split, executed_of_split, hsent, hexecuted, List.append_nil,
        List.append_nil]
      refine ⟨?_, ?_, .inr ⟨line, ?_, hline⟩⟩
      · exact ⟨sent after', List.flatMap_append.symm⟩
      · exact (List.prefix_append before after').filterMap _
      · rw [heard_append]
        exact List.mem_append_right _ List.mem_cons_self

end Controller

namespace Session

/--
**A session does not look ahead.** The first session gets some input, and the second one this input
and more; both write to sinks that never fail, and differ in nothing else. What the first one sends
and the commands that it runs are the beginning of what the second one sends and runs. The two end
alike and have sent and run the same, or the first input ran out before the end of a line, and then
the first session reports this. A session that reaches its end has read one whole line for its
greeting and one for each break, and leaves every byte after them.
-/
theorem session_causal {η : Type} (host : Host η) (subject : Subject) {e : Endpoint}
    (he : e.hasPeer = true) (delay : Option Nat) (target : String) {w : World η} {s : Source}
    {sink : Sink} {input more : Bytes} (hsink : w.sink.receiver.Obliging)
    (hsink' : sink.receiver.Obliging) (hinput : w.source.Brings input)
    (hmore : s.Brings (input ++ more)) :
    let o := outcome host subject.engine e delay target w
    let o' := outcome host subject.engine e delay target { w with source := s, sink := sink }
    sent o.trace <+: sent o'.trace ∧
      executed o.trace <+: executed o'.trace ∧
      (¬ Severed o.trace ∧ Alike o o' ∨
        Severed o.trace ∧ ∃ failure, o.value = .error failure ∧ failure.RanOut) ∧
      ∀ report, o.value = .ok report →
        ∃ left, input = (heard o.trace).flatten ++ left ∧
          (heard o.trace).length = report.breaks + 1 ∧ (∀ line ∈ heard o.trace, IsWhole line) ∧
          o.state.source.Brings left := by
  intro o o'
  obtain ⟨hlasts, hanswered⟩ : _ ∧ Answered (·.breaks + 1) o.value o.trace :=
    (run_served he subject delay target).run (World.answer host) w
  have hsame := alike_of_sinks host subject e delay target (w := { w with source := s }) hsink hsink'
  obtain ⟨hsent, hexecuted, hends⟩ :=
    (run_prolonged host (run subject.engine e delay target).run hinput hmore).causal hlasts
  refine ⟨hsame.sent ▸ hsent, hsame.executed ▸ hexecuted, ?_, ?_⟩
  · by_cases hcut : Severed o.trace
    · refine .inr ⟨hcut, ?_⟩
      cases hvalue : o.value with
      | ok report =>
          rw [hvalue] at hanswered
          exact absurd hcut hanswered.whole
      | error failure =>
          rw [hvalue] at hanswered
          exact ⟨failure, rfl, hanswered hcut⟩
    · refine .inl ⟨hcut, ?_⟩
      rcases hends with halike | hcut'
      · exact halike.trans hsame
      · exact absurd hcut' hcut
  · intro report hvalue
    rw [hvalue] at hanswered
    obtain ⟨⟨left, hleft, hsource⟩, hlines⟩ :=
      run_reads host (run subject.engine e delay target).run hinput
    refine ⟨left, hleft, hanswered.count, ?_, hsource⟩
    intro line hline
    rcases hlines line hline with hwhole | hcut
    · exact hwhole
    · exact absurd ⟨line, hline, hcut⟩ hanswered.whole

/-- One answer that is missing, and then one too many. -/
theorem session_causal_one_stop :
    let host : Host Unit :=
      ⟨fun _ => .ok, fun _ _ => .ok [], fun _ _ => (.ok ⟨[], [], .exited 0⟩, ())⟩
    let w (input : Bytes) : World Unit := ⟨Source.ofBytes input, .willing, .willing, .ok (), ()⟩
    let o (input : Bytes) :=
      outcome host (Subject.replay .ok [(3, true)] none).engine .stream none "t" (w input)
    let short := Message.clientInit.bytes
    let long := short ++ (Message.resume.bytes ++ Message.resume.bytes)
    (o short).value = .error .closed ∧ sent (o short).trace <+: sent (o long).trace ∧
      (o long).value = .ok ⟨1, none⟩ ∧ (o long).state.source.Brings Message.resume.bytes := by
  intro host w o short long
  have hrow : stops [(3, true)] = [3] := by decide
  have hshort : linesOf short = [short] := Message.linesOf_bytes [.clientInit]
  have hlong : linesOf long = [short, Message.resume.bytes, Message.resume.bytes] :=
    Message.linesOf_bytes [.clientInit, .resume, .resume]
  have hinput : ∀ input, (w input).source.Brings input := fun _ => Source.brings_ofBytes _
  have hsink : Sink.willing.receiver.Obliging := Receiver.willing_obliging
  -- the short input has no answer to the break
  have hvalue : (o short).value = .error .closed := by
    obtain ⟨-, failure, hvalue, hfailure⟩ := replay_refused host [(3, true)] none none "t"
      (w := w short) hsink (hinput short) (k := 0) (by rw [hrow]; decide)
      (by rw [hshort]; exact Message.clientInit.says_bytes) nofun
      (by rw [hshort]; exact fun h => nomatch h.1)
    rw [hshort] at hfailure
    cases hfailure with
    | nothing h =>
        cases h with
        | unfinished => exact hvalue
        | notText h => exact nomatch h
        | noMessage h => exact nomatch h
    | other h => exact nomatch h.1
  -- the long one has one too many
  have hreport : (o long).value = .ok ⟨1, none⟩ := by
    obtain ⟨report, hvalue⟩ := (replay_succeeds_iff host [(3, true)] none none "t"
      (w := w long) hsink (hinput long)).mpr (by
        rw [hlong, hrow]
        refine ⟨Message.clientInit.says_bytes, fun k hk => ?_⟩
        match k with
        | 0 => exact Message.resume.says_bytes
        | k + 1 => exact absurd hk (by simp))
    obtain ⟨rfl, -⟩ := replay_completed host [(3, true)] none none "t" hsink (hinput long) hvalue
    exact hvalue
  have hcausal := session_causal host (.replay .ok [(3, true)] none) (e := .stream) rfl none "t"
    (w := w short) hsink hsink (hinput short) (hinput long)
  have hleaves := session_causal host (.replay .ok [(3, true)] none) (e := .stream) rfl none "t"
    (w := w long) hsink hsink (hinput long) ((List.append_nil long).symm ▸ hinput long)
  obtain ⟨left, hleft, hcount, hwhole, hsource⟩ := hleaves.2.2.2 ⟨1, none⟩ hreport
  have hheard : heard (o long).trace = [short, Message.resume.bytes] := by
    have hlines : [short, Message.resume.bytes] ++ [Message.resume.bytes] =
        heard (o long).trace ++ linesOf left := by
      rw [← Source.linesOf_of_whole hwhole left, ← hleft]
      exact hlong.symm
    exact (List.append_inj_left hlines hcount.symm).symm
  rw [hheard] at hleft
  obtain rfl : Message.resume.bytes = left := by simpa [long] using hleft
  exact ⟨hvalue, hcausal.1, hreport, hsource⟩

end Session

end Lockstep
