import Lockstep.Proofs.Transcript

/-!
# What the stepper remembers

An engine may call hooks in any order, and may go on after a call that failed. The stepper counts a
line before it tells the client of it, so what it remembers never depends on the client: it is the
last line of the target file that was reported, and the number of stops among the reported lines.

`stepper_invoke_still` and `stepper_invoke_new` are the two things that a call can do. Every call
but that of a new line leaves everything as it was; a new line is one suspension. By induction on
the calls, a row of calls is the row of suspensions at its stops, and nothing else happens but that
the journal tells of the lines that were suppressed.
-/

namespace Lockstep

open Controller (Exchange sent)
open Session (breakBytes)

variable {σ : Type}

/-! ## Calls -/

/-- A call of a hook. -/
inductive HookCall where
  | line (event : LineEvent)
  | call (place : Place)
  | callEnd (place : Place)
  | exception (place : Place) (fault : String)
  deriving Repr, DecidableEq

namespace HookCall

/-- The line that is reported, and whether it belongs to the target file. -/
def line? : HookCall → Option (UInt32 × Bool)
  | .line event => some (event.place.line, event.inTarget)
  | .call _ | .callEnd _ | .exception _ _ => none

/-- The lines that calls report. -/
def lines (calls : List HookCall) : List (UInt32 × Bool) := calls.filterMap line?

/-- Whether the call reports a new line of the target file. -/
def isNew (p : Progress) : HookCall → Bool
  | .line event => p.isNew event
  | .call _ | .callEnd _ | .exception _ _ => false

end HookCall

namespace Hooks

/-- Makes a call. -/
def invoke (hooks : Hooks σ) : HookCall → σ → Talk (Except SessionError Unit × σ)
  | .line event => hooks.line event
  | .call place => hooks.call place
  | .callEnd place => hooks.callEnd place
  | .exception place fault => hooks.exception place fault

/-- Makes calls one after another, and goes on after one that failed. -/
def invokeAll (hooks : Hooks σ) :
    List HookCall → σ → Talk (List (Except SessionError Unit) × σ)
  | [], s => pure ([], s)
  | call :: rest, s => do
    let (result, s) ← hooks.invoke call s
    let (results, s) ← hooks.invokeAll rest s
    pure (result :: results, s)

end Hooks

/-- Suspends the target at lines one after another, and goes on after a failure. -/
def Endpoint.suspendAll (e : Endpoint) (delay : Option Nat) :
    List UInt32 → Talk (List (Except SessionError Unit))
  | [] => pure []
  | line :: rest => do
    let result ← (e.suspend delay line).run
    let results ← e.suspendAll delay rest
    pure (result :: results)

/-- The last line of the target file that was reported, where `last` is the last one before. -/
def lastFrom (last : Option UInt32) (lines : List (UInt32 × Bool)) : Option UInt32 :=
  (targetLines lines).getLast?.or last

theorem lastFrom_cons (last : Option UInt32) (line : UInt32) (rest : List (UInt32 × Bool)) :
    lastFrom last ((line, true) :: rest) = lastFrom (some line) rest := by
  show (line :: targetLines rest).getLast?.or last = _
  rw [lastFrom, List.getLast?_cons]
  cases (targetLines rest).getLast? <;> rfl

theorem lastFrom_cons_foreign (last : Option UInt32) (line : UInt32)
    (rest : List (UInt32 × Bool)) : lastFrom last ((line, false) :: rest) = lastFrom last rest :=
  rfl

/-- The failures among results, in order. -/
def failures (results : List (Except SessionError Unit)) : List SessionError :=
  results.filterMap fun
    | .ok () => none
    | .error failure => some failure

namespace Controller

/-- The journal tells of the stepper itself, which it does for the lines that are suppressed. -/
def Exchange.isSuppression : Exchange → Bool
  | ⟨.note record, _⟩ => record.origin == .progress
  | _ => false

/-- The exchanges but those that tell of suppressed lines. -/
def unsuppressed (t : List Exchange) : List Exchange := t.filter fun x => !x.isSuppression

/-- The message that is to be sent, if one is. -/
def Exchange.message? : Exchange → Option Message
  | ⟨.send m, _⟩ => some m
  | _ => none

/-- The messages that were to be sent, also those whose delivery failed. -/
def messages (t : List Exchange) : List Message := t.filterMap Exchange.message?

theorem unsuppressed_append (t u : List Exchange) :
    unsuppressed (t ++ u) = unsuppressed t ++ unsuppressed u := List.filter_append ..

theorem messages_append (t u : List Exchange) : messages (t ++ u) = messages t ++ messages u :=
  List.filterMap_append

/-- Suppressed lines say nothing to the client. -/
theorem Exchange.silent_of_suppression {x : Exchange} (hx : x.isSuppression = true) :
    x.message? = none ∧ x.sent = [] := by
  obtain ⟨r, reply⟩ := x
  cases r with
  | note record => exact ⟨rfl, rfl⟩
  | _ => exact nomatch hx

theorem said_unsuppressed (t : List Exchange) :
    messages (unsuppressed t) = messages t ∧ sent (unsuppressed t) = sent t := by
  induction t with
  | nil => exact ⟨rfl, rfl⟩
  | cons x rest ih =>
      rw [unsuppressed, List.filter_cons, messages, messages, sent, sent, List.filterMap_cons,
        List.flatMap_cons]
      cases hx : x.isSuppression with
      | true =>
          obtain ⟨hmessage, hsent⟩ := Exchange.silent_of_suppression hx
          rw [hmessage, hsent]
          exact ih
      | false =>
          refine ⟨?_, congrArg (x.sent ++ ·) ih.2⟩
          show List.filterMap Exchange.message? (x :: unsuppressed rest) = _
          rw [List.filterMap_cons]
          cases x.message? with
          | none => exact ih.1
          | some m => exact congrArg (m :: ·) ih.1

/-- The journal changes nothing for the other requests. -/
def JournalApart (h : Dialogue.Handler interface σ) : Prop :=
  ∀ record s, (h (.note record) s).2 = s

theorem answer_journalApart {η : Type} (host : Host η) : JournalApart (World.answer host) :=
  fun _ _ => rfl

/-! ## A suspension -/

/-- The trace of a suspension, as far as it has come: its break is the only message, and is sent
whole if the suspension succeeds. -/
structure ShowsBreak (line : UInt32) (result : Except SessionError Unit) (t : List Exchange) :
    Prop where
  unsuppressed : ∀ x ∈ t, x.isSuppression = false
  messages : messages t = [.breakAt line]
  sent : result = .ok () → sent t = (Message.breakAt line).bytes

theorem ShowsBreak.append {line : UInt32} {result : Except SessionError Unit} {t : List Exchange}
    {x : Exchange} (h : ShowsBreak line (.ok ()) t) (hx : x.isSuppression = false)
    (hmessage : x.message? = none) (hsent : x.sent = []) : ShowsBreak line result (t ++ [x]) where
  unsuppressed := List.forall_mem_append.mpr ⟨h.unsuppressed, List.forall_mem_singleton.mpr hx⟩
  messages := by
    rw [messages_append, h.messages, Controller.messages, List.filterMap_cons_none hmessage]
    rfl
  sent := by
    intro _
    rw [sent_append, hsent, List.append_nil]
    exact h.sent rfl

end Controller

namespace Endpoint

open Controller (ShowsBreak)

theorem rest_shows {line : UInt32} {t : List Exchange} (h : ShowsBreak line (.ok ()) t)
    (delay : Option Nat) : (rest delay line).Ends Exchange.Fair (ShowsBreak line) t := by
  cases delay with
  | none => exact .ask fun _ _ => h.append rfl rfl rfl
  | some milliseconds =>
      refine .ask fun _ _ => .ask fun _ _ => ?_
      exact ShowsBreak.append (h.append rfl rfl rfl) rfl rfl rfl

theorem suspend_shows (e : Endpoint) (delay : Option Nat) (line : UInt32) :
    (e.suspend delay line).run.Ends Exchange.Fair (ShowsBreak line) [] := by
  -- the break comes first, whether or not there is a client to wait for
  let told : Journal.Record := ⟨.debug, .suspension, "break", [("line", toString line.toNat)]⟩
  have hbreak : ∀ d : Delivery, d.Conveys (Message.breakAt line).bytes → ∀ result,
      (result = .ok () → d.outcome = .ok ()) →
      ShowsBreak line result ([] ++ [⟨.note told, ()⟩] ++ [⟨.send (.breakAt line), d⟩]) := by
    intro d hd result hok
    refine ⟨?_, rfl, ?_⟩
    · exact List.forall_mem_cons.mpr ⟨rfl, List.forall_mem_singleton.mpr rfl⟩
    · intro hresult
      exact (List.append_nil _).trans (hd.whole (hok hresult))
  cases he : e.hasPeer with
  | false =>
      rw [suspend_run_alone he]
      refine .ask fun _ _ => .ask fun d hd => ?_
      cases hd' : d.outcome with
      | error cause => exact hbreak d hd _ nofun
      | ok u => exact rest_shows (hbreak d hd _ fun _ => hd') delay
  | true =>
      rw [suspend_run he]
      refine .ask fun _ _ => .ask fun d hd => ?_
      cases hd' : d.outcome with
      | error cause => exact hbreak d hd _ nofun
      | ok u =>
          have hasked := hbreak d hd (.ok ()) fun _ => hd'
          refine .ask fun reply _ => ?_
          cases resumeResult (hear reply) with
          | ok u => exact rest_shows (hasked.append rfl rfl rfl) delay
          | error failure => exact hasked.append rfl rfl rfl

/-! ## A row of suspensions -/

section Row

variable (e : Endpoint) (delay : Option Nat) (h : Dialogue.Handler Controller.interface σ)

theorem suspendAll_cons_run (line : UInt32) (rest : List UInt32) (s : σ) :
    (e.suspendAll delay (line :: rest)).run h s =
      let first := (e.suspend delay line).run.run h s
      let later := (e.suspendAll delay rest).run h first.state
      ⟨first.value :: later.value, first.trace ++ later.trace, later.state⟩ := by
  rw [suspendAll]
  simp only [Dialogue.run_bind, Dialogue.pure_eq, Dialogue.run, List.append_nil]

/-- A row of suspensions sends its breaks and no other message, and all of them whole if all
suspensions succeed. -/
theorem suspendAll_sends (hfair : ∀ r s, Exchange.Fair ⟨r, (h r s).1⟩) (row : List UInt32)
    (s : σ) :
    let o := (e.suspendAll delay row).run h s
    (∀ x ∈ o.trace, Exchange.isSuppression x = false) ∧
      Controller.messages o.trace = row.map .breakAt ∧
      ((∀ result ∈ o.value, result = .ok ()) → sent o.trace = breakBytes row) := by
  induction row generalizing s with
  | nil => exact ⟨fun _ hx => absurd hx List.not_mem_nil, rfl, fun _ => rfl⟩
  | cons line rest ih =>
      have hfirst := (suspend_shows e delay line).run hfair s
      obtain ⟨hclean, hmessages, hsent⟩ := ih ((e.suspend delay line).run.run h s).state
      rw [suspendAll_cons_run]
      refine ⟨List.forall_mem_append.mpr ⟨hfirst.unsuppressed, hclean⟩, ?_, ?_⟩
      · rw [Controller.messages_append, hmessages]
        exact congrArg (· ++ _) hfirst.messages
      · intro hok
        obtain ⟨hok, hrest⟩ := List.forall_mem_cons.mp hok
        rw [Controller.sent, List.flatMap_append]
        exact congrArg₂ (· ++ ·) (hfirst.sent hok) (hsent hrest)

end Row

end Endpoint

/-! ## One call -/

section Stepper

variable (e : Endpoint) (delay : Option Nat) {p : Progress}

/-- **A call that reports no new line** does nothing, but that a repetition is noted. -/
theorem stepper_invoke_still {c : HookCall} (hc : c.isNew p = false) :
    (stepper e delay).invoke c p = .done (.ok (), p) ∨
      ∃ record : Journal.Record, record.origin = .progress ∧
        (stepper e delay).invoke c p = .ask (.note record) fun _ => .done (.ok (), p) := by
  cases c with
  | call place => exact .inl rfl
  | callEnd place => exact .inl rfl
  | exception place fault => exact .inl rfl
  | line event =>
      obtain ⟨place, inTarget⟩ := event
      cases inTarget with
      | false => exact .inl (stepper_foreign e delay place)
      | true =>
          have hold : p.lastLine = some place.line := by
            simpa [HookCall.isNew, Progress.isNew] using hc
          exact .inr ⟨_, rfl, stepper_repeated e delay place hold⟩

/-- **A call that reports a new line** is a suspension at it, and is counted however it ends. -/
theorem stepper_invoke_new {c : HookCall} (hc : c.isNew p = true) :
    ∃ line, c.line? = some (line, true) ∧ p.lastLine ≠ some line ∧
      (stepper e delay).invoke c p =
        (e.suspend delay line).run >>= fun result => .done (result, p.advance line) := by
  cases c with
  | call place => exact nomatch hc
  | callEnd place => exact nomatch hc
  | exception place fault => exact nomatch hc
  | line event =>
      obtain ⟨place, inTarget⟩ := event
      obtain ⟨rfl, hnew⟩ : inTarget = true ∧ p.lastLine ≠ some place.line := by
        simpa [HookCall.isNew, Progress.isNew] using hc
      exact ⟨place.line, rfl, hnew, stepper_new e delay place hnew⟩

/-- A call that reports no new line adds no stop, and leaves the last line what it is. -/
theorem HookCall.lines_still {c : HookCall} (hc : c.isNew p = false) (rest : List HookCall) :
    stopsFrom p.lastLine (lines (c :: rest)) = stopsFrom p.lastLine (lines rest) ∧
      lastFrom p.lastLine (lines (c :: rest)) = lastFrom p.lastLine (lines rest) := by
  cases c with
  | call place => exact ⟨rfl, rfl⟩
  | callEnd place => exact ⟨rfl, rfl⟩
  | exception place fault => exact ⟨rfl, rfl⟩
  | line event =>
      obtain ⟨⟨path, line⟩, inTarget⟩ := event
      cases inTarget with
      | false => exact ⟨stopsFrom_cons_foreign _ line _, lastFrom_cons_foreign _ line _⟩
      | true =>
          have hold : p.lastLine = some line := by
            simpa [HookCall.isNew, Progress.isNew] using hc
          rw [hold]
          exact ⟨stopsFrom_cons_repeated line _, lastFrom_cons _ line _⟩

/-! ## A row of calls -/

variable (h : Dialogue.Handler Controller.interface σ)

theorem stepper_invokeAll_cons_run (c : HookCall) (rest : List HookCall) (s : σ) :
    ((stepper e delay).invokeAll (c :: rest) p).run h s =
      let first := ((stepper e delay).invoke c p).run h s
      let later := ((stepper e delay).invokeAll rest first.value.2).run h first.state
      ⟨(first.value.1 :: later.value.1, later.value.2), first.trace ++ later.trace,
        later.state⟩ := by
  rw [Hooks.invokeAll]
  simp only [Dialogue.run_bind, Dialogue.pure_eq, Dialogue.run, List.append_nil]

/-- Calls that are made after some progress do what suspensions at their stops do. -/
structure Matches (p : Progress) (calls : List HookCall)
    (o : Dialogue.Outcome Controller.interface σ (List (Except SessionError Unit) × Progress))
    (o' : Dialogue.Outcome Controller.interface σ (List (Except SessionError Unit))) : Prop where
  lastLine : o.value.2.lastLine = lastFrom p.lastLine (HookCall.lines calls)
  breaks : o.value.2.breaks = p.breaks + (stopsFrom p.lastLine (HookCall.lines calls)).length
  trace : Controller.unsuppressed o.trace = o'.trace
  state : o.state = o'.state
  results : o.value.1.length = calls.length ∧ failures o.value.1 = failures o'.value

variable {h}

theorem stepper_still_run (hjournal : Controller.JournalApart h) {c : HookCall}
    (hc : c.isNew p = false) (s : σ) :
    let o := ((stepper e delay).invoke c p).run h s
    o.value = (.ok (), p) ∧ o.state = s ∧ ∀ x ∈ o.trace, Exchange.isSuppression x = true := by
  rcases stepper_invoke_still e delay hc with hdone | ⟨record, horigin, hnote⟩
  · rw [hdone]
    exact ⟨rfl, rfl, fun _ hx => absurd hx List.not_mem_nil⟩
  · rw [hnote, Dialogue.run_ask, hjournal]
    refine ⟨rfl, rfl, List.forall_mem_singleton.mpr ?_⟩
    show (record.origin == .progress) = true
    rw [horigin]
    rfl

theorem stepper_invokeAll_matches (hjournal : Controller.JournalApart h)
    (hfair : ∀ r s, Exchange.Fair ⟨r, (h r s).1⟩) (calls : List HookCall) (p : Progress) (s : σ) :
    Matches p calls (((stepper e delay).invokeAll calls p).run h s)
      ((e.suspendAll delay (stopsFrom p.lastLine (HookCall.lines calls))).run h s) := by
  induction calls generalizing p s with
  | nil => exact ⟨rfl, rfl, rfl, rfl, rfl, rfl⟩
  | cons c rest ih =>
      rw [stepper_invokeAll_cons_run]
      dsimp only
      cases hc : c.isNew p with
      | false =>
          obtain ⟨hvalue, hstate, htrace⟩ := stepper_still_run e delay hjournal hc s
          obtain ⟨hstops, hlast⟩ := HookCall.lines_still hc rest
          have hnothing : Controller.unsuppressed (((stepper e delay).invoke c p).run h s).trace
              = [] := List.filter_eq_nil_iff.mpr fun x hx => by simp [htrace x hx]
          have hrest := ih p s
          rw [hvalue, hstate, hstops]
          refine ⟨hrest.lastLine.trans hlast.symm, ?_, ?_, hrest.state, ?_, hrest.results.2⟩
          · rw [hstops]
            exact hrest.breaks
          · rw [Controller.unsuppressed_append, hnothing]
            exact hrest.trace
          · exact congrArg (· + 1) hrest.results.1
      | true =>
          obtain ⟨line, hline, hnew, hinvoke⟩ := stepper_invoke_new e delay hc
          have hlines : HookCall.lines (c :: rest) = (line, true) :: HookCall.lines rest :=
            List.filterMap_cons_some hline
          have hstops := stopsFrom_cons_new hnew (HookCall.lines rest)
          have hclean := ((Endpoint.suspend_shows e delay line).run hfair s).unsuppressed
          have hrest := ih (p.advance line) ((e.suspend delay line).run.run h s).state
          rw [hlines, hstops, Endpoint.suspendAll_cons_run, hinvoke, Dialogue.run_bind]
          simp only [Dialogue.run, List.append_nil]
          refine ⟨?_, ?_, ?_, hrest.state, ?_, ?_⟩
          · rw [hlines, lastFrom_cons]
            exact hrest.lastLine
          · rw [hlines, hstops, List.length_cons, ← Nat.add_assoc, Nat.add_right_comm]
            exact hrest.breaks
          · rw [Controller.unsuppressed_append]
            refine congrArg₂ (· ++ ·) (List.filter_eq_self.mpr ?_) hrest.trace
            intro x hx
            simp [hclean x hx]
          · exact congrArg (· + 1) hrest.results.1
          · -- the first result is that of the suspension, in both
            have hlater := hrest.results.2
            rw [failures, failures] at hlater ⊢
            rw [List.filterMap_cons, List.filterMap_cons, hlater]
            rfl

end Stepper

/--
**What the stepper remembers depends on the lines of the target file and on nothing else.** After
any calls, also after some that failed, it remembers the last of these lines and the number of
stops. What was done is one suspension at each stop, in order, and the calls that failed are the
suspensions that did. A call that reports no new line succeeds and changes nothing, and only the
journal hears of it. The client is sent a break for each stop and no other message, and if no
suspension fails, it gets them whole.
-/
theorem stepper_calls {h : Dialogue.Handler Controller.interface σ}
    (hjournal : Controller.JournalApart h) (hfair : ∀ r s, Exchange.Fair ⟨r, (h r s).1⟩)
    (e : Endpoint) (delay : Option Nat) (calls : List HookCall) (s : σ) :
    let lines := HookCall.lines calls
    let row := stops lines
    let o := ((stepper e delay).invokeAll calls .start).run h s
    let o' := (e.suspendAll delay row).run h s
    o.value.2 = ⟨(targetLines lines).getLast?, row.length⟩ ∧
      (Controller.unsuppressed o.trace = o'.trace ∧ o.state = o'.state) ∧
      (o.value.1.length = calls.length ∧ failures o.value.1 = failures o'.value) ∧
      (∀ (c : HookCall) (p : Progress) (s : σ), c.isNew p = false →
        let one := ((stepper e delay).invoke c p).run h s
        one.value = (.ok (), p) ∧ one.state = s ∧ ∀ x ∈ one.trace, Exchange.isSuppression x = true) ∧
      Controller.messages o.trace = row.map .breakAt ∧
      ((∀ result ∈ o'.value, result = .ok ()) → sent o.trace = breakBytes row) := by
  intro lines row o o'
  have hmatches := stepper_invokeAll_matches e delay hjournal hfair calls .start s
  have hrow : stopsFrom Progress.start.lastLine (HookCall.lines calls) = row :=
    stopsFrom_none lines
  rw [hrow] at hmatches
  obtain ⟨-, hmessages, hsent⟩ := Endpoint.suspendAll_sends e delay h hfair row s
  obtain ⟨hsaid, hbytes⟩ := Controller.said_unsuppressed o.trace
  rw [hmatches.trace] at hsaid hbytes
  refine ⟨?_, ⟨hmatches.trace, hmatches.state⟩, hmatches.results, ?_, ?_, ?_⟩
  · have hlast : o.value.2.lastLine = (targetLines lines).getLast? :=
      hmatches.lastLine.trans (Option.or_none)
    have hbreaks : o.value.2.breaks = row.length := by
      rw [hmatches.breaks, hrow]
      exact Nat.zero_add _
    rw [← hlast, ← hbreaks]
  · exact fun c p s hc => stepper_still_run e delay hjournal hc s
  · rw [← hsaid, hmessages]
  · intro hok
    rw [← hbytes, hsent hok]

/-- The client does not let the target go on, and the stepper remembers all the same. -/
theorem stepper_calls_unanswered :
    let host : Host Unit :=
      ⟨fun _ => .ok, fun _ _ => .ok [], fun _ _ => (.ok ⟨[], [], .exited 0⟩, ())⟩
    let report (line : UInt32) (inTarget : Bool) : HookCall := .line ⟨⟨"target", line⟩, inTarget⟩
    let calls := [report 3 true, .call ⟨"target", 3⟩, report 9 false, report 3 true, report 5 true,
      .exception ⟨"target", 5⟩ "stopped", report 3 true]
    let w : World Unit := ⟨[.failed .notConnected], .willing, .willing, .ok (), ()⟩
    let o := ((stepper .stream none).invokeAll calls .start).run (World.answer host) w
    o.value.2 = ⟨some 3, 3⟩ ∧
      Controller.messages o.trace = [.breakAt 3, .breakAt 5, .breakAt 3] := by
  intro host report calls w o
  have hrow : stops (HookCall.lines calls) = [3, 5, 3] := by decide
  have hlast : (targetLines (HookCall.lines calls)).getLast? = some 3 := by decide
  obtain ⟨hvalue, -, -, -, hmessages, -⟩ := stepper_calls (Controller.answer_journalApart host)
    (Controller.answer_fair host) .stream none calls w
  rw [hlast, hrow] at hvalue
  rw [hrow] at hmessages
  exact ⟨hvalue, hmessages⟩

end Lockstep
