import Lockstep.Proofs.ErrorKinds
import Lockstep.Proofs.ScriptSession
import Lockstep.Proofs.Twins

/-!
# Output and faults stay with the target

What a command prints goes to the output, and what becomes of a target that fails goes into the
report. Neither gets to the client: two sessions of a script in which the same commands succeed look
the same from outside, whatever the commands print and however those fail that do not succeed, and
so do two sessions of a replayed target whatever its fault is.

Most parts of a session are plain, and so their own twins. Running a command is where two sessions
part, and `execute_twins` brings them together again: they learn of nothing but the success. From
there on they may be in different faults, which `SameEnd` and `SameReport` carry to the end.
-/

namespace Lockstep

open Controller
open Script (succeeded execute)

variable {η η' : Type} {host : Host η} {host' : Host η'} {early : Bool} {e : Endpoint}

/-! ## Plain parts -/

namespace Endpoint

theorem rest_plain (delay : Option Nat) (line : UInt32) : Plain (rest delay line) := by
  cases delay with
  | none => exact .ask rfl fun _ => .done _
  | some milliseconds => exact .ask rfl fun _ => .ask rfl fun _ => .done _

theorem close_plain : Plain e.close.run := by
  rw [close_run]
  refine .ask rfl (.onDelivery (fun _ _ => .done _) fun _ => ?_)
  cases e with
  | socket host port => exact .ask rfl fun _ => .done _
  | _ => exact .done _

theorem greet_plain : Plain e.greet.run := by
  cases he : e.hasPeer with
  | false =>
      rw [greet_run_alone he]
      exact .ask rfl (.onDelivery (fun _ _ => .done _) fun _ => .ask rfl fun _ => .done _)
  | true =>
      rw [greet_run he]
      refine .ask rfl (.onDelivery (fun _ _ => .done _) fun _ => ?_)
      dsimp only
      rw [awaitGreeting_run he]
      refine .ask rfl fun reply => ?_
      cases greetingResult (hear reply) with
      | ok u => exact .ask rfl fun _ => .done _
      | error failure => exact .done _

theorem suspend_plain (delay : Option Nat) (line : UInt32) : Plain (e.suspend delay line).run := by
  cases he : e.hasPeer with
  | false =>
      rw [suspend_run_alone he]
      refine .ask rfl fun _ => .ask rfl (.onDelivery (fun _ _ => .done _) fun _ => ?_)
      exact rest_plain delay line
  | true =>
      rw [suspend_run he]
      refine .ask rfl fun _ => .ask rfl (.onDelivery (fun _ _ => .done _) fun _ => ?_)
      refine .ask rfl fun reply => ?_
      cases resumeResult (hear reply) with
      | ok u => exact rest_plain delay line
      | error failure => exact .done _

end Endpoint

theorem stepper_plain (delay : Option Nat) (event : LineEvent) (p : Progress) :
    Plain ((stepper e delay).line event p) := by
  obtain ⟨place, inTarget⟩ := event
  cases inTarget with
  | false => exact .done _
  | true =>
      by_cases hold : p.lastLine = some place.line
      · rw [stepper_repeated e delay place hold]
        exact .ask rfl fun _ => .done _
      · rw [stepper_new e delay place hold]
        exact (Endpoint.suspend_plain delay place.line).bind fun _ => .done _

theorem Session.introduce_plain : Plain (Session.introduce e).run := by
  rw [introduce_run]
  refine Endpoint.greet_plain.bind fun result => ?_
  cases result with
  | ok u => exact .done _
  | error failure => exact .ask rfl fun _ => .done _

/-! ## Running a command -/

/-- Both have a fault, or neither has one. -/
def SameFault (fault fault' : Option String) : Prop := fault.isSome = fault'.isSome

theorem Statement.isSome_fault? (shell : String) (s : Statement)
    (r : Except SystemError Completion) : (s.fault? shell r).isSome = !succeeded r := by
  cases hr : succeeded r with
  | true =>
      rw [fault?_eq_none.mpr hr]
      rfl
  | false =>
      cases hf : s.fault? shell r with
      | none => exact absurd (fault?_eq_none.mp hf) (by rw [hr]; decide)
      | some text => rfl

/-- What is done with the outcome of a command: its output is passed on, and it may be a fault. -/
def Statement.settle (shell : String) (s : Statement) :
    Except SystemError Completion → Talk (Option String)
  | .error cause => .done (s.fault? shell (.error cause))
  | .ok completion => .ask (.relay completion.out completion.err) fun d =>
    match d.outcome with
    | .error cause =>
      .done (some s!"line {s.line.toNat}: failed to relay output: {cause.message}")
    | .ok () => .done (s.fault? shell (.ok completion))

theorem Script.execute_settle (shell : String) (s : Statement) :
    execute shell s = .ask (.invoke (s.invocation shell)) (s.settle shell) := by
  rw [execute_run]
  refine Dialogue.ask_congr fun r => ?_
  cases r <;> rfl

/-- Passing on output that is accepted is private, and leaves the fault. -/
theorem Statement.settle_left {α : Type} {late : Bool} {good : Option String → α → Prop}
    {d : Talk α} {shell : String} {s : Statement} {r : Except SystemError Completion}
    (h : Twins host host' early late good (.done (s.fault? shell r)) d) :
    Twins host host' early late good (s.settle shell r) d := by
  cases r with
  | error cause => exact h
  | ok completion =>
      refine .left rfl ?_
      rintro ⟨accepted, outcome⟩ hpassed
      rw [show outcome = .ok () from hpassed]
      exact h

/-- **Of a command, the script learns nothing but whether it succeeded.** -/
theorem Script.execute_twins (shell : String) (s : Statement) :
    Twins host host' early false SameFault (execute shell s) (execute shell s) := by
  rw [execute_settle]
  refine .invoke fun r r' hsame => Statement.settle_left (.symm (Statement.settle_left ?_))
  refine .symm (.done ?_)
  rw [SameFault, Statement.isSome_fault?, Statement.isSome_fault?, hsame]

/-! ## From place to place -/

/-- Runs of a target that end alike, but for their faults, which are so related. -/
inductive SameEnd (ρ : Option String → Option String → Prop) :
    Except Stop Unit × Progress → Except Stop Unit × Progress → Prop
  | stopped (fault fault' : Option String) (p : Progress) (h : ρ fault fault') :
      SameEnd ρ (Engine.ending fault, p) (Engine.ending fault', p)
  | aborted (failure : SessionError) (p : Progress) :
      SameEnd ρ (.error (.aborted failure), p) (.error (.aborted failure), p)

/-- What happens at the place cannot be told apart but by its fault. -/
def Station.Confined (host : Host η) (host' : Host η') (x : Station) : Prop :=
  Twins host host' false false SameFault x.act x.act

/-- **Going through places,** two targets have their faults at the same place. -/
theorem visit_twins (delay : Option Nat) {stations : List Station}
    (h : ∀ x ∈ stations, x.Confined host host') (p : Progress) :
    Twins host host' false false (SameEnd SameFault) (visit (stepper e delay) stations p)
      (visit (stepper e delay) stations p) := by
  induction stations generalizing p with
  | nil => exact .done (.stopped none none p rfl)
  | cons x rest ih =>
      obtain ⟨hx, hrest⟩ := List.forall_mem_cons.mp h
      rw [visit_cons]
      refine .ask rfl fun _ => (stepper_plain delay x.event p).twins.bind ?_
      rintro ⟨result, p⟩ _ rfl
      cases result with
      | error failure => exact .done (.aborted failure p)
      | ok u =>
          refine hx.bind fun fault fault' hfault => ?_
          cases fault with
          | none =>
              cases fault' with
              | none => exact ih hrest p
              | some text => exact nomatch hfault
          | some text =>
              cases fault' with
              | none => exact nomatch hfault
              | some text' =>
                  refine .left rfl fun _ _ => .right rfl fun _ _ => .done ?_
                  exact .stopped (some text) (some text') p rfl

/-- After the last place, a target may have a fault of its own. -/
theorem SameEnd.onPassed {ρ : Option String → Option String → Prop}
    {r r' : Except Stop Unit × Progress} (h : SameEnd SameFault r r') {fault fault' : Option String}
    (hfault : ρ fault fault') (htexts : ∀ text text', ρ (some text) (some text')) :
    Twins host host' early early (SameEnd ρ)
      (Lockstep.onPassed (fun p => .done (Engine.ending fault, p)) r)
      (Lockstep.onPassed (fun p => .done (Engine.ending fault', p)) r') := by
  cases h with
  | aborted failure p => exact .done (.aborted failure p)
  | stopped before before' p h =>
      cases before with
      | none =>
          cases before' with
          | none => exact .done (.stopped fault fault' p hfault)
          | some text => exact nomatch h
      | some text =>
          cases before' with
          | none => exact nomatch h
          | some text' =>
              exact .done (.stopped (some text) (some text') p (htexts ..))

namespace Subject

/-- The places of a script, which has no fault but those of its commands. -/
theorem script_read_twins (shell path : String) :
    Twins host host' true true
      (fun r r' => r = r' ∧ ∀ stations fault, r = .ok (stations, fault) →
        fault = none ∧ ∀ x ∈ stations, x.Confined host host')
      ((script shell).read path) ((script shell).read path) := by
  refine .load fun reply => ?_
  cases reply with
  | error cause => exact .done ⟨rfl, nofun⟩
  | ok text =>
      dsimp only
      cases Script.parse text with
      | error flaw => exact .done ⟨rfl, nofun⟩
      | ok statements =>
          refine .done ⟨rfl, ?_⟩
          rintro stations fault ⟨⟩
          exact ⟨rfl, Script.forall_stations fun s => Script.execute_twins shell s⟩

theorem script_run_twins (shell : String) (delay : Option Nat) (path : String) (p : Progress) :
    Twins host host' true false (SameEnd SameFault)
      ((script shell).engine.run (stepper e delay) path p)
      ((script shell).engine.run (stepper e delay) path p) := by
  rw [run_eq]
  refine (script_read_twins shell path).bind ?_
  rintro r _ ⟨rfl, hr⟩
  refine .of_late ?_
  cases r with
  | error text => exact .done (.stopped (some text) (some text) p rfl)
  | ok r =>
      obtain ⟨stations, fault⟩ := r
      obtain ⟨rfl, hconfined⟩ := hr stations fault rfl
      exact (visit_twins delay hconfined p).bind fun _ _ h => h.onPassed rfl fun _ _ => rfl

/-- Replayed targets come to the same places, whatever their faults are. -/
theorem replay_run_twins (found : String → Except SystemError String)
    (lines : List (UInt32 × Bool)) (fault fault' : Option String) (delay : Option Nat)
    (path : String) (p : Progress) :
    Twins host host' true false (SameEnd fun _ _ => True)
      ((replay found lines fault).engine.run (stepper e delay) path p)
      ((replay found lines fault').engine.run (stepper e delay) path p) := by
  rw [run_eq, run_eq]
  refine .of_late ?_
  have hconfined : ∀ x ∈ lines.map (Engine.station path), x.Confined host host' := by
    intro x hx
    obtain ⟨line, -, rfl⟩ := List.mem_map.mp hx
    exact .done rfl
  exact (visit_twins delay hconfined p).bind fun _ _ h => h.onPassed trivial fun _ _ => trivial

theorem script_resolve_twins (shell path : String) :
    Twins host host' true true Eq ((script shell).engine.resolve path).run
      ((script shell).engine.resolve path).run := by
  rw [script_resolve_run]
  exact .resolve fun _ => .ask rfl fun _ => .done rfl

theorem replay_resolve_plain (found : String → Except SystemError String)
    (lines : List (UInt32 × Bool)) (fault : Option String) (path : String) :
    Plain ((replay found lines fault).engine.resolve path).run := by
  rw [replay_resolve_run]
  exact .ask rfl fun _ => .done _

end Subject

/-! ## Sessions -/

namespace Session

/-- Results of sessions that are alike, but for the faults in their reports. -/
inductive SameReport (ρ : Option String → Option String → Prop) :
    Except SessionError Report → Except SessionError Report → Prop
  | ended {fault fault' : Option String} (breaks : Nat) (h : ρ fault fault') :
      SameReport ρ (.ok ⟨breaks, fault⟩) (.ok ⟨breaks, fault'⟩)
  | failed (failure : SessionError) : SameReport ρ (.error failure) (.error failure)

theorem bidFarewell_plain (breaks : Nat) (fault : Option String) :
    Plain (bidFarewell e breaks fault) := by
  refine .ask rfl (.onDelivery (fun _ _ => .done _) fun _ => ?_)
  refine Endpoint.close_plain.bind fun result => ?_
  cases result with
  | error failure => exact .done _
  | ok u => exact .ask rfl fun _ => .done _

theorem conclude_plain (r : Except Stop Unit × Progress) : Plain (conclude e r) := by
  obtain ⟨result, p⟩ := r
  cases result with
  | ok u => exact bidFarewell_plain p.breaks none
  | error stop =>
      cases stop with
      | fault text => exact .ask rfl fun _ => bidFarewell_plain p.breaks (some text)
      | aborted failure => exact .ask rfl fun _ => .done _

variable {ρ : Option String → Option String → Prop}

/-- The farewell does not tell of the fault. -/
theorem bidFarewell_twins (breaks : Nat) {fault fault' : Option String} (h : ρ fault fault') :
    Twins host host' early early (SameReport ρ) (bidFarewell e breaks fault)
      (bidFarewell e breaks fault') := by
  refine .ask rfl ?_
  rintro ⟨accepted, outcome⟩
  cases outcome with
  | error cause => exact .done (.failed _)
  | ok u =>
      refine Endpoint.close_plain.twins.bind ?_
      rintro result _ rfl
      cases result with
      | error failure => exact .done (.failed failure)
      | ok u => exact .ask rfl fun _ => .done (.ended breaks h)

theorem conclude_ending_left {α : Type} {late : Bool} {good : Except SessionError Report → α → Prop}
    {d : Talk α} {p : Progress} {fault : Option String}
    (h : Twins host host' early late good (bidFarewell e p.breaks fault) d) :
    Twins host host' early late good (conclude e (Engine.ending fault, p)) d := by
  cases fault with
  | none => exact h
  | some text => exact .left rfl fun _ _ => h

/-- **The fault of a target gets into the report and nowhere else.** -/
theorem conclude_twins {r r' : Except Stop Unit × Progress} (h : SameEnd ρ r r') :
    Twins host host' early early (SameReport ρ) (conclude e r) (conclude e r') := by
  cases h with
  | aborted failure p => exact .ask rfl fun _ => .done (.failed failure)
  | stopped fault fault' p h =>
      refine conclude_ending_left (.symm (conclude_ending_left (.symm ?_)))
      exact bidFarewell_twins p.breaks h

/-- A session is made of a plain greeting, a target that is found, and its run. -/
theorem run_twins (engine engine' : Engine) (delay : Option Nat) (target : String)
    (hresolve : ∀ path, Twins host host' true true Eq (engine.resolve path).run
      (engine'.resolve path).run)
    (hrun : ∀ path p, Twins host host' true false (SameEnd ρ)
      (engine.run (stepper e delay) path p) (engine'.run (stepper e delay) path p)) :
    Twins host host' true false (SameReport ρ) (run engine e delay target).run
      (run engine' e delay target).run := by
  rw [run_run, run_run]
  refine introduce_plain.twins.bind ?_
  rintro greeted _ rfl
  cases greeted with
  | error failure => exact .of_late (.done (.failed failure))
  | ok u =>
      refine (hresolve target).bind ?_
      rintro resolved _ rfl
      cases resolved with
      | error failure => exact .of_late (.done (.failed failure))
      | ok path =>
          refine .ask rfl fun _ => (hrun path Progress.start).bind ?_
          exact fun r r' h => conclude_twins h

end Session

/-! ## What reaches the output -/

/-- What a command printed: its output, and then its errors. -/
def Script.output : Except SystemError Completion → Bytes
  | .ok completion => completion.out ++ completion.err
  | .error _ => []

/-- What commands printed, one after another. -/
def Script.outputs (ran : List (Invocation × Except SystemError Completion)) : Bytes :=
  ran.flatMap fun x => output x.2

open Script (outputs)

/-- Where all output is accepted, what reaches it is what the commands print. -/
def Relays {α : Type} (host : Host η) (d : Talk α) : Prop :=
  ∀ w : World η, w.output.receiver.Obliging →
    let o := d.run (World.answer host) w
    printed o.trace = outputs (executed o.trace) ∧ o.state.output.receiver.Obliging

/-- A command, or output that is passed on. -/
def Controller.Request.isCommand : Request → Bool
  | .invoke _ | .relay _ _ => true
  | _ => false

namespace Relays

variable {α β : Type}

theorem done (a : α) : Relays host (.done a) := fun _ hw => ⟨rfl, hw⟩

/-- One dialogue after another. -/
theorem bind {d : Talk α} {f : α → Talk β} (hd : Relays host d) (hf : ∀ a, Relays host (f a)) :
    Relays host (d >>= f) := by
  intro w hw
  obtain ⟨hfirst, hstate⟩ := hd w hw
  obtain ⟨hlater, hlast⟩ := hf (d.run (World.answer host) w).value _ hstate
  rw [Dialogue.run_bind]
  refine ⟨?_, hlast⟩
  dsimp only
  rw [printed, executed, outputs, List.flatMap_append, List.filterMap_append, List.flatMap_append]
  exact congrArg₂ (· ++ ·) hfirst hlater

theorem ask {r : Request} {next : Reply r → Talk α} (hr : r.isCommand = false)
    (h : ∀ reply, Relays host (next reply)) : Relays host (.ask r next : Talk α) := by
  intro w hw
  rw [Dialogue.run_ask]
  cases r with
  | invoke | relay => exact nomatch hr
  | _ => exact h _ _ hw

theorem of_plain {d : Talk α} (hd : Plain d) : Relays host d := by
  induction d with
  | done a => exact .done a
  | ask r next ih =>
      refine .ask ?_ fun reply => ih reply (hd.2 reply)
      have hr := hd.1
      cases r with
      | invoke | relay => exact nomatch hr
      | _ => rfl

/-- The output of a command is passed on before anything else happens. -/
theorem execute (shell : String) (s : Statement) : Relays host (Script.execute shell s) := by
  rw [Script.execute_settle]
  intro w hw
  rw [Dialogue.run_ask]
  let i := s.invocation shell
  have hanswer : World.answer host (.invoke i) w =
      ((host.invoke w.host i).1, { w with host := (host.invoke w.host i).2 }) := rfl
  rw [hanswer]
  dsimp only
  cases hr : (host.invoke w.host i).1 with
  | error cause => exact ⟨rfl, hw⟩
  | ok completion =>
      obtain ⟨hok, haccepted, hreceiver⟩ :=
        Sink.deliver_obliging hw [completion.out, completion.err]
      have hrelay : World.answer host (.relay completion.out completion.err)
          { w with host := (host.invoke w.host i).2 } =
          ((w.output.deliver [completion.out, completion.err]).1,
            { w with host := (host.invoke w.host i).2,
                     output := (w.output.deliver [completion.out, completion.err]).2 }) := rfl
      rw [Statement.settle, Dialogue.run_ask, hrelay]
      dsimp only
      rw [hok]
      refine ⟨?_, ?_⟩
      · show (w.output.deliver [completion.out, completion.err]).1.accepted.flatten ++ [] =
          (completion.out ++ completion.err) ++ []
        rw [haccepted, List.flatten_cons, List.flatten_singleton]
      · show (w.output.deliver _).2.receiver.Obliging
        rw [hreceiver]
        exact hw

/-- Going through places, each command's output is passed on in its turn. -/
theorem visit (delay : Option Nat) {stations : List Station}
    (h : ∀ x ∈ stations, Relays host x.act) (p : Progress) :
    Relays host (Lockstep.visit (stepper e delay) stations p) := by
  induction stations generalizing p with
  | nil => exact .done _
  | cons x rest ih =>
      obtain ⟨hx, hrest⟩ := List.forall_mem_cons.mp h
      rw [visit_cons]
      refine .ask rfl fun _ => (of_plain (stepper_plain delay x.event p)).bind ?_
      rintro ⟨result, p⟩
      cases result with
      | error failure => exact .done _
      | ok u =>
          refine hx.bind fun fault => ?_
          cases fault with
          | none => exact ih hrest p
          | some text => exact .ask rfl fun _ => .done _

theorem script_read (shell path : String) {f : Except String (List Station × Option String) → Talk β}
    (herror : ∀ text, Relays host (f (.error text)))
    (hok : ∀ stations, (∀ x ∈ stations, Relays host x.act) → Relays host (f (.ok (stations, none)))) :
    Relays host ((Subject.script shell).read path >>= f) := by
  refine .ask rfl fun reply => ?_
  cases reply with
  | error cause => exact herror _
  | ok text =>
      dsimp only
      cases Script.parse text with
      | error flaw => exact herror _
      | ok statements => exact hok _ (Script.forall_stations fun s => execute shell s)

/-- **What reaches the output in a session of a script is what its commands print.** -/
theorem session (shell : String) (delay : Option Nat) (target : String) :
    Relays host (Session.run (Script.engine shell) e delay target).run := by
  rw [Session.run_run]
  refine (of_plain Session.introduce_plain).bind fun greeted => ?_
  cases greeted with
  | error failure => exact .done _
  | ok u =>
      show Relays host (((Subject.script shell).engine.resolve target).run >>= _)
      rw [Subject.script_resolve_run]
      refine .ask rfl fun found => .ask rfl fun _ => ?_
      cases found with
      | error cause => exact .done _
      | ok path =>
          refine .ask rfl fun _ => Relays.bind ?_ fun r => of_plain (Session.conclude_plain r)
          show Relays host ((Subject.script shell).engine.run _ path _)
          rw [Subject.run_eq]
          refine script_read shell path (fun text => .done _) fun stations hstations => ?_
          refine (visit delay hstations _).bind ?_
          rintro ⟨result, p⟩
          cases result <;> exact .done _

end Relays

/-! ## The law -/

/-- A host with one script, whose commands come to given outcomes one after another. -/
def Host.assigned (script : List Char) (outcomes : Nat → Except SystemError Completion) :
    Host Nat where
  resolve _ path := .ok path
  load _ _ := .ok script
  invoke n _ := (outcomes n, n + 1)

/-- Outcomes that agree on which commands succeed make surroundings that match. -/
theorem Controller.Matched.assigned {outcomes outcomes' : Nat → Except SystemError Completion}
    (script : List Char) (w : World Nat) (hout : w.output.receiver.Obliging)
    (h : ∀ n, succeeded (outcomes n) = succeeded (outcomes' n)) :
    Matched early (Host.assigned script outcomes) (Host.assigned script outcomes') w w := by
  refine ⟨rfl, rfl, rfl, ⟨hout, hout⟩, fun is => ?_, fun _ => ⟨rfl, rfl⟩⟩
  induction is generalizing w with
  | nil => rfl
  | cons i rest ih =>
      exact congrArg₂ List.cons (h w.host) (ih { w with host := w.host + 1 } hout)

namespace Session

/-- What a session ended with, where of a fault it is only said whether there was one. -/
def veiled (result : Except SessionError Report) : Except SessionError (Nat × Bool) :=
  result.map fun report => (report.breaks, report.fault.isSome)

theorem SameReport.veiled {r r' : Except SessionError Report} (h : SameReport SameFault r r') :
    veiled r = veiled r' := by
  cases h with
  | failed failure => rfl
  | ended breaks h =>
      show Except.ok (breaks, _) = Except.ok (breaks, _)
      rw [show Option.isSome _ = _ from h]

theorem SameReport.breaks {ρ : Option String → Option String → Prop}
    {r r' : Except SessionError Report} (h : SameReport ρ r r') :
    r.map (·.breaks) = r'.map (·.breaks) := by
  cases h <;> rfl

/--
**What commands print and how they fail is not seen from outside.** Two sessions of a script whose
surroundings differ in nothing but the outcomes of their commands, and agree on which succeed, have
the same exposed exchanges with the same replies. So they send the same, consume the same lines,
come to the same lines of the target, run the same commands, and end alike up to the text of the
fault. What reaches the output is what the executed commands printed, in their order. And two
sessions of a replayed target cannot be told apart by its fault at all.
-/
theorem session_confines (shell : String) (e : Endpoint) (delay : Option Nat) (target : String)
    {w : World η} {w' : World η'} (hw : Matched true host host' w w') :
    let o := outcome host (Script.engine shell) e delay target w
    let o' := outcome host' (Script.engine shell) e delay target w'
    (exposed o.trace = exposed o'.trace ∧ sent o.trace = sent o'.trace ∧
        consumed o.trace = consumed o'.trace ∧ reached o.trace = reached o'.trace ∧
        attempts o.trace = attempts o'.trace ∧ veiled o.value = veiled o'.value) ∧
      printed o.trace = outputs (executed o.trace) ∧
      ∀ found lines fault fault',
        let r := outcome host (Subject.replay found lines fault).engine e delay target w
        let r' := outcome host (Subject.replay found lines fault').engine e delay target w
        exposed r.trace = exposed r'.trace ∧ sent r.trace = sent r'.trace ∧
          r.value.map (·.breaks) = r'.value.map (·.breaks) := by
  intro o o'
  have hscript : Indistinct false host host' (SameReport SameFault) o o' :=
    run_twins (Subject.script shell).engine (Subject.script shell).engine delay target
      (Subject.script_resolve_twins shell) (Subject.script_run_twins shell delay) w w' hw
  refine ⟨⟨hscript.exposed, ?_, ?_, ?_, hscript.attempts, hscript.value.veiled⟩, ?_, ?_⟩
  · rw [← sent_exposed, hscript.exposed, sent_exposed]
  · rw [← consumed_exposed, hscript.exposed, consumed_exposed]
  · rw [← reached_exposed, hscript.exposed, reached_exposed]
  · exact (Relays.session shell delay target w hw.outputs.1).1
  · intro found lines fault fault' r r'
    have hreplay : Indistinct false host host (SameReport fun _ _ => True) r r' :=
      run_twins (Subject.replay found lines fault).engine (Subject.replay found lines fault').engine
        delay target (fun path => (Subject.replay_resolve_plain found lines fault path).twins)
        (Subject.replay_run_twins found lines fault fault' delay) w w (.refl host hw.outputs.1)
    refine ⟨hreplay.exposed, ?_, hreplay.value.breaks⟩
    rw [← sent_exposed, hreplay.exposed, sent_exposed]

/-- One command prints what looks like a last message and one is killed, or both print nothing and
one cannot be started: this makes no difference to the client. -/
theorem session_confines_forged_finish :
    let world (outcomes : Nat → Except SystemError Completion) : Host Nat × World Nat :=
      (.assigned "first\nsecond".toList outcomes,
        ⟨.ofBytes ([Message.clientInit, .resume, .resume].flatMap Message.bytes), .willing, .willing,
          .ok (), 0⟩)
    let loud := world fun n =>
      if n = 0 then .ok ⟨Message.finish.bytes, [7], .exited 0⟩ else .ok ⟨[1], [2], .killed 9 false⟩
    let quiet := world fun n =>
      if n = 0 then .ok ⟨[], [], .exited 0⟩ else .error .notConnected
    let o := outcome loud.1 (Script.engine "sh") .stream none "target" loud.2
    let o' := outcome quiet.1 (Script.engine "sh") .stream none "target" quiet.2
    sent o.trace = sent o'.trace ∧ veiled o.value = veiled o'.value ∧
      printed o.trace = outputs (executed o.trace) := by
  intro world loud quiet o o'
  have hmatched : Matched true loud.1 quiet.1 loud.2 quiet.2 := by
    refine .assigned _ _ Receiver.willing_obliging fun n => ?_
    cases n <;> rfl
  obtain ⟨⟨-, hsent, -, -, -, hvalue⟩, hprinted, -⟩ :=
    session_confines "sh" .stream none "target" hmatched
  exact ⟨hsent, hvalue, hprinted⟩

end Session

end Lockstep
