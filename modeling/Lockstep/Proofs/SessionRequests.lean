import Lockstep.Proofs.Subject
import Lockstep.Proofs.Unfolding

/-!
# What a session asks for

A session that runs a script was told by the settings which shell runs its commands, and how long to
wait after each break. Both come back in what it asks for, whatever it is answered with: each
command runs under this shell, and each pause is this delay (`Session.script_keepsTo`).

The statement is about the tree of the session and not about a run of it. Each part keeps to the
settings by itself, and the places of a script are gone through once.
-/

namespace Lockstep

open Controller Dialogue

/-- The request is one that these settings allow. -/
def Controller.Request.KeepsTo (shell : String) (delay : Option Nat) : Request → Prop
  | .invoke invocation => invocation.shell = shell
  | .pause milliseconds => delay = some milliseconds
  | _ => True

variable {e : Endpoint} {shell : String} {delay : Option Nat}

/-- The dialogue keeps to the settings, whatever it is answered with. -/
def KeepsTo {α : Type} (shell : String) (delay : Option Nat) (d : Talk α) : Prop :=
  d.Asks (Request.KeepsTo shell delay)

namespace Endpoint

theorem greet_keepsTo : KeepsTo shell delay e.greet.run := by
  cases he : e.hasPeer with
  | false =>
      rw [greet_run_alone he]
      refine .ask trivial ?_
      intro d
      cases d.outcome with
      | error cause => exact .done _
      | ok u => exact .ask trivial fun _ => .done _
  | true =>
      rw [greet_run he]
      refine .ask trivial ?_
      intro d
      cases d.outcome with
      | error cause => exact .done _
      | ok u =>
          dsimp only
          rw [awaitGreeting_run he]
          refine .ask trivial ?_
          intro reply
          dsimp only
          cases greetingResult (hear reply) with
          | ok u => exact .ask trivial fun _ => .done _
          | error failure => exact .done _

theorem rest_keepsTo (line : UInt32) : KeepsTo shell delay (rest delay line) := by
  cases delay with
  | none => exact .ask trivial fun _ => .done _
  | some milliseconds => exact .ask rfl fun _ => .ask trivial fun _ => .done _

theorem suspend_keepsTo (line : UInt32) : KeepsTo shell delay (e.suspend delay line).run := by
  cases he : e.hasPeer with
  | false =>
      rw [suspend_run_alone he]
      refine .ask trivial fun _ => .ask trivial ?_
      intro d
      cases d.outcome with
      | error cause => exact .done _
      | ok u => exact rest_keepsTo line
  | true =>
      rw [suspend_run he]
      refine .ask trivial fun _ => .ask trivial ?_
      intro d
      cases d.outcome with
      | error cause => exact .done _
      | ok u =>
          refine .ask trivial ?_
          intro reply
          cases resumeResult (hear reply) with
          | ok u => exact rest_keepsTo line
          | error failure => exact .done _

theorem close_keepsTo : KeepsTo shell delay e.close.run := by
  rw [close_run]
  refine .ask trivial ?_
  intro d
  cases d.outcome with
  | error cause => exact .done _
  | ok u =>
      cases e with
      | stream => exact .done _
      | loopback => exact .done _
      | socket name port => exact .ask trivial fun _ => .done _

end Endpoint

theorem stepper_keepsTo (event : LineEvent) (p : Progress) :
    KeepsTo shell delay ((stepper e delay).line event p) := by
  obtain ⟨place, inTarget⟩ := event
  cases inTarget with
  | false => exact .done _
  | true =>
      by_cases hold : p.lastLine = some place.line
      · rw [stepper_repeated e delay place hold]
        exact .ask trivial fun _ => .done _
      · rw [stepper_new e delay place hold]
        exact (Endpoint.suspend_keepsTo place.line).bind fun _ => .done _

/-- **Going through places** keeps to the settings if what happens there does. -/
theorem visit_keepsTo {stations : List Station}
    (h : ∀ x ∈ stations, KeepsTo shell delay x.act) (p : Progress) :
    KeepsTo shell delay (visit (stepper e delay) stations p) := by
  induction stations generalizing p with
  | nil => exact .done _
  | cons x rest ih =>
      obtain ⟨hx, hrest⟩ := List.forall_mem_cons.mp h
      rw [visit_cons]
      refine .ask trivial fun _ => (stepper_keepsTo x.event p).bind ?_
      intro r
      obtain ⟨result, p⟩ := r
      cases result with
      | error failure => exact .done _
      | ok u =>
          refine Asks.bind hx ?_
          intro fault
          cases fault with
          | none => exact ih hrest p
          | some text => exact .ask trivial fun _ => .done _

namespace Script

theorem execute_keepsTo (s : Statement) : KeepsTo shell delay (execute shell s) := by
  refine .ask rfl ?_
  intro reply
  cases reply with
  | error cause => exact .done _
  | ok completion =>
      refine .ask trivial ?_
      intro d
      obtain ⟨accepted, outcome⟩ := d
      cases outcome with
      | error cause => exact .done _
      | ok u =>
          show Asks _ (if completion.status.succeeded then _ else _)
          split <;> exact .done _

theorem run_keepsTo (target : String) (p : Progress) :
    KeepsTo shell delay ((engine shell).run (stepper e delay) target p) := by
  show KeepsTo shell delay ((Subject.script shell).engine.run (stepper e delay) target p)
  rw [Subject.run_eq, Subject.read, ask_bind]
  refine .ask trivial ?_
  intro reply
  cases reply with
  | error cause => exact .done _
  | ok text =>
      dsimp only
      cases parse text with
      | error flaw => exact .done _
      | ok statements =>
          have hstations : ∀ x ∈ stations shell target statements, KeepsTo shell delay x.act :=
            forall_stations fun s => execute_keepsTo s
          show Asks _ (visit (stepper e delay) _ p >>= _)
          refine Asks.bind (visit_keepsTo hstations p) ?_
          intro r
          obtain ⟨result, p⟩ := r
          cases result <;> exact .done _

end Script

namespace Session

theorem bidFarewell_keepsTo (breaks : Nat) (fault : Option String) :
    KeepsTo shell delay (bidFarewell e breaks fault) := by
  refine .ask trivial ?_
  intro d
  dsimp only
  cases d.outcome with
  | error cause => exact .done _
  | ok u =>
      refine Endpoint.close_keepsTo.bind ?_
      intro result
      cases result with
      | error failure => exact .done _
      | ok u => exact .ask trivial fun _ => .done _

theorem conclude_keepsTo (r : Except Stop Unit × Progress) :
    KeepsTo shell delay (conclude e r) := by
  obtain ⟨result, p⟩ := r
  cases result with
  | ok u => exact bidFarewell_keepsTo p.breaks none
  | error stop =>
      cases stop with
      | fault text => exact .ask trivial fun _ => bidFarewell_keepsTo p.breaks _
      | aborted failure => exact .ask trivial fun _ => .done _

/-- **A session keeps to what it was told:** each command runs under the shell, and each pause is
the delay. -/
theorem script_keepsTo (target : String) :
    KeepsTo shell delay (run (Script.engine shell) e delay target).run := by
  rw [run_run, introduce_run]
  refine Asks.bind (Endpoint.greet_keepsTo.bind ?_) ?_
  · intro result
    cases result with
    | ok u => exact .done _
    | error failure => exact .ask trivial fun _ => .done _
  · intro result
    cases result with
    | error failure => exact .done _
    | ok u =>
        show Asks _ (((Subject.script shell).engine.resolve target).run >>= _)
        rw [Subject.script_resolve_run]
        refine .ask trivial fun found => .ask trivial fun _ => ?_
        cases found with
        | error cause => exact .done _
        | ok path =>
            refine .ask trivial fun _ => ?_
            exact Asks.bind (Script.run_keepsTo path Progress.start) conclude_keepsTo

end Session

end Lockstep
