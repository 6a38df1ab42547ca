import Lockstep.Proofs.Course
import Lockstep.Proofs.ReplaySession

/-!
# Sessions of a script

What a client sees of a script whose output is always passed on: a break at each statement up to
the first that has a failing iteration, and the farewell. The commands that run are those of the
same statements, each as often as it says, but for the failing statement, which stops with its
first failing iteration; and the fault names the line of the last break.

The parts of a session are played one after another, as for a replayed target, and between two
breaks commands are run. `Runs` is what the parts have in common, and its rules are the steps of the
loop. How far the script gets is not decided here.
-/

namespace Lockstep

open Controller (Plays Deed deeds sent executed)
open Script (succeeded firstFault breaksFrom)
open Session (breakBytes)

/-! ## Running a script -/

section Running

open Script (execute station)

variable {η : Type} (host : Host η) (shell : String)

/-- A command is run, its output is passed on, and then its fault is known. -/
theorem Script.execute_run (s : Statement) :
    execute shell s = .ask (.invoke (s.invocation shell)) fun
      | .error cause => .done (s.fault? shell (.error cause))
      | .ok completion => .ask (.relay completion.out completion.err) fun d =>
        match d.outcome with
        | .error cause =>
          .done (some s!"line {s.line.toNat}: failed to relay output: {cause.message}")
        | .ok () => .done (s.fault? shell (.ok completion)) := by
  refine Dialogue.ask_congr ?_
  intro r
  cases r with
  | error cause => rfl
  | ok completion =>
      refine Dialogue.ask_congr ?_
      rintro ⟨accepted, outcome⟩
      cases outcome with
      | error cause => rfl
      | ok u =>
          show (if completion.status.succeeded then _ else _ : Talk (Option String)) = _
          rw [Statement.fault?]
          split <;> rfl

/-- Where all output is accepted, a command has the fault that it deserves. -/
theorem Script.execute_plays (s : Statement) {v : View η} (hout : v.output.receiver.Obliging) :
    let r := host.invoke v.host (s.invocation shell)
    ∃ ds v', Plays host (execute shell s) v (s.fault? shell r.1) ds v' ∧
      ds.flatMap Deed.bytes = [] ∧ ds.filterMap Deed.invocation? = [s.invocation shell] ∧
      v'.host = r.2 ∧ v'.output.receiver.Obliging ∧ v'.source = v.source ∧
      v'.hangUp = v.hangUp := by
  intro r
  rw [execute_run]
  cases hr : r.1 with
  | error cause =>
      refine ⟨[.invoked (s.invocation shell)], { v with host := r.2 }, .invoke ?_, rfl, rfl, rfl,
        hout, rfl, rfl⟩
      rw [show (host.invoke v.host (s.invocation shell)).1 = .error cause from hr]
      exact .done _
  | ok completion =>
      obtain ⟨hok, -, hreceiver⟩ := Sink.deliver_obliging hout [completion.out, completion.err]
      let d := v.output.deliver [completion.out, completion.err]
      refine ⟨[.invoked (s.invocation shell), .printed d.1.accepted.flatten],
        { v with host := r.2, output := d.2 }, .invoke ?_, rfl, rfl, rfl, ?_, rfl, rfl⟩
      · rw [show (host.invoke v.host (s.invocation shell)).1 = .ok completion from hr]
        refine .relay ?_
        dsimp only
        rw [hok]
        exact .done _
      · show d.2.receiver.Obliging
        rw [show d.2.receiver = v.output.receiver from hreceiver]
        exact hout

/-- The dialogue, in this view, reports breaks at the lines of `row` to the client, after some
breaks before, and runs the iterations `ran`, and a fault of these is how it stops. -/
def Runs (d : Talk (Except Stop Unit × Progress)) (v : View η) (before : Nat)
    (row : List UInt32) (ran : List (Statement × Except SystemError Completion)) : Prop :=
  ∃ p ds v', Plays host d v (Engine.ending (firstFault shell ran), p) ds v' ∧
    p.breaks = before + row.length ∧ ds.flatMap Deed.bytes = breakBytes row ∧
    ds.filterMap Deed.invocation? = ran.map (·.1.invocation shell) ∧ v'.hangUp = v.hangUp

namespace Runs

variable {host shell} {d : Talk (Except Stop Unit × Progress)} {v : View η} {before : Nat}
  {row : List UInt32} {ran : List (Statement × Except SystemError Completion)}

theorem stop (p : Progress) : Runs host shell (.done (.ok (), p)) v p.breaks [] [] :=
  ⟨p, [], v, .done _, rfl, rfl, rfl, rfl⟩

theorem mark {m : Mark} {next : Unit → Talk (Except Stop Unit × Progress)}
    (h : Runs host shell (next ()) v before row ran) :
    Runs host shell (.ask (.mark m) next) v before row ran := by
  obtain ⟨p, ds, v', hplays, hrest⟩ := h
  exact ⟨p, ds, v', .mark hplays, hrest⟩

section Line

variable {e : Endpoint} {delay : Option Nat} {place : Place} {p : Progress}
  {f : Except SessionError Unit × Progress → Talk (Except Stop Unit × Progress)}

/-- At a line that is repeated the target goes on. -/
theorem repeated (hold : p.lastLine = some place.line)
    (h : Runs host shell (f (.ok (), p)) v before row ran) :
    Runs host shell ((stepper e delay).line ⟨place, true⟩ p >>= f) v before row ran := by
  obtain ⟨p', ds, v', hplays, hrest⟩ := h
  rw [stepper_repeated e delay place hold]
  exact ⟨p', ds, v', .note hplays, hrest⟩

/-- At a new line there is a break, and the client lets the target go on. -/
theorem suspended (he : e.hasPeer = true) (hnew : p.lastLine ≠ some place.line)
    (hreply : resumeResult (hear v.next) = .ok ())
    (h : Runs host shell (f (.ok (), p.advance place.line)) v.rest (before + 1) row ran) :
    Runs host shell ((stepper e delay).line ⟨place, true⟩ p >>= f) v before (place.line :: row)
      ran := by
  obtain ⟨p', ds, v', hplays, hbreaks, hbytes, hcommands, hhangUp⟩ := h
  have hsuspend := Endpoint.suspend_plays host v he delay place.line
  rw [hreply] at hsuspend
  rw [stepper_new e delay place hnew, bind_assoc]
  refine ⟨p', _, v', hsuspend.bind hplays, ?_, ?_, hcommands, hhangUp⟩
  · rw [hbreaks, List.length_cons]
    omega
  · exact congrArg (_ ++ ·) ((List.nil_append _).trans hbytes)

end Line

/-- After a command that succeeds the script goes on, and after one that fails it stops. -/
theorem command {s : Statement} (hout : v.output.receiver.Obliging) {place : Place} {p : Progress}
    {next : Talk (Except Stop Unit × Progress)} {r : Except SystemError Completion × η}
    (hr : host.invoke v.host (s.invocation shell) = r)
    (hgo : succeeded r.1 = true → ∀ v' : View η, v'.host = r.2 → v'.output.receiver.Obliging →
      v'.source = v.source → Runs host shell next v' p.breaks row ran)
    (hstop : succeeded r.1 = false → row = [] ∧ ran = []) :
    Runs host shell
      (Script.execute shell s >>= fun
        | none => next
        | some fault => .ask (.mark (.faulted place fault)) fun _ =>
          .done (.error (.fault fault), p))
      v p.breaks row ((s, r.1) :: ran) := by
  obtain ⟨ds, v', hplays, hbytes, hcommands, hhost, hout', hsource, hhangUp⟩ :=
    Script.execute_plays host shell s hout
  rw [hr] at hplays hhost
  cases hfault : s.fault? shell r.1 with
  | none =>
      obtain ⟨q, ds', v'', hplays', hbreaks, hbytes', hcommands', hhangUp'⟩ :=
        hgo (Statement.fault?_eq_none.mp hfault) v' hhost hout' hsource
      rw [hfault] at hplays
      refine ⟨q, ds ++ ds', v'', ?_, hbreaks, ?_, ?_, hhangUp'.trans hhangUp⟩
      · rw [firstFault, List.findSome?_cons, hfault]
        exact hplays.bind hplays'
      · rw [List.flatMap_append, hbytes, hbytes', List.nil_append]
      · rw [List.filterMap_append, hcommands, hcommands']
        rfl
  | some text =>
      have hfailed : succeeded r.1 = false := by
        rw [← Bool.not_eq_true]
        intro hgood
        rw [Statement.fault?_eq_none.mpr hgood] at hfault
        cases hfault
      obtain ⟨rfl, rfl⟩ := hstop hfailed
      rw [hfault] at hplays
      refine ⟨p, ds, v', ?_, rfl, hbytes, hcommands, hhangUp⟩
      rw [firstFault, List.findSome?_cons, hfault]
      exact hplays.bind_quiet (.mark (.done _))

end Runs

/-- At the line of an iteration, its command is run, and the others are if it succeeds. -/
theorem iteration_runs (s : Statement) (rest : List Statement) (place : Place)
    (next : Talk (Except Stop Unit × Progress)) {p : Progress} {v : View η}
    (hout : v.output.receiver.Obliging)
    (hnext : ∀ u : View η, u.output.receiver.Obliging →
      let ran := host.attempt shell u.host rest
      let row := breaksFrom (some s.line) ran
      (walk row u.source).result = .ok () → Runs host shell next u p.breaks row ran) :
    let ran := host.attempt shell v.host (s :: rest)
    let row := breaksFrom (some s.line) ran
    (walk row v.source).result = .ok () →
      Runs host shell
        (execute shell s >>= fun
          | none => next
          | some fault => .ask (.mark (.faulted place fault)) fun _ =>
            .done (.error (.fault fault), p))
        v p.breaks row ran := by
  dsimp only
  rw [Host.attempt_cons, Script.breaksFrom_repeated]
  generalize hr : host.invoke v.host (s.invocation shell) = r
  intro hrow
  refine Runs.command hout hr ?_ ?_
  · intro hgood v' hhost hout' hsource
    rw [if_pos hgood] at hrow ⊢
    rw [← hhost, ← hsource] at hrow
    rw [← hhost]
    exact hnext v' hout' hrow
  · intro hbad
    rw [if_neg (by rw [hbad]; exact Bool.false_ne_true)]
    exact ⟨rfl, rfl⟩

/-- **A script runs the iterations that it attempts,** and breaks where the stepper stops for
them, if the client lets it go on each time. -/
theorem visit_runs {e : Endpoint} (he : e.hasPeer = true) (delay : Option Nat) (target : String)
    (todo : List Statement) (p : Progress) {v : View η} (hout : v.output.receiver.Obliging) :
    let ran := host.attempt shell v.host todo
    let row := breaksFrom p.lastLine ran
    (walk row v.source).result = .ok () →
      Runs host shell (visit (stepper e delay) (todo.map (station shell target)) p) v p.breaks row
        ran := by
  induction todo generalizing p v with
  | nil => exact fun _ => .stop p
  | cons s rest ih =>
      rw [List.map_cons, visit_cons]
      intro ran row hrow
      refine Runs.mark ?_
      have hrest : ∀ (q : Progress), q.lastLine = some s.line → ∀ u : View η,
          u.output.receiver.Obliging →
            let ran := host.attempt shell u.host rest
            let row := breaksFrom (some s.line) ran
            (walk row u.source).result = .ok () →
              Runs host shell (visit (stepper e delay) (rest.map (station shell target)) q) u
                q.breaks row ran := by
        intro q hq u hout
        rw [← hq]
        exact ih q hout
      by_cases hnew : p.lastLine = some s.line
      · have hold : row = breaksFrom (some s.line) ran := by rw [← hnew]
        rw [hold] at hrow ⊢
        refine Runs.repeated hnew ?_
        exact iteration_runs host shell s rest _ _ hout (hrest p hnew) hrow
      · -- the break is new, and the iteration comes to a line that is not new any more
        have hfirst : row = s.line :: breaksFrom (some s.line) ran := Script.breaksFrom_new hnew
        rw [hfirst] at hrow ⊢
        cases hreply : resumeResult (hear v.source.readLine.1) with
        | error failure =>
            rw [walk_cons_error hreply] at hrow
            exact nomatch hrow
        | ok u =>
            rw [walk_cons_ok hreply] at hrow
            refine Runs.suspended he hnew hreply ?_
            exact iteration_runs host shell s rest _ _ hout (hrest (p.advance s.line) rfl) hrow

end Running

/-! ## The whole session -/

namespace Session

open Script (iterations Course)
open Line (Says)
open Source (linesOf lineAt lineAt_tail)

variable {η : Type} (host : Host η) (shell : String) {e : Endpoint}

theorem script_resolve_plays (v : View η) {target path : String}
    (h : host.resolve v.host target = .ok path) :
    Plays host ((Subject.script shell).engine.resolve target).run v (.ok path) [] v := by
  rw [Subject.script_resolve_run]
  refine .resolve (.mark ?_)
  rw [h]
  exact .done _

/-- **A greeted session of a script** that was found and read says its opening, runs the script,
and says its farewell. -/
theorem script_plays (v : View η) (he : e.hasPeer = true)
    (hgreeting : greetingResult (hear v.next) = .ok ()) (delay : Option Nat) {target path : String}
    (hresolve : host.resolve v.host target = .ok path) {text : List Char}
    (hload : host.load v.host path = .ok text) {script : List Statement}
    (hparse : Script.parse text = .ok script) (hout : v.output.receiver.Obliging)
    (hclosing : e.closing v.hangUp = .ok ()) :
    let ran := host.attempt shell v.host (iterations script)
    let row := breaksFrom none ran
    (walk row v.rest.source).result = .ok () →
      ∃ ds v', Plays host (run (Subject.script shell).engine e delay target).run v
          (.ok ⟨row.length, firstFault shell ran⟩) ds v' ∧
        ds.flatMap Deed.bytes = e.opening.bytes ++ breakBytes row ++ Message.finish.bytes ∧
        ds.filterMap Deed.invocation? = ran.map (·.1.invocation shell) := by
  intro ran row hrow
  have hruns : Runs host shell
      (visit (stepper e delay) (Script.stations shell path script) .start) v.rest 0 row ran := by
    rw [Script.stations_eq_map]
    exact visit_runs host shell he delay path (iterations script) .start hout hrow
  obtain ⟨p, ds, v', hplays, hbreaks, hbytes, hcommands, hhangUp⟩ := hruns
  have hintroduce := introduce_plays host v he
  rw [hgreeting] at hintroduce
  have hfarewell := conclude_ending_plays host (e := e) v' p (firstFault shell ran)
  rw [show e.closing v'.hangUp = .ok () by rw [hhangUp]; exact hclosing, hbreaks,
    Nat.zero_add] at hfarewell
  -- the script is found and read, and then it runs
  have hrun : Plays host ((Subject.script shell).engine.run (stepper e delay) path .start) v.rest
      (Engine.ending (firstFault shell ran), p) ds v' := by
    rw [Subject.run_eq]
    refine .load ?_
    rw [show host.load v.rest.host path = .ok text from hload]
    dsimp only
    rw [hparse]
    refine hplays.bind_quiet ?_
    cases firstFault shell ran <;> exact .done _
  refine ⟨[.said e.opening.bytes, .heard v.next] ++ ([] ++ (ds ++ [.said Message.finish.bytes])),
    v', ?_, ?_, ?_⟩
  · rw [run_run]
    refine hintroduce.bind ((script_resolve_plays host shell v.rest hresolve).bind ?_)
    exact .note (hrun.bind hfarewell)
  · rw [List.nil_append, ← List.append_assoc, List.flatMap_append, List.flatMap_append, hbytes]
    exact congrArg₂ (· ++ ·) (congrArg (· ++ _) (List.append_nil _)) (List.append_nil _)
  · rw [List.nil_append, List.filterMap_append, List.filterMap_append, hcommands]
    exact List.append_nil _

/--
**What a client sees of a script.** The host finds a target and reads a script in it, whatever its
commands come to; the output accepts everything, and the connection does not fail; and the client
greets and then lets the target go on as often as there are statements. Then the session succeeds.
The statements that it reaches are all of them, or those up to the first that has a failing
iteration, which is the last command that runs. The client is sent a break for each of them, at
later and later lines, and the farewell. The report counts them, and has a fault exactly if a
command failed, which begins with the line of the last break.
-/
theorem script_session {w : World η} (he : e.hasPeer = true) (delay : Option Nat)
    {target path : String} {text : List Char} {script : List Statement} {input : Bytes}
    (hsink : w.sink.receiver.Obliging) (hout : w.output.receiver.Obliging)
    (hclosing : e.closing w.hangUp = .ok ()) (hresolve : host.resolve w.host target = .ok path)
    (hload : host.load w.host path = .ok text) (hparse : Script.parse text = .ok script)
    (hinput : w.source.Brings input) (hgreeting : Says (lineAt (linesOf input) 0) .clientInit)
    (hresumes : ∀ k, k < script.length → Says (lineAt (linesOf input) (k + 1)) .resume) :
    let o := outcome host (Script.engine shell) e delay target w
    ∃ reached fault, Course shell script reached (executed o.trace) ∧
      o.value = .ok ⟨reached.length, fault⟩ ∧
      sent o.trace =
        e.opening.bytes ++ breakBytes (reached.map (·.line)) ++ Message.finish.bytes ∧
      (reached.map (·.line)).Pairwise (· < ·) ∧
      (fault = none ↔ ∀ x ∈ executed o.trace, succeeded x.2 = true) ∧
      ∀ text, fault = some text → ∃ s rest, reached.getLast? = some s ∧
        text = s!"line {s.line.toNat}: " ++ rest := by
  intro o
  obtain ⟨hnext, hsupplies⟩ := next_of_brings hinput
  obtain ⟨reached, hcourse, hrow, hlines, hnames⟩ :=
    Script.attempt_course host shell w.host (Script.parse_ordered hparse)
  have hgreeted : greetingResult (hear (View.ofWorld w).next) = .ok () := by
    rw [hnext]
    exact greetingResult_eq_ok.mpr hgreeting
  have hwalk : (walk (reached.map (·.line)) (View.ofWorld w).rest.source).result = .ok () := by
    refine (walk_eq_ok _ hsupplies).mpr ?_
    intro k hk
    rw [lineAt_tail]
    rw [List.length_map] at hk
    exact hresumes k (hk.trans_le hcourse.length_le)
  have hshows := View.shows_ofWorld hsink
  have hplays := script_plays host shell (View.ofWorld w) he hgreeted delay hresolve hload hparse
    hout hclosing
  dsimp only at hplays
  rw [show (View.ofWorld w).host = w.host from rfl, hrow, List.length_map] at hplays
  obtain ⟨ds, v', hplays, hbytes, hcommands⟩ := hplays hwalk
  -- the commands of the trace are those that were attempted
  have hexecuted : executed o.trace =
      (host.attempt shell w.host (iterations script)).map fun x =>
        (x.1.invocation shell, x.2) := by
    have hresults : executed o.trace = host.results w.host ((executed o.trace).map Prod.fst) :=
      Controller.executed_eq_results host _ w
    rw [Controller.executed_eq_deeds, show deeds o.trace = ds from (hplays w hshows).2.1,
      hcommands] at hresults
    rw [hresults, Host.attempt_results]
  refine ⟨reached, firstFault shell (host.attempt shell w.host (iterations script)), ?_,
    hplays.value hshows, ?_, hlines, ?_, hnames⟩
  · rw [hexecuted]
    exact hcourse
  · exact (hplays.sent hshows).trans hbytes
  · rw [Script.firstFault_eq_none, hexecuted, List.forall_mem_map]

/-- The second statement of three fails: of four commands three run, and there are two breaks. -/
theorem script_session_stopped :
    let host : Host Unit :=
      ⟨fun _ => .ok, fun _ _ => .ok "repeat 2: a\nb\nc".toList,
        fun _ i => (.ok ⟨[], [], .exited (if i.line = 2 then 1 else 0)⟩, ())⟩
    let input := [Message.clientInit, .resume, .resume, .resume].flatMap Message.bytes
    let w : World Unit := ⟨Source.ofBytes input, .willing, .willing, .ok (), ()⟩
    let o := outcome host (Script.engine "sh") .stream none "t" w
    (∃ rest, o.value = .ok ⟨2, some ("line 2: " ++ rest)⟩) ∧ (executed o.trace).length = 3 ∧
      sent o.trace = (Message.serverInit none none).bytes ++ breakBytes [1, 2] ++
        Message.finish.bytes := by
  intro host input w o
  have hlines : linesOf input =
      [Message.clientInit, .resume, .resume, .resume].map Message.bytes := Message.linesOf_bytes _
  have hparse : Script.parse "repeat 2: a\nb\nc".toList =
      .ok [⟨1, "a", 2⟩, ⟨2, "b", 1⟩, ⟨3, "c", 1⟩] := rfl
  have hresolve : host.resolve w.host "t" = .ok "t" := rfl
  obtain ⟨reached, fault, hcourse, hvalue, hsent, -, hfault, hnames⟩ := script_session host "sh"
    (e := .stream) (w := w) rfl none Receiver.willing_obliging Receiver.willing_obliging rfl
    hresolve rfl hparse (Source.brings_ofBytes input)
    (by rw [hlines]; exact Message.clientInit.says_bytes)
    (by
      rw [hlines]
      intro k hk
      match k with
      | 0 | 1 | 2 => exact Message.resume.says_bytes
      | k + 3 => exact absurd hk (by simp))
  have hresult : ∀ x ∈ executed o.trace, succeeded x.2 = true ↔ x.1.line ≠ 2 := by
    have hresults : ∀ invocations, ∀ x ∈ host.results () invocations,
        succeeded x.2 = true ↔ x.1.line ≠ 2 := by
      intro invocations
      induction invocations with
      | nil => exact List.forall_mem_nil _
      | cons i rest ih =>
          refine List.forall_mem_cons.mpr ⟨?_, ih⟩
          show (Status.exited (if i.line = 2 then 1 else 0)).succeeded = true ↔ i.line ≠ 2
          split <;> simp [Status.succeeded, *]
    rw [show executed o.trace = _ from Controller.executed_eq_results host _ w]
    exact hresults _
  have hvalue : o.value = .ok ⟨reached.length, fault⟩ := hvalue
  generalize executed o.trace = ran at hcourse hfault hresult ⊢
  cases hcourse with
  | whole hran hgood =>
      have hsecond : Statement.invocation "sh" ⟨2, "b", 1⟩ ∈ ran.map Prod.fst := by
        rw [hran]
        simp
      obtain ⟨x, hx, hline⟩ := List.mem_map.mp hsecond
      exact absurd (congrArg Invocation.line hline) ((hresult x hx).mp (hgood x hx))
  | @broken before s after i good r hscript hi hcommands _ hbad =>
      have hlast : (s.invocation "sh", r) ∈ good ++ [(s.invocation "sh", r)] :=
        List.mem_append_right _ List.mem_cons_self
      have hline : s.line = 2 := by
        by_contra h
        exact absurd ((hresult _ hlast).mpr h) (by rw [hbad]; exact Bool.false_ne_true)
      -- so the statement that fails is the second one, and there is one before it
      obtain ⟨rfl, rfl⟩ : before = [⟨1, "a", 2⟩] ∧ s = ⟨2, "b", 1⟩ := by
        match before with
        | [] =>
            obtain ⟨rfl, -⟩ := List.cons.inj hscript
            exact absurd hline (by decide)
        | [t] =>
            obtain ⟨rfl, hrest⟩ := List.cons.inj hscript
            exact ⟨rfl, (List.cons.inj hrest).1.symm⟩
        | [t, u] =>
            obtain ⟨-, hrest⟩ := List.cons.inj hscript
            obtain ⟨-, hrest⟩ := List.cons.inj hrest
            obtain ⟨rfl, -⟩ := List.cons.inj hrest
            exact absurd hline (by decide)
        | t :: u :: t' :: more => simp at hscript
      obtain rfl : i = 0 := Nat.lt_one_iff.mp hi
      refine ⟨?_, ?_, hsent⟩
      · cases fault with
        | none =>
            have hgood := hfault.mp rfl _ hlast
            rw [hbad] at hgood
            cases hgood
        | some text =>
            obtain ⟨t, rest, ht, rfl⟩ := hnames text rfl
            obtain rfl := Option.some.inj ht
            exact ⟨rest, hvalue⟩
      · have hlength := congrArg List.length hcommands
        rw [List.length_map] at hlength
        rw [List.length_append, hlength]
        rfl

end Session

end Lockstep
