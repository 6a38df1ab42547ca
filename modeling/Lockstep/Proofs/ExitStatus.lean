import Lockstep.Proofs.ErrorKinds
import Lockstep.Proofs.SettingsFile
import Lockstep.Proofs.Stages
import Lockstep.Proofs.Tolerance

/-!
# What the exit status says

The status of a run of a script is a success just if the run got ready and its session came to its
end. What the script does is no matter for the status, since the session puts up with it. The two
ends leave different traces: a success has sent the whole exchange, with the farewell as its last
line, and a run that did not get ready has sent nothing, and has told at most where a client was to
connect.
-/

namespace Lockstep

open Controller (Dismissed Greeted Idle Healthy)

/-- A session that succeeds has sent its farewell after all else. -/
theorem Session.run_dismissed (subject : Subject) (e : Endpoint) (delay : Option Nat)
    (target : String) :
    (run subject.engine e delay target).run.Ends Controller.Exchange.Fair
      (fun result t => ∀ report, result = .ok report → Dismissed e t) [] := by
  rw [run_eq_proceed]
  refine introduce_ends.bind ?_
  intro greeted t h
  cases greeted with
  | error failure => exact nofun
  | ok u =>
      refine (proceed_ends subject delay target h.1 h.2).mono ?_
      intro result t h report hresult
      rw [hresult] at h
      exact h

namespace Program

open Session (breakBytes)

variable {η : Type} {site : Site η} {w w' : World η} {c : CommandLine} {start : Start}
  {complaints : List String}

/-! ## What a session leaves at its endpoint -/

/-- What a controller sends gets to the connection that it has, or else to the error output. -/
theorem complained_ofController (e : Endpoint) (t : List Controller.Exchange) :
    (t.map (Exchange.ofController e)).flatMap Exchange.complained =
      match e with
      | .socket _ _ => []
      | .stream | .loopback => Controller.sent t := by
  rw [List.flatMap_map]
  cases e with
  | socket host port => exact List.flatMap_eq_nil_iff.mpr fun _ _ => rfl
  | stream => rfl
  | loopback => rfl

theorem sent_ofController (e : Endpoint) (t : List Controller.Exchange) :
    (t.map (Exchange.ofController e)).flatMap Exchange.sent =
      match e with
      | .socket _ _ => Controller.sent t
      | .stream | .loopback => [] := by
  rw [List.flatMap_map]
  cases e with
  | socket host port => rfl
  | stream => exact List.flatMap_eq_nil_iff.mpr fun _ _ => rfl
  | loopback => exact List.flatMap_eq_nil_iff.mpr fun _ _ => rfl

theorem sent_of_prepares {t : List Exchange} (h : ∀ x ∈ t, x.request.Prepares) :
    t.flatMap Exchange.sent = [] :=
  List.flatMap_eq_nil_iff.mpr fun x hx => (h x hx).silent.2

theorem printed_of_prepares {t : List Exchange} (h : ∀ x ∈ t, x.request.Prepares) :
    t.flatMap Exchange.printed = [] :=
  List.flatMap_eq_nil_iff.mpr fun x hx => (h x hx).silent.1

/-! ## The two ways of a run -/

/-- **A run that gets ready** is what comes before the session, the session, and perhaps a note. -/
theorem run_ready (hinit : c.init = false) (hattach : c.attachment = none) (bound : Nat)
    (h : Ready site w c start complaints w') :
    let o := (run c bound).run.runWaiting (World.answer site) w
    let session := start.outcome site w'
    (∃ before after, o.trace =
        before ++ session.trace.map (Exchange.ofController start.endpoint) ++ after ∧
      (∀ x ∈ before ++ after, x.request.Prepares) ∧
      before.flatMap Exchange.complained =
        complaintBytes complaints ++ announcement start.endpoint ∧
      after.flatMap Exchange.complained = []) ∧
      o.value = some ((session.value.map fun _ => ()).mapError Failure.session) := by
  rw [run_eq_prepare hinit hattach]
  rcases prepare_cases site w c with ⟨start', complaints', hready, hdone, hsaid⟩ | ⟨-, hnot, -⟩
  · obtain ⟨rfl, rfl, hstate⟩ := h.unique hready
    rw [runWaiting_andThen_ok hdone]
    dsimp only
    rw [← hstate]
    obtain ⟨after, htrace, hafter, hquiet, hvalue⟩ := conduct_run site w' start
    refine ⟨⟨_, after, ?_, ?_, hsaid, hquiet⟩, hvalue⟩
    · rw [htrace, List.append_assoc]
    · exact List.forall_mem_append.mpr ⟨(prepare_asks c).runWaiting _ w, hafter⟩
  · exact absurd h (hnot start complaints w')

/-- **A run that does not get ready** asks for no session. -/
theorem run_unready (hinit : c.init = false) (hattach : c.attachment = none) (bound : Nat)
    (h : ∀ start complaints w', ¬ Ready site w c start complaints w') :
    let o := (run c bound).run.runWaiting (World.answer site) w
    (∀ u, o.value ≠ some (.ok u)) ∧ (∀ x ∈ o.trace, x.request.Prepares) ∧
      Attempted site w c (o.trace.flatMap Exchange.complained) := by
  rw [run_eq_prepare hinit hattach]
  rcases prepare_cases site w c with ⟨start, complaints, hready, -⟩ | ⟨hill, -, hsaid⟩
  · exact absurd hready (h start complaints _)
  · obtain ⟨hvalue, htrace⟩ := runWaiting_andThen_ill hill (f := conduct)
    refine ⟨hvalue, ?_⟩
    rw [htrace]
    exact ⟨(prepare_asks c).runWaiting _ w, hsaid⟩

/-! ## The status -/

theorem exitCode_eq_zero (site : Site η) (w : World η) (c : CommandLine) (bound : Nat) :
    (perform site w c bound).exitCode = some 0 ↔
      ((run c bound).run.runWaiting (World.answer site) w).value = some (.ok ()) := by
  rw [perform]
  dsimp only
  split <;> simp_all

/-- The whole exchange was sent, with the farewell as its last line; what was said before is what
was wrong with the filter of the journal, and where the client was to connect. -/
def Ending.Finished (ending : Ending η) (e : Endpoint) (complaints : List String) : Prop :=
  ∃ row, let exchange := e.opening.bytes ++ breakBytes row ++ Message.finish.bytes
    match e with
    | .socket _ _ =>
      ending.errors = complaintBytes complaints ++ e.opening.bytes ∧ ending.sent = exchange
    | .stream | .loopback =>
      ending.errors = complaintBytes complaints ++ exchange ∧ ending.sent = []

/-- **A session that succeeds** has sent the whole exchange. -/
theorem finished_of_ok (hinit : c.init = false) (hattach : c.attachment = none) (bound : Nat)
    (h : Ready site w c start complaints w') {report : Report}
    (hreport : (start.outcome site w').value = .ok report) :
    (perform site w c bound).Finished start.endpoint complaints := by
  obtain ⟨⟨before, after, htrace, hprepares, hbefore, hafter⟩, hvalue⟩ :=
    run_ready hinit hattach bound h
  rw [hreport] at hvalue
  have hends := (Session.run_dismissed (.script start.settings.shell) start.endpoint
    (start.settings.delay.map UInt64.toNat) start.target).run (serve_fair site start.endpoint) w'
  obtain ⟨row, hrow⟩ : Dismissed start.endpoint (start.outcome site w').trace :=
    hends report hreport
  obtain ⟨hquiet, hquiet'⟩ := List.forall_mem_append.mp hprepares
  have herrors : (perform site w c bound).errors = complaintBytes complaints ++
      announcement start.endpoint ++ ((start.outcome site w').trace.map
        (Exchange.ofController start.endpoint)).flatMap Exchange.complained := by
    rw [perform]
    dsimp only
    rw [hvalue, htrace]
    dsimp only [Except.map, Except.mapError]
    rw [List.flatMap_append, List.flatMap_append, hbefore, hafter, List.append_nil]
    exact List.append_nil _
  have hsent : (perform site w c bound).sent = ((start.outcome site w').trace.map
      (Exchange.ofController start.endpoint)).flatMap Exchange.sent := by
    rw [perform]
    dsimp only
    rw [htrace, List.flatMap_append, List.flatMap_append, sent_of_prepares hquiet,
      sent_of_prepares hquiet', List.append_nil, List.nil_append]
  rw [complained_ofController] at herrors
  rw [sent_ofController] at hsent
  refine ⟨row, ?_⟩
  cases he : start.endpoint with
  | socket host port =>
      rw [he] at herrors hsent hrow
      exact ⟨herrors.trans (List.append_nil _), hsent.trans hrow⟩
  | _ =>
      rw [he] at herrors hsent hrow
      refine ⟨herrors.trans ?_, hsent⟩
      rw [hrow]
      exact congrArg (· ++ _) (List.append_nil _)

/-- **Where no session starts,** nothing is sent or printed; a run that fails says why, and one that
waits for ever says nothing more. -/
theorem ending_of_unready (hinit : c.init = false) (hattach : c.attachment = none) (bound : Nat)
    (h : ∀ start complaints w', ¬ Ready site w c start complaints w') :
    let o := (run c bound).run.runWaiting (World.answer site) w
    let ending := perform site w c bound
    ending.output = [] ∧ ending.sent = [] ∧ ∃ said, Attempted site w c said ∧
      (o.value = none ∧ ending.exitCode = none ∧ ending.errors = said ∨
        ∃ failure, o.value = some (.error failure) ∧ ending.exitCode = some 1 ∧
          ending.errors = said ++ utf8 failure.render) := by
  obtain ⟨hvalue, hprepares, hsaid⟩ := run_unready hinit hattach bound h
  refine ⟨printed_of_prepares hprepares, sent_of_prepares hprepares, _, hsaid, ?_⟩
  rw [perform]
  dsimp only
  cases hrun : ((run c bound).run.runWaiting (World.answer site) w).value with
  | none => exact .inl ⟨rfl, rfl, List.append_nil _⟩
  | some result =>
      cases result with
      | ok u => exact absurd hrun (hvalue u)
      | error failure => exact .inr ⟨failure, rfl, rfl, rfl⟩

/--
**The exit status says whether the session came to its end.** For any settings, files, script,
commands and client, over any transport: the status is a success just if the settings can be loaded,
the journal can be opened, a script is given, a client is met, and the session under the merged
settings succeeds. A success has sent the whole exchange, with the farewell as its last line. Once
all is ready, the status depends on the client and on whether the target is there, and on nothing
that the target does. Where no session starts, nothing is asked of a controller, so no command runs,
and no message is written but for the one that tells a client where to connect.
-/
theorem exit_status (site : Site η) (w : World η) {c : CommandLine} (hinit : c.init = false)
    (hattach : c.attachment = none) (bound : Nat) :
    let o := (run c bound).run.runWaiting (World.answer site) w
    let ending := perform site w c bound
    (ending.exitCode = some 0 ↔ ∃ start complaints w' report,
        Ready site w c start complaints w' ∧ (start.outcome site w').value = .ok report) ∧
      (ending.exitCode = some 0 → ∃ start complaints w',
        Ready site w c start complaints w' ∧ ending.Finished start.endpoint complaints) ∧
      (∀ start complaints w', Ready site w c start complaints w' →
        (ending.exitCode = some 0 ↔ Healthy (start.outcome site w').trace)) ∧
      ((∀ start complaints w', ¬ Ready site w c start complaints w') →
        (∀ x ∈ o.trace, x.request.Prepares) ∧ ending.output = [] ∧ ending.sent = [] ∧
          ∃ said, Attempted site w c said ∧
            (o.value = none ∧ ending.exitCode = none ∧ ending.errors = said ∨
              ∃ failure, o.value = some (.error failure) ∧ ending.exitCode = some 1 ∧
                ending.errors = said ++ utf8 failure.render)) := by
  intro o ending
  -- once all is ready, the status is that of the session
  have hready : ∀ start complaints w', Ready site w c start complaints w' →
      (ending.exitCode = some 0 ↔ ∃ report, (start.outcome site w').value = .ok report) := by
    intro start complaints w' h
    obtain ⟨-, hvalue⟩ := run_ready hinit hattach bound h
    rw [exitCode_eq_zero, hvalue]
    cases (start.outcome site w').value with
    | ok report => exact iff_of_true rfl ⟨report, rfl⟩
    | error failure => exact iff_of_false nofun nofun
  have hstatus : ending.exitCode = some 0 ↔ ∃ start complaints w' report,
      Ready site w c start complaints w' ∧ (start.outcome site w').value = .ok report := by
    constructor
    · intro hzero
      by_cases h : ∃ start complaints w', Ready site w c start complaints w'
      · obtain ⟨start, complaints, w', h⟩ := h
        obtain ⟨report, hreport⟩ := (hready start complaints w' h).mp hzero
        exact ⟨start, complaints, w', report, h, hreport⟩
      · have hnot : ∀ start complaints w', ¬ Ready site w c start complaints w' :=
          fun start complaints w' hr => h ⟨start, complaints, w', hr⟩
        have hvalue := (exitCode_eq_zero site w c bound).mp hzero
        exact absurd hvalue ((run_unready hinit hattach bound hnot).1 ())
    · intro ⟨start, complaints, w', report, h, hreport⟩
      exact (hready start complaints w' h).mpr ⟨report, hreport⟩
  refine ⟨hstatus, ?_, ?_, ?_⟩
  · intro hzero
    obtain ⟨start, complaints, w', report, h, hreport⟩ := hstatus.mp hzero
    exact ⟨start, complaints, w', h, finished_of_ok hinit hattach bound h hreport⟩
  · intro start complaints w' h
    rw [hready start complaints w' h]
    exact Session.script_ok_iff_healthy (World.serve site start.endpoint) w' start.target
  · intro h
    exact ⟨(run_unready hinit hattach bound h).2.1, ending_of_unready hinit hattach bound h⟩

/-- A script whose shell is missing is a success. Without a script there is nothing to be run, and
where accepting the client fails it has been told where to connect, but nothing is sent to it. -/
theorem exit_status_missing_shell :
    let w : World Bytes := World.bare (utf8 "transport = \"none\"\n")
    let unlucky : World Bytes := { World.bare (utf8 "transport = \"socket\"\n") with
      network := ⟨fun _ => .ok 4711, some (.error (.numbered 24)), .ok (), fun _ _ => .ok ()⟩ }
    let c (file : Option String) : CommandLine := ⟨Settings.defaultPath, file, false, .none, none⟩
    let ending := perform notebook w (c (some "script.txt")) 0
    let refused := perform notebook unlucky (c (some "script.txt")) 0
    (c (some "script.txt")).init = false ∧ (c (some "script.txt")).attachment = none ∧
      ending.exitCode = some 0 ∧
      (∃ start complaints w', Ready notebook w (c (some "script.txt")) start complaints w' ∧
        Healthy (start.outcome notebook w').trace ∧ ending.Finished start.endpoint complaints) ∧
      (perform notebook w (c none) 0).exitCode = some 1 ∧
      (perform notebook w (c none) 0).sent = [] ∧
      refused.exitCode = some 1 ∧ refused.sent = [] ∧
      (Endpoint.socket "127.0.0.1" 4711).opening.bytes <+: refused.errors := by
  intro w unlucky c ending refused
  have hzero : ending.exitCode = some 0 := by decide +kernel
  obtain ⟨-, hfinished, hhealthy, -⟩ :=
    exit_status notebook w (c := c (some "script.txt")) rfl rfl 0
  obtain ⟨start, complaints, w', hready, hwhole⟩ := hfinished hzero
  have hnone : ∀ start complaints w', ¬ Ready notebook w (c none) start complaints w' :=
    fun start complaints w' h => nomatch h.target
  obtain ⟨-, -, -, hunready⟩ := exit_status notebook w (c := c none) rfl rfl 0
  -- whoever is to be met is met at a socket, and nobody is accepted there
  have hloaded : ((loaded notebook unlucky.site Settings.defaultPath).map
      (c (some "script.txt")).overrides.apply).toOption =
        some { Settings.default with transport := .socket } := by
    decide +kernel
  have hunmet : ∀ start complaints w',
      ¬ Ready notebook unlucky (c (some "script.txt")) start complaints w' := by
    intro start complaints w' h
    have hsettings :=
      Option.some.inj (hloaded.symm.trans (congrArg Except.toOption h.settings))
    obtain ⟨opened, hopens, hmeets⟩ := h.met
    rw [← hsettings] at hopens hmeets
    cases hopens with
    | unwanted _ =>
        have hlisten : unlucky.network.listen Settings.default.host = .ok 4711 := rfl
        obtain ⟨-, ⟨client, haccept⟩, -⟩ := hmeets.of_socket rfl hlisten
        exact nomatch haccept
    | already hjournal => exact absurd rfl hjournal
    | opened hfile _ _ => exact nomatch hfile
  obtain ⟨-, -, -, hrefused⟩ := exit_status notebook unlucky (c := c (some "script.txt")) rfl rfl 0
  refine ⟨rfl, rfl, hzero, ⟨start, complaints, w', hready, ?_, hwhole⟩, ?_, ?_, ?_, ?_, ?_⟩
  · exact (hhealthy start complaints w' hready).mp hzero
  · decide +kernel
  · exact (hunready hnone).2.2.1
  · decide +kernel
  · exact (hrefused hunmet).2.2.1
  · decide +kernel

end Program

end Lockstep
