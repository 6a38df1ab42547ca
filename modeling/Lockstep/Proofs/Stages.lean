import Lockstep.Proofs.Connection
import Lockstep.Proofs.Delegation
import Lockstep.Proofs.Unfolding

/-!
# The stages of a run

A run of a script loads its settings, opens the journal, looks whether it was given a script, and
meets its client; then the session starts. `prepare` is what comes before the session and `conduct`
the rest, so a run is one after the other (`run_eq_prepare`).

Each stage may be the last. `Ready` says without a program what it takes to come through all of
them, and `prepare_cases` that nothing else does: a run that does not get ready has asked for no
session, and all that it has said is what was wrong with the filter of the journal, and perhaps
where a client was to connect.
-/

namespace Lockstep

namespace Dialogue

variable {I : Interface} {α σ : Type} {P : I.Request → Prop}

/-- A request that gets its reply is the first exchange of a run. -/
theorem runWaiting_ask {h : Waiter I σ} {r : I.Request} {next : I.Reply r → Dialogue I α}
    {s s' : σ} {reply : I.Reply r} (hr : h r s = some (reply, s')) :
    (Dialogue.ask r next).runWaiting h s =
      let rest := (next reply).runWaiting h s'
      ⟨rest.value, ⟨r, reply⟩ :: rest.trace, rest.state⟩ := by
  rw [Dialogue.runWaiting, hr]

theorem runWaiting_never {h : Waiter I σ} {r : I.Request} {next : I.Reply r → Dialogue I α}
    {s : σ} (hr : h r s = none) : (Dialogue.ask r next).runWaiting h s = ⟨none, [], s⟩ := by
  rw [Dialogue.runWaiting, hr]

theorem Asks.runWaiting {d : Dialogue I α} (hd : d.Asks P) (h : Waiter I σ) (s : σ) :
    ∀ x ∈ (d.runWaiting h s).trace, P x.request := by
  induction d generalizing s with
  | done a => exact List.forall_mem_nil _
  | ask r next ih =>
      rw [Dialogue.runWaiting]
      cases h r s with
      | none => exact List.forall_mem_nil _
      | some answer =>
          obtain ⟨reply, s'⟩ := answer
          exact List.forall_mem_cons.mpr ⟨hd.1, ih reply (hd.2 reply) s'⟩

end Dialogue

namespace Program

open Dialogue (Asks)

variable {η α β : Type}

/-- The program is at work for itself: it neither speaks at an endpoint, nor changes a file other
than the journal, nor prints. -/
def Request.Prepares : Request → Prop
  | .isThere _ | .load _ | .openJournal _ | .listen _ | .announce _ | .accept | .adopt
  | .note _ => True
  | .save _ _ | .extend _ _ | .print _ | .connect _ _ | .controller _ _ | .client _ => False

/-- Nothing that prepares a session is printed or sent. -/
theorem Request.Prepares.silent {x : Exchange} (h : x.request.Prepares) :
    x.printed = [] ∧ x.sent = [] := by
  obtain ⟨r, reply⟩ := x
  cases r with
  | save | extend | print | connect | controller | client => exact h.elim
  | _ => exact ⟨rfl, rfl⟩

/-! ## Loading settings -/

/-- The settings of a file, if there is one. -/
def loaded (site : Site η) (state : η) (path : String) : Except Settings.LoadError Settings :=
  if site.isThere state path then
    match site.load state path with
    | .error cause => .error (.io cause)
    | .ok document => Settings.ofDocument document
  else .ok .default

theorem loadSettings_eq (path : String) :
    loadSettings path = .ask (.isThere path) fun there =>
      match (there : Bool) with
      | false => .done (.ok .default)
      | true => .ask (.load path) fun reply =>
        match (reply : Except SystemError (List Char)) with
        | .error cause => .done (.error (.io cause))
        | .ok document => .done (Settings.ofDocument document) := by
  refine Dialogue.ask_congr ?_
  intro there
  cases there with
  | false => rfl
  | true =>
      refine Dialogue.ask_congr ?_
      intro reply
      cases reply <;> rfl

theorem loadSettings_asks (path : String) : (loadSettings path).Asks Request.Prepares := by
  rw [loadSettings_eq]
  refine .ask trivial ?_
  intro there
  cases there with
  | false => exact .done _
  | true =>
      refine .ask trivial ?_
      intro reply
      cases reply <;> exact .done _

/-- **Loading settings** changes nothing and says nothing. -/
theorem loadSettings_run (site : Site η) (w : World η) (path : String) :
    ∃ t, (loadSettings path).runWaiting (World.answer site) w =
        ⟨some (loaded site w.site path), t, w⟩ ∧ t.flatMap Exchange.complained = [] := by
  rw [loadSettings_eq, loaded, Dialogue.runWaiting, World.answer]
  dsimp only
  cases site.isThere w.site path with
  | false => exact ⟨_, rfl, rfl⟩
  | true =>
      dsimp only
      rw [if_pos rfl, Dialogue.runWaiting, World.answer]
      dsimp only
      cases site.load w.site path <;> exact ⟨_, rfl, rfl⟩

/-! ## Opening the journal -/

/-- The lines that are said on the error output when the journal is opened. -/
def complaintBytes (complaints : List String) : Bytes :=
  complaints.flatMap fun line => utf8 s!"{line}\n"

theorem openJournal_run (j : JournalSettings) :
    (openJournal j).run =
      match j.file with
      | none => .done (.ok ())
      | some file => .ask (.openJournal j) fun reply =>
        match (reply : Except SystemError (List String)) with
        | .ok _ => .done (.ok ())
        | .error cause => .done (.error
          (.system s!"failed to open log file {Quoted.quote file}: {cause.message}" cause)) := by
  unfold openJournal
  cases j.file with
  | none => rfl
  | some file =>
      refine Dialogue.ask_congr ?_
      intro reply
      cases reply <;> rfl

theorem openJournal_asks (j : JournalSettings) : (openJournal j).run.Asks Request.Prepares := by
  rw [openJournal_run]
  cases j.file with
  | none => exact .done _
  | some file =>
      refine .ask trivial ?_
      intro reply
      cases reply <;> exact .done _

/-- **The journal can be opened,** or nothing has to be: it is not to be kept, or it is open, or its
file can be written to. This is what is wrong with its filter then, and these are the
surroundings. -/
inductive Opens (site : Site η) (w : World η) (j : JournalSettings) : List String → World η → Prop
  | unwanted : j.file = none → Opens site w j [] w
  | already : w.journal ≠ none → Opens site w j [] w
  | opened {file : String} {state : η} : j.file = some file → w.journal = none →
      site.extend w.site file [] = .ok state →
      Opens site w j (Journal.complaints j.level w.filter)
        { w with site := state, journal := some (.start file j.level w.filter) }

/-- The surroundings open a journal that can be opened, and no other. -/
theorem World.openJournal_eq_ok_iff {site : Site η} {w opened : World η} {j : JournalSettings}
    {complaints : List String} :
    w.openJournal site j = (.ok complaints, opened) ↔ Opens site w j complaints opened := by
  obtain ⟨level, file⟩ := j
  rw [World.openJournal]
  constructor
  · intro h
    split at h
    · rename_i name hfile hjournal
      cases hextend : site.extend w.site name [] with
      | error cause =>
          rw [hextend] at h
          exact nomatch (Prod.mk.inj h).1
      | ok state =>
          rw [hextend] at h
          obtain ⟨hcomplaints, rfl⟩ := Prod.mk.inj h
          obtain rfl := Except.ok.inj hcomplaints
          exact .opened hfile hjournal hextend
    · rename_i hother
      obtain ⟨hcomplaints, rfl⟩ := Prod.mk.inj h
      obtain rfl := Except.ok.inj hcomplaints
      cases file with
      | none => exact .unwanted rfl
      | some name => exact .already (hother name rfl)
  · intro h
    cases h with
    | unwanted hfile =>
        obtain rfl : file = none := hfile
        rfl
    | already hjournal =>
        split
        · rename_i hnone
          exact absurd hnone hjournal
        · rfl
    | @opened name state hfile hjournal hextend =>
        obtain rfl : file = some name := hfile
        rw [hjournal]
        dsimp only
        rw [hextend]
        rfl

/-- A journal is opened in one way at most. -/
theorem Opens.unique {site : Site η} {w w₁ w₂ : World η} {j : JournalSettings}
    {complaints₁ complaints₂ : List String} (h₁ : Opens site w j complaints₁ w₁)
    (h₂ : Opens site w j complaints₂ w₂) : complaints₁ = complaints₂ ∧ w₁ = w₂ := by
  have hboth := (World.openJournal_eq_ok_iff.mpr h₁).symm.trans (World.openJournal_eq_ok_iff.mpr h₂)
  obtain ⟨hcomplaints, hworld⟩ := Prod.mk.inj hboth
  exact ⟨Except.ok.inj hcomplaints, hworld⟩

/-- **Opening the journal** says what is wrong with its filter, unless it fails. -/
theorem openJournal_cases (site : Site η) (w : World η) (j : JournalSettings) :
    let o := (openJournal j).run.runWaiting (World.answer site) w
    (∃ complaints, Opens site w j complaints o.state ∧ o.value = some (.ok ()) ∧
        o.trace.flatMap Exchange.complained = complaintBytes complaints) ∨
      (∀ u, o.value ≠ some (.ok u)) ∧ (∀ complaints opened, ¬ Opens site w j complaints opened) ∧
        o.trace.flatMap Exchange.complained = [] := by
  obtain ⟨level, file⟩ := j
  rw [openJournal_run]
  cases file with
  | none => exact .inl ⟨[], .unwanted rfl, rfl, rfl⟩
  | some file =>
      dsimp only
      rw [Dialogue.runWaiting, World.answer]
      dsimp only
      cases hopen : w.openJournal site ⟨level, some file⟩ with
      | mk result w' =>
          cases result with
          | ok complaints =>
              exact .inl ⟨complaints, World.openJournal_eq_ok_iff.mp hopen, rfl, List.append_nil _⟩
          | error cause =>
              refine .inr ⟨?_, ?_, rfl⟩
              · intro u h
                cases h
              · intro complaints opened h
                cases hopen.symm.trans (World.openJournal_eq_ok_iff.mpr h)

/-! ## Meeting a client -/

theorem acceptClient_asks (host : String) : (acceptClient host).run.Asks Request.Prepares := by
  rw [acceptClient_run]
  refine .ask trivial ?_
  intro listening
  cases listening with
  | error cause => exact .done _
  | ok port =>
      refine .ask trivial ?_
      intro delivery
      dsimp only
      cases Delivery.outcome delivery with
      | error cause => exact .done _
      | ok u =>
          refine .ask trivial fun _ => .ask trivial ?_
          intro accepted
          cases accepted with
          | error cause => exact .done _
          | ok client =>
              refine .ask trivial fun _ => .ask trivial ?_
              intro adopted
              cases adopted <;> exact .done _

theorem meet_asks (s : Settings) : (meet s).run.Asks Request.Prepares := by
  rw [meet]
  cases s.transport with
  | stream => exact .done _
  | none => exact .done _
  | socket => exact acceptClient_asks s.host

/-- The surroundings in which a client has been told where to connect. -/
def World.announced (w : World η) (e : Endpoint) : World η :=
  { w with errors := (w.errors.deliver [e.opening.bytes]).2 }

/-- The surroundings in which a client has connected at a port, with both steps in the journal. -/
def World.accepted (site : Site η) (w : World η) (host : String) (port : UInt16)
    (client : String) : World η :=
  let shown := toString port.toNat
  ((w.announced (.socket host port)).record site
    ⟨.info, .commandLine, "waiting for client", [("port", shown)]⟩).record site
      ⟨.info, .connection, "client connected", [("peer", client), ("port", shown)]⟩

/-- A controller with these settings meets its client: this is its endpoint then, and these are its
surroundings. -/
inductive Meets (site : Site η) (s : Settings) (w : World η) : Endpoint → World η → Prop
  | stream : s.transport = .stream → Meets site s w .stream w
  | alone : s.transport = .none → Meets site s w .loopback w
  | socket {port : UInt16} {client : String} : s.transport = .socket →
      w.network.listen s.host = .ok port →
      (w.errors.deliver [(Endpoint.socket s.host port).opening.bytes]).1.outcome = .ok () →
      w.network.accept = some (.ok client) → w.network.adopt = .ok () →
      Meets site s w (.socket s.host port) (w.accepted site s.host port client)

/-- What is said on the error output before a session: a client is told where to connect. -/
def announcement : Endpoint → Bytes
  | .socket host port => (Endpoint.socket host port).opening.bytes
  | .stream | .loopback => []

theorem World.record_network (site : Site η) (w : World η) (r : Journal.Record) :
    (w.record site r).network = w.network := by
  rw [World.record]
  split
  · rfl
  · split <;> rfl

/-- What has been said where a client is not met: it may have been told where to connect, and that
as a whole, unless the telling failed. -/
def Tried (w : World η) (s : Settings) (said : Bytes) : Prop :=
  said = [] ∨ ∃ port, s.transport = .socket ∧ w.network.listen s.host = .ok port ∧
    let opening := (Endpoint.socket s.host port).opening.bytes
    said <+: opening ∧ ((w.errors.deliver [opening]).1.outcome = .ok () → said = opening)

/-- What a run comes to that was to meet a client: it has met one, or it has tried to. -/
def Encounter (site : Site η) (s : Settings) (w : World η)
    (o : Dialogue.Outcome interface (World η) (Option (Except Failure Endpoint))) : Prop :=
  (∃ e, Meets site s w e o.state ∧ o.value = some (.ok e) ∧
      o.trace.flatMap Exchange.complained = announcement e) ∨
    (∀ e, o.value ≠ some (.ok e)) ∧ (∀ e w', ¬ Meets site s w e w') ∧
      Tried w s (o.trace.flatMap Exchange.complained)

section Socket

variable {site : Site η} {s : Settings} {w w' : World η} {e : Endpoint} {host : String}
  {port : UInt16}

/-- A client that is met at a socket is listened for. -/
theorem Meets.listens (h : Meets site s w e w') (hs : s.transport = .socket) :
    ∃ port, w.network.listen s.host = .ok port := by
  cases h with
  | stream ht => cases hs.symm.trans ht
  | alone ht => cases hs.symm.trans ht
  | socket _ hlisten _ _ _ => exact ⟨_, hlisten⟩

/-- What it takes to meet a client at a socket, where one listens at this port. -/
theorem Meets.of_socket (h : Meets site s w e w') (hs : s.transport = .socket)
    (hlisten : w.network.listen s.host = .ok port) :
    (w.errors.deliver [(Endpoint.socket s.host port).opening.bytes]).1.outcome = .ok () ∧
      (∃ client, w.network.accept = some (.ok client)) ∧ w.network.adopt = .ok () := by
  cases h with
  | stream ht => cases hs.symm.trans ht
  | alone ht => cases hs.symm.trans ht
  | @socket port' client _ hlisten' hsaid haccept hadopt =>
      obtain rfl : port = port' := Except.ok.inj (hlisten.symm.trans hlisten')
      exact ⟨hsaid, ⟨client, haccept⟩, hadopt⟩

/-- Where telling the client fails, a part of the announcement is out at most, and that is all. -/
theorem acceptClient_untold (site : Site η) (hlisten : w.network.listen host = .ok port)
    {cause : SystemError}
    (hsaid : (w.errors.deliver [(Endpoint.socket host port).opening.bytes]).1.outcome =
      .error cause) :
    let o := (acceptClient host).run.runWaiting (World.answer site) w
    o.trace.flatMap Exchange.complained <+: (Endpoint.socket host port).opening.bytes ∧
      ∀ e, o.value ≠ some (.ok e) := by
  have hlistening : World.answer site (.listen host) w = some (.ok port, w) :=
    congrArg (fun r => some (r, w)) hlisten
  have hannounced : World.answer site (.announce (Endpoint.socket host port).opening) w =
      some ((w.errors.deliver [(Endpoint.socket host port).opening.bytes]).1,
        w.announced (.socket host port)) := rfl
  rw [acceptClient_run, Dialogue.runWaiting_ask hlistening]
  dsimp only
  rw [Dialogue.runWaiting_ask hannounced, hsaid]
  refine ⟨?_, ?_⟩
  · show _ ++ [] <+: _
    rw [List.append_nil]
    exact (w.errors.deliver_one_conveys _).part
  · intro e h
    cases h

/-- **A client that was told where to connect** is met if it comes and its connection can be taken
over. Otherwise it is waited for, or accepting it fails, and nothing more is said. -/
theorem acceptClient_announced (site : Site η) (hlisten : w.network.listen host = .ok port)
    (hsaid : (w.errors.deliver [(Endpoint.socket host port).opening.bytes]).1.outcome = .ok ()) :
    let o := (acceptClient host).run.runWaiting (World.answer site) w
    o.trace.flatMap Exchange.complained = (Endpoint.socket host port).opening.bytes ∧
      ((∃ client, w.network.accept = some (.ok client) ∧ w.network.adopt = .ok () ∧
          o.value = some (.ok (.socket host port)) ∧ o.state = w.accepted site host port client) ∨
        (∀ e, o.value ≠ some (.ok e)) ∧
          ∀ client, w.network.accept = some (.ok client) → w.network.adopt ≠ .ok ()) := by
  have hconveys := w.errors.deliver_one_conveys (Endpoint.socket host port).opening.bytes
  have hwhole := (List.append_nil _).trans (hconveys.whole hsaid)
  let told := w.announced (.socket host port)
  let notice : Journal.Record :=
    ⟨.info, .commandLine, "waiting for client", [("port", toString port.toNat)]⟩
  let waiting := told.record site notice
  have hlistening : World.answer site (.listen host) w = some (.ok port, w) :=
    congrArg (fun r => some (r, w)) hlisten
  have hannounced : World.answer site (.announce (Endpoint.socket host port).opening) w =
      some ((w.errors.deliver [(Endpoint.socket host port).opening.bytes]).1, told) := rfl
  have hnoted : World.answer site (.note notice) told = some ((), waiting) := rfl
  have hnetwork : waiting.network = w.network := World.record_network site told notice
  rw [acceptClient_run, Dialogue.runWaiting_ask hlistening]
  dsimp only
  rw [Dialogue.runWaiting_ask hannounced, hsaid]
  dsimp only
  rw [Dialogue.runWaiting_ask hnoted]
  -- the rest depends on what the network makes of the client
  cases haccept : w.network.accept with
  | none =>
      have hnever : World.answer site .accept waiting = none := by
        rw [World.answer, hnetwork, haccept]
        rfl
      rw [Dialogue.runWaiting_never hnever]
      exact ⟨hwhole, .inr ⟨nofun, nofun⟩⟩
  | some accepted =>
      have haccepted : World.answer site .accept waiting = some (accepted, waiting) := by
        rw [World.answer, hnetwork, haccept]
        rfl
      rw [Dialogue.runWaiting_ask haccepted]
      cases accepted with
      | error cause => exact ⟨hwhole, .inr ⟨nofun, nofun⟩⟩
      | ok client =>
          let connected := w.accepted site host port client
          have hnoted' : World.answer site (.note ⟨.info, .connection, "client connected",
              [("peer", client), ("port", toString port.toNat)]⟩) waiting =
              some ((), connected) := rfl
          have hadopted : World.answer site .adopt connected =
              some (w.network.adopt, connected) := by
            rw [← hnetwork, ← World.record_network site waiting]
            rfl
          dsimp only
          rw [Dialogue.runWaiting_ask hnoted', Dialogue.runWaiting_ask hadopted]
          cases hadopt : w.network.adopt with
          | error cause => exact ⟨hwhole, .inr ⟨nofun, fun _ _ => nofun⟩⟩
          | ok u => exact ⟨hwhole, .inl ⟨client, rfl, rfl, rfl, rfl⟩⟩

/-- **Accepting a client** takes a port, an announcement that gets out, a client that comes, and a
connection that can be taken over. -/
theorem acceptClient_encounter (hs : s.transport = .socket) :
    Encounter site s w ((acceptClient s.host).run.runWaiting (World.answer site) w) := by
  cases hlisten : w.network.listen s.host with
  | error cause =>
      rw [acceptClient_run, Dialogue.runWaiting, World.answer, hlisten]
      refine .inr ⟨?_, ?_, .inl rfl⟩
      · intro e h
        cases h
      · intro e w' h
        obtain ⟨port, hport⟩ := h.listens hs
        cases hlisten.symm.trans hport
  | ok port =>
      cases hsaid : (w.errors.deliver [(Endpoint.socket s.host port).opening.bytes]).1.outcome with
      | error cause =>
          obtain ⟨hpart, hill⟩ := acceptClient_untold site hlisten hsaid
          refine .inr ⟨hill, ?_, .inr ⟨port, hs, hlisten, hpart, ?_⟩⟩
          · intro e w' h
            cases hsaid.symm.trans (h.of_socket hs hlisten).1
          · intro hok
            cases hsaid.symm.trans hok
      | ok u =>
          obtain ⟨hwhole, ⟨client, haccept, hadopt, hvalue, hstate⟩ | ⟨hill, hnot⟩⟩ :=
            acceptClient_announced site hlisten hsaid
          · refine .inl ⟨_, ?_, hvalue, hwhole⟩
            rw [hstate]
            exact .socket hs hlisten hsaid haccept hadopt
          · refine .inr ⟨hill, ?_, .inr ⟨port, hs, hlisten, ?_, fun _ => hwhole⟩⟩
            · intro e w' h
              obtain ⟨-, ⟨client, haccept⟩, hadopt⟩ := h.of_socket hs hlisten
              exact hnot client haccept hadopt
            · exact hwhole ▸ List.prefix_refl _

end Socket

/-- **Meeting a client** takes nothing over the standard streams, and nothing without a client. -/
theorem meet_encounter (site : Site η) (s : Settings) (w : World η) :
    Encounter site s w ((meet s).run.runWaiting (World.answer site) w) := by
  rw [meet]
  cases hs : s.transport with
  | stream => exact .inl ⟨.stream, .stream hs, rfl, rfl⟩
  | none => exact .inl ⟨.loopback, .alone hs, rfl, rfl⟩
  | socket => exact acceptClient_encounter hs

/-- A client is met in one way at most. -/
theorem Meets.unique {site : Site η} {s : Settings} {w w₁ w₂ : World η} {e₁ e₂ : Endpoint}
    (h₁ : Meets site s w e₁ w₁) (h₂ : Meets site s w e₂ w₂) : e₁ = e₂ ∧ w₁ = w₂ := by
  cases h₁ <;> cases h₂ <;> simp_all

/-! ## What comes before a session -/

/-- What a session starts from. -/
structure Start where
  settings : Settings
  target : String
  endpoint : Endpoint

/-- Goes on after a job that was done; a failure is the end. -/
def andThen (f : α → Talk (Except Failure β)) : Except Failure α → Talk (Except Failure β)
  | .ok a => f a
  | .error failure => .done (.error failure)

section AndThen

variable {site : Site η} {w : World η} {d : Talk (Except Failure α)}
  {f : α → Talk (Except Failure β)}

theorem runWaiting_andThen_ok {a : α}
    (h : (d.runWaiting (World.answer site) w).value = some (.ok a)) :
    (d >>= andThen f).runWaiting (World.answer site) w =
      let first := d.runWaiting (World.answer site) w
      let later := (f a).runWaiting (World.answer site) first.state
      ⟨later.value, first.trace ++ later.trace, later.state⟩ := by
  rw [Dialogue.runWaiting_bind]
  dsimp only
  rw [h]
  rfl

/-- Where a job is not done nothing else is, whatever was to come. -/
theorem runWaiting_andThen_ill
    (h : ∀ a, (d.runWaiting (World.answer site) w).value ≠ some (.ok a)) :
    let o := (d >>= andThen f).runWaiting (World.answer site) w
    (∀ b, o.value ≠ some (.ok b)) ∧ o.trace = (d.runWaiting (World.answer site) w).trace := by
  rw [Dialogue.runWaiting_bind]
  dsimp only
  cases hvalue : (d.runWaiting (World.answer site) w).value with
  | none => exact ⟨nofun, rfl⟩
  | some result =>
      cases result with
      | ok a => exact absurd hvalue (h a)
      | error failure => exact ⟨nofun, List.append_nil _⟩

end AndThen

/-- Meets a client for a script, if there is one. -/
def convene (s : Settings) : Option String → Talk (Except Failure Start)
  | none => .done (.error (.plain CommandLine.noScript))
  | some target => (meet s).run >>= andThen fun e => .done (.ok ⟨s, target, e⟩)

/-- The part of a run of a script that comes before its session. -/
def prepare (c : CommandLine) : Talk (Except Failure Start) :=
  loadSettings c.config >>= fun
    | .error e => .done (.error ⟨s!"Failed to load config '{c.config}'", [e.render]⟩)
    | .ok settings =>
      let merged := c.overrides.apply settings
      (openJournal merged.journal).run >>= andThen fun _ => convene merged c.file

/-- The session, as its controller has it. -/
def Start.session (start : Start) : Lockstep.Talk (Except SessionError Report) :=
  (Session.run (Script.engine start.settings.shell) start.endpoint
    (start.settings.delay.map UInt64.toNat) start.target).run

/-- The session and what comes after it: a fault of the script is noted. -/
def conduct (start : Start) : Talk (Except Failure Unit) :=
  passOn start.endpoint start.session >>= fun
    | .error failure => .done (.error (.session failure))
    | .ok report =>
      match report.fault with
      | none => .done (.ok ())
      | some fault => .ask (.note ⟨.warn, .program, "target did not complete",
          [("fault", fault), ("breaks", toString report.breaks)]⟩) fun _ => .done (.ok ())

theorem runScript_run (s : Settings) (target : String) :
    (runScript s (some target)).run = (meet s).run >>= andThen fun e => conduct ⟨s, target, e⟩ := by
  rw [runScript, runSession]
  simp only [ExceptT.run_bind, bind_assoc]
  refine bind_congr ?_
  intro met
  cases met with
  | error failure => rfl
  | ok e =>
      show (passOn e _ >>= _) >>= _ = _ >>= _
      rw [bind_assoc]
      refine bind_congr ?_
      intro result
      cases result with
      | error failure => rfl
      | ok report =>
          obtain ⟨breaks, fault⟩ := report
          cases fault <;> rfl

/-- **A run of a script** gets ready, and then there is a session. -/
theorem run_eq_prepare {c : CommandLine} (hinit : c.init = false) (hattach : c.attachment = none)
    (bound : Nat) : (run c bound).run = prepare c >>= andThen conduct := by
  rw [run, prepare, hinit, if_neg Bool.false_ne_true, hattach, ExceptT.run_bind, ExceptT.run_liftM,
    bind_map_left, bind_assoc]
  refine bind_congr ?_
  intro settings
  cases settings with
  | error e => rfl
  | ok s =>
      show ((openJournal (c.overrides.apply s).journal).run >>= _) = (_ >>= _) >>= _
      rw [bind_assoc]
      refine bind_congr ?_
      intro opened
      cases opened with
      | error failure => rfl
      | ok u =>
          show (runScript (c.overrides.apply s) c.file).run = _ >>= _
          cases c.file with
          | none => rfl
          | some target =>
              rw [runScript_run]
              dsimp only [andThen, convene]
              rw [bind_assoc]
              refine bind_congr ?_
              intro met
              cases met <;> rfl

theorem convene_asks (s : Settings) (file : Option String) :
    (convene s file).Asks Request.Prepares := by
  cases file with
  | none => exact .done _
  | some target =>
      refine (meet_asks s).bind ?_
      intro met
      cases met <;> exact .done _

theorem prepare_asks (c : CommandLine) : (prepare c).Asks Request.Prepares := by
  refine (loadSettings_asks c.config).bind ?_
  intro settings
  cases settings with
  | error e => exact .done _
  | ok s =>
      refine (openJournal_asks _).bind ?_
      intro opened
      cases opened with
      | error failure => exact .done _
      | ok u => exact convene_asks _ c.file

variable {site : Site η} {w : World η} {c : CommandLine}

/-- **All that a session needs is there:** settings, with those of the command line above those of
the file; a script; the journal, with these complaints about its filter; and a client. -/
structure Ready (site : Site η) (w : World η) (c : CommandLine) (start : Start)
    (complaints : List String) (w' : World η) : Prop where
  settings : (loaded site w.site c.config).map c.overrides.apply = .ok start.settings
  target : c.file = some start.target
  met : ∃ opened, Opens site w start.settings.journal complaints opened ∧
    Meets site start.settings opened start.endpoint w'

/-- There is one way to be ready at most. -/
theorem Ready.unique {start₁ start₂ : Start} {complaints₁ complaints₂ : List String}
    {w₁ w₂ : World η} (h₁ : Ready site w c start₁ complaints₁ w₁)
    (h₂ : Ready site w c start₂ complaints₂ w₂) :
    start₁ = start₂ ∧ complaints₁ = complaints₂ ∧ w₁ = w₂ := by
  obtain ⟨s, target, e⟩ := start₁
  obtain ⟨s₂, target₂, e₂⟩ := start₂
  obtain ⟨hs, ht, opened, hj, hc⟩ := h₁
  obtain ⟨hs₂, ht₂, opened₂, hj₂, hc₂⟩ := h₂
  obtain rfl : s = s₂ := Except.ok.inj (hs.symm.trans hs₂)
  obtain rfl : target = target₂ := Option.some.inj (ht.symm.trans ht₂)
  obtain ⟨rfl, rfl⟩ := hj.unique hj₂
  obtain ⟨rfl, rfl⟩ := hc.unique hc₂
  exact ⟨rfl, rfl, rfl⟩

/-- What has been said on the error output where no session starts: nothing, or what was wrong with
the filter of the journal that was opened, and then perhaps where a client was to connect. -/
def Attempted (site : Site η) (w : World η) (c : CommandLine) (said : Bytes) : Prop :=
  said = [] ∨ ∃ s complaints opened announced,
    (loaded site w.site c.config).map c.overrides.apply = .ok s ∧
    Opens site w s.journal complaints opened ∧
    said = complaintBytes complaints ++ announced ∧ Tried opened s announced

/-- A client is met for a script, or there is none to be met. -/
theorem convene_cases (site : Site η) (w : World η) (s : Settings) (file : Option String) :
    let o := (convene s file).runWaiting (World.answer site) w
    (∃ target e, file = some target ∧ Meets site s w e o.state ∧
        o.value = some (.ok ⟨s, target, e⟩) ∧
        o.trace.flatMap Exchange.complained = announcement e) ∨
      (∀ start, o.value ≠ some (.ok start)) ∧
        (∀ target e w', file = some target → ¬ Meets site s w e w') ∧
        Tried w s (o.trace.flatMap Exchange.complained) := by
  cases file with
  | none =>
      refine .inr ⟨?_, ?_, .inl rfl⟩
      · intro start h
        cases h
      · intro target e w' h
        cases h
  | some target =>
      rcases meet_encounter site s w with ⟨e, hmeets, hdone, hsaid⟩ | ⟨hdone, hmeets, hsaid⟩
      · rw [convene, runWaiting_andThen_ok hdone]
        dsimp only
        rw [List.flatMap_append, hsaid]
        exact .inl ⟨target, e, rfl, hmeets, rfl, List.append_nil _⟩
      · obtain ⟨hill, htrace⟩ := runWaiting_andThen_ill hdone
          (f := fun e => .done (.ok (⟨s, target, e⟩ : Start)))
        rw [← htrace] at hsaid
        exact .inr ⟨hill, fun _ e w' _ => hmeets e w', hsaid⟩

/-- **Either a session starts or it does not:** it starts if all that it needs is there. -/
theorem prepare_cases (site : Site η) (w : World η) (c : CommandLine) :
    let o := (prepare c).runWaiting (World.answer site) w
    (∃ start complaints, Ready site w c start complaints o.state ∧ o.value = some (.ok start) ∧
        o.trace.flatMap Exchange.complained =
          complaintBytes complaints ++ announcement start.endpoint) ∨
      (∀ start, o.value ≠ some (.ok start)) ∧
        (∀ start complaints w', ¬ Ready site w c start complaints w') ∧
        Attempted site w c (o.trace.flatMap Exchange.complained) := by
  obtain ⟨t, hload, ht⟩ := loadSettings_run site w c.config
  rw [prepare, Dialogue.runWaiting_bind, hload]
  dsimp only
  simp only [List.flatMap_append, ht, List.nil_append]
  cases hloaded : loaded site w.site c.config with
  | error e =>
      refine .inr ⟨?_, ?_, .inl rfl⟩
      · intro start h
        cases h
      · intro start complaints w' h
        have hsettings := h.settings
        rw [hloaded] at hsettings
        cases hsettings
  | ok s =>
      let merged := c.overrides.apply s
      have hmerged : (loaded site w.site c.config).map c.overrides.apply = .ok merged := by
        rw [hloaded]
        rfl
      have hsame : ∀ {start complaints w'}, Ready site w c start complaints w' →
          start.settings = merged :=
        fun h => Except.ok.inj (h.settings.symm.trans hmerged)
      dsimp only
      rcases openJournal_cases site w merged.journal with
        ⟨complaints, hopen, hdone, hsaid⟩ | ⟨hdone, hopen, hsaid⟩
      · rw [runWaiting_andThen_ok hdone]
        dsimp only
        rw [List.flatMap_append, hsaid]
        generalize ((openJournal merged.journal).run.runWaiting (World.answer site) w).state =
          opened at hopen ⊢
        rcases convene_cases site opened merged c.file with
          ⟨target, e, hfile, hmeets, hvalue, hsaid⟩ | ⟨hill, hnot, hsaid⟩
        · exact .inl ⟨⟨merged, target, e⟩, complaints, ⟨hmerged, hfile, opened, hopen, hmeets⟩,
            hvalue, congrArg _ hsaid⟩
        · refine .inr ⟨hill, ?_, .inr ⟨merged, complaints, opened, _, hmerged, hopen, rfl, hsaid⟩⟩
          intro start complaints w' h
          obtain ⟨opened', hopen', hmeets⟩ := h.met
          rw [hsame h] at hopen' hmeets
          obtain ⟨-, rfl⟩ := hopen.unique hopen'
          exact hnot _ _ _ h.target hmeets
      · obtain ⟨hill, htrace⟩ :=
          runWaiting_andThen_ill hdone (f := fun _ => convene merged c.file)
        rw [← htrace] at hsaid
        refine .inr ⟨hill, ?_, .inl hsaid⟩
        intro start complaints w' h
        obtain ⟨opened', hopen', -⟩ := h.met
        rw [hsame h] at hopen'
        exact hopen complaints opened' hopen'

/-! ## The session -/

/-- What the session comes to in these surroundings. -/
def Start.outcome (start : Start) (site : Site η) (w : World η) :
    Dialogue.Outcome Controller.interface (World η) (Except SessionError Report) :=
  start.session.run (World.serve site start.endpoint) w

/-- **After the session** there is a note at most, so the rest of a run comes to what the session
comes to. -/
theorem conduct_run (site : Site η) (w : World η) (start : Start) :
    let o := (conduct start).runWaiting (World.answer site) w
    let session := start.outcome site w
    ∃ t, o.trace = session.trace.map (Exchange.ofController start.endpoint) ++ t ∧
      (∀ x ∈ t, x.request.Prepares) ∧ t.flatMap Exchange.complained = [] ∧
      o.value = some ((session.value.map fun _ => ()).mapError Failure.session) := by
  rw [conduct, Dialogue.runWaiting_bind, passOn_run]
  dsimp only
  rw [← Start.outcome]
  cases (start.outcome site w).value with
  | error failure => exact ⟨[], rfl, List.forall_mem_nil _, rfl, rfl⟩
  | ok report =>
      obtain ⟨breaks, fault⟩ := report
      cases fault with
      | none => exact ⟨[], rfl, List.forall_mem_nil _, rfl, rfl⟩
      | some text => exact ⟨_, rfl, List.forall_mem_singleton.mpr trivial, rfl, rfl⟩

end Program

end Lockstep
