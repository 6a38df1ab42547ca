import Lockstep.Proofs.Layers
import Lockstep.Proofs.SessionRequests
import Lockstep.Proofs.SettingsFile
import Lockstep.Proofs.Stages

/-!
# Which settings a run has

Of a setting there are up to three values: the one of the command line, the one of the file, and a
default. A run has the first of them, setting by setting, and its session pauses by the delay that
comes of this. The settings of a command line act on others as a layer does that is laid over them:
a layer laid over twice is laid over once, and two layers one after another are one layer, in which
the later one is on top.
-/

namespace Lockstep

open Dialogue (Asks)

namespace Overrides

/-- Each setting of a command line changes its own and leaves all the others. -/
structure ActSeparately : Prop where
  transport : ∀ (o : Overrides) (s : Settings) (t : Transport),
    { o with transport := some t }.apply s = { o.apply s with transport := t }
  host : ∀ (o : Overrides) (s : Settings) (host : String),
    { o with host := some host }.apply s = { o.apply s with host := host }
  delay : ∀ (o : Overrides) (s : Settings) (delay : UInt64),
    { o with delay := some delay }.apply s = { o.apply s with delay := some delay }
  shell : ∀ (o : Overrides) (s : Settings) (shell : String),
    { o with shell := some shell }.apply s = { o.apply s with shell := shell }
  level : ∀ (o : Overrides) (s : Settings) (level : Journal.Level),
    { o with level := some level }.apply s =
      { o.apply s with journal := { (o.apply s).journal with level := level } }
  file : ∀ (o : Overrides) (s : Settings) (file : String),
    { o with file := some file }.apply s =
      { o.apply s with journal := { (o.apply s).journal with file := some file } }

theorem actSeparately : ActSeparately where
  transport _ _ _ := rfl
  host _ _ _ := rfl
  delay _ _ _ := rfl
  shell _ _ _ := rfl
  level _ _ _ := rfl
  file _ _ _ := rfl

/-- **Two layers are one,** with the later one on top. -/
theorem apply_apply (a b : Overrides) (s : Settings) :
    b.apply (a.apply s) = (b.above a).apply s := by
  simp only [apply, above, Option.orElse_eq_orElse, Option.orElse_eq_or, Option.getD_or,
    Option.or_assoc]

theorem above_self (a : Overrides) : a.above a = a := by
  simp only [above, Option.orElse_eq_orElse, Option.orElse_eq_or, Option.or_self]

/-- The layers that lie over the defaults, and the settings that come of them. -/
theorem apply_default (o : Overrides) :
    o.apply .default =
      { transport := o.transport.getD .stream
        host := o.host.getD "127.0.0.1"
        delay := o.delay
        shell := o.shell.getD "sh"
        journal := ⟨o.level.getD .warn, o.file⟩ } := by
  obtain ⟨transport, host, delay, shell, level, file⟩ := o
  cases delay <;> cases file <;> rfl

end Overrides

namespace Program

variable {η α β : Type}

/-! ## What the file says -/

/-- What the file of settings says: what its document says, or nothing if it is missing. -/
inductive FileSays (site : Site η) (state : η) (path : String) : Overrides → Prop
  | missing : site.isThere state path = false → FileSays site state path .none
  | document {text : List Char} {table : Toml.Value} {layer : Overrides} :
      site.isThere state path = true → site.load state path = .ok text →
      Toml.parse text = .ok table → Settings.Says table.entries layer →
      FileSays site state path layer

theorem FileSays.loaded {site : Site η} {state : η} {path : String} {layer : Overrides}
    (h : FileSays site state path layer) : loaded site state path = .ok (layer.apply .default) := by
  cases h with
  | missing hmissing =>
      rw [Program.loaded, hmissing]
      rfl
  | document hthere hload hparse hlayer =>
      rw [Program.loaded, hthere, if_pos rfl, hload]
      exact Settings.ofDocument_layer hparse hlayer

/-! ## What a run asks of its controller -/

/-- A controller is asked for nothing but what these settings allow. -/
def Request.KeepsTo (s : Settings) : Request → Prop
  | .controller _ r => r.KeepsTo s.shell (s.delay.map UInt64.toNat)
  | _ => True

variable {s : Settings} {P : Request → Prop}

theorem Request.Prepares.keepsTo {r : Request} (h : r.Prepares) : r.KeepsTo s := by
  cases r with
  | controller => exact h.elim
  | _ => trivial

theorem asks_bind {d : Job α} {f : α → Job β} (hd : d.run.Asks P) (hf : ∀ a, (f a).run.Asks P) :
    (d >>= f).run.Asks P := by
  rw [ExceptT.run_bind]
  refine hd.bind ?_
  intro result
  cases result with
  | ok a => exact hf a
  | error failure => exact .done _

theorem passOn_asks {e : Endpoint} {d : Lockstep.Talk α}
    (h : d.Asks fun r => P (.controller e r)) : (passOn e d).Asks P := by
  induction d with
  | done a => exact .done _
  | ask r next ih => exact .ask h.1 fun reply => ih reply (h.2 reply)

theorem passOnClient_asks {d : Client.Talk α} (h : ∀ r, P (.client r)) :
    (passOnClient d).Asks P := by
  induction d with
  | done a => exact .done _
  | ask r next ih => exact .ask (h r) ih

theorem asks_lift {d : Talk α} (hd : d.Asks P) : (liftM d : Job α).run.Asks P := by
  rw [ExceptT.run_liftM]
  exact Asks.bind hd fun _ => .done _

theorem saveSettings_asks (path : String) (settings : Settings) :
    (saveSettings path settings).Asks (Request.KeepsTo s) := by
  rw [saveSettings]
  cases settings.render with
  | error e => exact .done _
  | ok document =>
      refine .ask trivial ?_
      intro reply
      cases reply <;> exact .done _

theorem initialise_asks (path : String) : (initialise path).run.Asks (Request.KeepsTo s) := by
  refine asks_bind (.ask trivial fun _ => .done _) ?_
  intro there
  cases there with
  | true => exact .ask trivial fun _ => .done _
  | false =>
      refine asks_bind (asks_lift (saveSettings_asks path .default)) ?_
      intro saved
      cases saved with
      | error e => exact .done _
      | ok u =>
          refine asks_bind (.ask trivial fun _ => .done _) fun reply => asks_bind ?_ ?_
          · cases reply <;> exact .done _
          · exact fun _ => .ask trivial fun _ => .done _

theorem attach_asks (a : Attachment) (bound : Nat) :
    (attach a bound).run.Asks (Request.KeepsTo s) := by
  refine asks_bind (.ask trivial fun _ => .done _) fun reply => asks_bind ?_ ?_
  · cases reply <;> exact .done _
  · intro _
    refine Asks.bind (passOnClient_asks fun _ => trivial) ?_
    exact fun _ => .done _

theorem runScript_asks (file : Option String) :
    (runScript s file).run.Asks (Request.KeepsTo s) := by
  cases file with
  | none => exact .done _
  | some target =>
      rw [runScript_run]
      refine ((meet_asks s).mono fun _ h => h.keepsTo).bind ?_
      intro met
      cases met with
      | error failure => exact .done _
      | ok e =>
          have hsession : (passOn e (Start.session ⟨s, target, e⟩)).Asks (Request.KeepsTo s) :=
            passOn_asks (P := Request.KeepsTo s) (Session.script_keepsTo target)
          refine hsession.bind ?_
          intro result
          cases result with
          | error failure => exact .done _
          | ok report =>
              obtain ⟨breaks, fault⟩ := report
              cases fault with
              | none => exact .done _
              | some text => exact .ask trivial fun _ => .done _

/-- **A run keeps to its settings.** -/
theorem run_keepsTo (site : Site η) (w : World η) (c : CommandLine) (bound : Nat)
    (hs : ∀ settings, loaded site w.site c.config = .ok settings → c.overrides.apply settings = s) :
    ∀ x ∈ ((run c bound).run.runWaiting (World.answer site) w).trace, x.request.KeepsTo s := by
  cases hinit : c.init with
  | true =>
      rw [run, hinit, if_pos rfl]
      exact (initialise_asks c.config).runWaiting _ w
  | false =>
      obtain ⟨t, hload, -⟩ := loadSettings_run site w c.config
      have ht := (loadSettings_asks c.config).runWaiting (World.answer site) w
      rw [hload] at ht
      rw [run, hinit, if_neg Bool.false_ne_true, ExceptT.run_bind, ExceptT.run_liftM,
        bind_map_left, Dialogue.runWaiting_bind, hload]
      refine List.forall_mem_append.mpr ⟨fun x hx => (ht x hx).keepsTo, ?_⟩
      cases hloaded : loaded site w.site c.config with
      | error e => exact List.forall_mem_nil _
      | ok settings =>
          obtain rfl := hs settings hloaded
          refine Asks.runWaiting (asks_bind ?_ fun _ => ?_) _ w
          · exact (openJournal_asks _).mono fun _ h => h.keepsTo
          · cases c.attachment with
            | none => exact runScript_asks c.file
            | some a => exact attach_asks a bound

/-! ## The law -/

/--
**A setting is that of the command line, or else that of the file, or else its default.** The file
may be missing, and its document may say any of the settings, in any order and among other things.
The session is given the delay that comes of this, and whatever the program does, a controller
pauses for this long or not at all. Each setting of a command line changes its own only; laid over
the same settings again it changes nothing; and two command lines one after the other are one, in
which the later one is on top.
-/
theorem settings_resolve (site : Site η) (w : World η) (c : CommandLine) {layer : Overrides}
    (h : FileSays site w.site c.config layer) (bound : Nat) :
    let o := c.overrides
    let delay := o.delay <|> layer.delay
    let trace := ((run c bound).run.runWaiting (World.answer site) w).trace
    (∃ s, ((loadSettings c.config).runWaiting (World.answer site) w).value = some (.ok s) ∧
      o.apply s =
        { transport := (o.transport <|> layer.transport).getD .stream
          host := (o.host <|> layer.host).getD "127.0.0.1"
          delay := delay
          shell := (o.shell <|> layer.shell).getD "sh"
          journal := ⟨(o.level <|> layer.level).getD .warn, o.file <|> layer.file⟩ } ∧
      ∀ target, runSession (o.apply s) target = (do
        let e ← meet (o.apply s)
        control e (Session.run (Script.engine (o.apply s).shell) e (delay.map UInt64.toNat)
          target))) ∧
      (∀ x ∈ trace, ∀ e n, x.request = .controller e (.pause n) →
        delay.map UInt64.toNat = some n) ∧
      Overrides.ActSeparately ∧
      (∀ (a : Overrides) (s : Settings), a.apply (a.apply s) = a.apply s) ∧
      ∀ (a b : Overrides) (s : Settings), b.apply (a.apply s) = (b.above a).apply s := by
  intro o delay trace
  have hloaded := h.loaded
  have hmerged : o.apply (layer.apply .default) = (o.above layer).apply .default :=
    Overrides.apply_apply layer o .default
  refine ⟨⟨layer.apply .default, ?_, ?_, fun target => ?_⟩, ?_, Overrides.actSeparately, ?_,
    Overrides.apply_apply⟩
  · obtain ⟨t, hload, -⟩ := loadSettings_run site w c.config
    rw [hload, hloaded]
  · exact hmerged.trans (Overrides.apply_default _)
  · rw [runSession, hmerged, Overrides.apply_default]
    rfl
  · intro x hx e n hpause
    have hkeeps := run_keepsTo (s := o.apply (layer.apply .default)) site w c bound (by
      intro settings hs
      rw [Except.ok.inj (hs.symm.trans hloaded)]) x hx
    rw [hpause, hmerged, Overrides.apply_default] at hkeeps
    exact hkeeps
  · intro a s
    rw [Overrides.apply_apply, Overrides.above_self]

/-- A document that says a delay, a file for the journal, and something else. -/
def mixed : String := "delay_ms = 60\nbeep = true\n[log]\nfile = \"j\"\n"

/-- What is read of it. -/
def mixedTable : Toml.Value :=
  .table none .header
    [(⟨"delay_ms", ⟨43, 35⟩⟩, .integer ⟨32, 30⟩ 60), (⟨"beep", ⟨29, 25⟩⟩, .boolean ⟨22, 18⟩ true),
      (⟨"log", ⟨16, 13⟩⟩,
        .table (some ⟨17, 1⟩) .header [(⟨"file", ⟨11, 7⟩⟩, .string ⟨4, 1⟩ "j")])]

theorem says_mixedTable : Settings.Says mixedTable.entries
    { Overrides.none with delay := some 60, file := some "j" } where
  transport := .none
  host := .none
  delay := .some (.natural ⟨32, 30⟩ 60)
  shell := .none
  journal := .named (some ⟨17, 1⟩) .header .none (.some (.text ⟨4, 1⟩ "j"))

/-- A host and another file are given besides a document that says a delay and a file. -/
theorem settings_resolve_mixed :
    let w : World Bytes := World.bare (utf8 mixed)
    let given : Overrides := { Overrides.none with host := some "::1", file := some "k" }
    let c : CommandLine := ⟨Settings.defaultPath, some "script.txt", false, given, none⟩
    let layer : Overrides := { Overrides.none with delay := some 60, file := some "j" }
    FileSays notebook w.site c.config layer ∧
      (∃ s, ((loadSettings c.config).runWaiting (World.answer notebook) w).value = some (.ok s) ∧
        given.apply s = ⟨.stream, "::1", some 60, "sh", ⟨.warn, some "k"⟩⟩) ∧
      ∀ x ∈ ((run c 0).run.runWaiting (World.answer notebook) w).trace, ∀ e n,
        x.request = .controller e (.pause n) → n = 60 := by
  intro w given c layer
  have hparse : Toml.parse mixed.toList = .ok mixedTable := rfl
  have hload : notebook.load w.site c.config = .ok mixed.toList := by decide +kernel
  have hlayer : FileSays notebook w.site c.config layer :=
    .document rfl hload hparse says_mixedTable
  obtain ⟨⟨s, hs, hmerged, -⟩, hpauses, -⟩ := settings_resolve notebook w c hlayer 0
  refine ⟨hlayer, ⟨s, hs, hmerged⟩, ?_⟩
  intro x hx e n hpause
  exact (Option.some.inj (hpauses x hx e n hpause)).symm

end Program

end Lockstep
