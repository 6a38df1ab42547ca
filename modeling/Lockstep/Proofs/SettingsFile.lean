import Lockstep.Program.World
import Lockstep.Proofs.TomlDocument
import Lockstep.Proofs.Utf8

/-!
# Settings survive being saved

Settings are written as the lines of a document, those of the journal under a header. Each line is
a setting, and what a line gives is taken over as that setting, so the document of some settings
gives them back: what is not written has its default, which is to be absent.

A delay that is longer than a document can say is found before the file is touched.
-/

namespace Lockstep

namespace Settings

open Toml (Line Legible Fills renderDocument)

variable {s : Settings}

/-! ## Settings as lines -/

/-- A document can say how long the delay is. -/
def IsWritable (s : Settings) : Prop :=
  ∀ delay, s.delay = some delay → delay.toNat ≤ Decimal.maxSigned64

/-- The line of the delay, if there is one. -/
def delayLines (s : Settings) : List Line :=
  s.delay.toList.map fun delay => ⟨"delay_ms", .natural delay.toNat⟩

/-- The lines of the settings but for those of the journal. -/
def lines (s : Settings) : List Line :=
  ⟨"transport", .text s.transport.name⟩ :: ⟨"host", .text s.host⟩ ::
    (s.delayLines ++ [⟨"shell", .text s.shell⟩])

/-- The lines of the settings of the journal. -/
def journalLines (s : Settings) : List Line :=
  ⟨"level", .text s.journal.level.name⟩ :: s.journal.file.toList.map fun file => ⟨"file", .text file⟩

theorem render_writable (h : s.IsWritable) :
    s.render = .ok (renderDocument s.lines "log" s.journalLines) := by
  have hdelay : (s.delay.any fun d => d.toNat > Decimal.maxSigned64) = false := by
    cases hs : s.delay with
    | none => rfl
    | some delay => exact decide_eq_false (Nat.not_lt.mpr (h delay hs))
  rw [render, hdelay, if_neg Bool.false_ne_true]
  refine congrArg Except.ok ?_
  obtain ⟨transport, host, delay, shell, level, file⟩ := s
  cases delay <;> cases file <;>
    simp [renderDocument, lines, delayLines, journalLines, renderDelay, renderText, Line.render,
      Toml.Scalar.render, Toml.renderHeader]

theorem render_unwritable {delay : UInt64} (hs : s.delay = some delay)
    (h : Decimal.maxSigned64 < delay.toNat) : s.render = .error .delayTooLong := by
  rw [render, hs]
  exact if_pos (decide_eq_true h)

theorem legible_lines (h : s.IsWritable) : Legible s.lines := by
  obtain ⟨transport, host, delay, shell, journal⟩ := s
  have htransport : Line.WellFormed ⟨"transport", _⟩ := .text (by decide) transport.name
  have hhost : Line.WellFormed ⟨"host", _⟩ := .text (by decide) host
  have hshell : Line.WellFormed ⟨"shell", _⟩ := .text (by decide) shell
  cases delay with
  | none => exact ⟨by simp [lines, delayLines, *], by simp [lines, delayLines]⟩
  | some delay =>
      have hdelay : Line.WellFormed ⟨"delay_ms", _⟩ := .natural (by decide) (h delay rfl)
      exact ⟨by simp [lines, delayLines, *], by simp [lines, delayLines]⟩

theorem legible_journalLines (s : Settings) : Legible s.journalLines := by
  obtain ⟨transport, host, delay, shell, level, file⟩ := s
  have hlevel : Line.WellFormed ⟨"level", _⟩ := .text (by decide) level.name
  cases file with
  | none => exact ⟨by simp [journalLines, *], by simp [journalLines]⟩
  | some file =>
      have hfile : Line.WellFormed ⟨"file", _⟩ := .text (by decide) file
      exact ⟨by simp [journalLines, *], by simp [journalLines]⟩

/-! ## Lines as settings -/

variable {e : Toml.Value.Entry} {entries : List Toml.Value.Entry} {table : Toml.Value}

theorem decodeSetting_transport {t : Transport}
    (he : Line.Gives ⟨"transport", .text t.name⟩ e) (s : Settings) :
    decodeSetting s e = .ok { s with transport := t } := by
  obtain ⟨place, span⟩ := he
  cases t <;> rfl

theorem decodeSetting_host {host : String} (he : Line.Gives ⟨"host", .text host⟩ e)
    (s : Settings) : decodeSetting s e = .ok { s with host := host } := by
  obtain ⟨place, span⟩ := he
  rfl

theorem decodeSetting_delay {delay : UInt64}
    (he : Line.Gives ⟨"delay_ms", .natural delay.toNat⟩ e) (s : Settings) :
    decodeSetting s e = .ok { s with delay := some delay } := by
  obtain ⟨place, span⟩ := he
  have hdelay : decodeDelay (.integer span delay.toNat) = .ok delay := by
    rw [decodeDelay, if_neg (Int.not_lt.mpr (Int.natCast_nonneg _)), Int.natAbs_natCast,
      UInt64.ofNat_toNat]
  show (fun delay => { s with delay := some delay }) <$> decodeEntry decodeDelay _ = _
  rw [decodeEntry, Toml.Scalar.valueAt, hdelay]
  rfl

theorem decodeSetting_shell {shell : String} (he : Line.Gives ⟨"shell", .text shell⟩ e)
    (s : Settings) : decodeSetting s e = .ok { s with shell := shell } := by
  obtain ⟨place, span⟩ := he
  rfl

theorem decodeJournalEntry_level {level : Journal.Level}
    (he : Line.Gives ⟨"level", .text level.name⟩ e) (j : JournalSettings) :
    decodeJournalEntry j e = .ok { j with level := level } := by
  obtain ⟨place, span⟩ := he
  cases level <;> rfl

theorem decodeJournalEntry_file {file : String} (he : Line.Gives ⟨"file", .text file⟩ e)
    (j : JournalSettings) : decodeJournalEntry j e = .ok { j with file := some file } := by
  obtain ⟨place, span⟩ := he
  rfl

theorem decodeJournal_lines (h : Fills s.journalLines table) :
    decodeJournal table = .ok s.journal := by
  obtain ⟨span, entries, rfl, hentries⟩ := h
  obtain ⟨transport, host, delay, shell, level, file⟩ := s
  cases file with
  | none =>
      obtain _ | ⟨hlevel, _ | _⟩ := hentries
      simp only [decodeJournal, List.foldlM, decodeJournalEntry_level hlevel, bind, Except.bind]
      rfl
  | some file =>
      obtain _ | ⟨hlevel, _ | ⟨hfile, _ | _⟩⟩ := hentries
      simp only [decodeJournal, List.foldlM, decodeJournalEntry_level hlevel,
        decodeJournalEntry_file hfile, bind, Except.bind]
      rfl

theorem foldlM_lines (h : List.Forall₂ Line.Gives s.lines entries) :
    entries.foldlM decodeSetting default = .ok { s with journal := default.journal } := by
  obtain ⟨transport, host, delay, shell, journal⟩ := s
  cases delay with
  | none =>
      obtain _ | ⟨htransport, _ | ⟨hhost, _ | ⟨hshell, _ | _⟩⟩⟩ := h
      simp only [List.foldlM, decodeSetting_transport htransport, decodeSetting_host hhost,
        decodeSetting_shell hshell, bind, Except.bind]
      rfl
  | some delay =>
      obtain _ | ⟨htransport, _ | ⟨hhost, _ | ⟨hdelay, _ | ⟨hshell, _ | _⟩⟩⟩⟩ := h
      simp only [List.foldlM, decodeSetting_transport htransport, decodeSetting_host hhost,
        decodeSetting_delay hdelay, decodeSetting_shell hshell, bind, Except.bind]
      rfl

/-- **What the lines give is taken over as the settings that they were written for.** -/
theorem decode_lines (h : List.Forall₂ Line.Gives s.lines entries) (place : Toml.Span)
    (htable : Fills s.journalLines table) :
    decode (entries ++ [(⟨"log", place⟩, table)]) = .ok s := by
  have hjournal : decodeSetting { s with journal := default.journal } (⟨"log", place⟩, table) =
      .ok s := by
    show (fun journal => { s with journal := journal }) <$> decodeEntry decodeJournal _ = _
    rw [decodeEntry, decodeJournal_lines htable]
    rfl
  rw [decode, List.foldlM_append, foldlM_lines h]
  simp only [bind, Except.bind, List.foldlM, hjournal]
  rfl

/-- **The document of some settings gives these settings.** -/
theorem ofDocument_render (h : s.IsWritable) :
    ∃ document, s.render = .ok document ∧ ofDocument document = .ok s := by
  have hnew : "log" ∉ s.lines.map Line.key := by
    cases hs : s.delay <;> simp [lines, delayLines, hs]
  have hlog : Toml.IsBare "log" := by decide
  obtain ⟨t, entries, place, table, hparse, hentries, hlines, htable⟩ :=
    Toml.parse_renderDocument hlog (legible_lines h) (legible_journalLines s) hnew
  refine ⟨_, render_writable h, ?_⟩
  rw [ofDocument, hparse]
  dsimp only
  rw [hentries, decode_lines hlines place htable]

end Settings

namespace Program

open Dialogue (runWaiting)

variable {η : Type}

/-! ## Saving and reading -/

/-- The file can be written, and a text that has been saved in it is there to be loaded. -/
def Keeps (site : Site η) (path : String) (state : η) : Prop :=
  ∀ content text, Utf8.decode content = .ok text →
    ∃ state', site.save state path content = .ok state' ∧ site.load state' path = .ok text

theorem run_saveSettings {site : Site η} {w : World η} {path : String} {s : Settings}
    {document : List Char} {state : η} (hrender : s.render = .ok document)
    (hsave : site.save w.site path (Utf8.encode document) = .ok state) :
    (saveSettings path s).runWaiting (World.answer site) w =
      ⟨some (.ok ()), [⟨.save path (Utf8.encode document), .ok ()⟩], { w with site := state }⟩ := by
  rw [saveSettings, hrender]
  simp only [ask, Dialogue.ask_bind, Dialogue.runWaiting, World.answer, World.change, hsave]
  rfl

theorem run_readSettings {site : Site η} {w : World η} {path : String} {document : List Char}
    (hload : site.load w.site path = .ok document) :
    ((readSettings path).runWaiting (World.answer site) w).value =
      some (Settings.ofDocument document) := by
  rw [readSettings]
  simp only [ask, Dialogue.ask_bind, Dialogue.runWaiting, World.answer, hload]
  rfl

/-- **Settings come back from the file that they were saved in,** whatever their texts are; with a
delay that cannot be written nothing is asked for, so that the file stays as it is. -/
theorem saved_settings_return (site : Site η) (w : World η) (path : String) (s : Settings) :
    let saved := (saveSettings path s).runWaiting (World.answer site) w
    ((∀ delay, s.delay = some delay → delay.toNat ≤ Decimal.maxSigned64) → Keeps site path w.site →
      saved.value = some (.ok ()) ∧
      ((readSettings path).runWaiting (World.answer site) saved.state).value = some (.ok s)) ∧
    (∀ delay, s.delay = some delay → Decimal.maxSigned64 < delay.toNat →
      saved.value = some (.error .delayTooLong) ∧ saved.trace = [] ∧ saved.state = w) := by
  intro saved
  constructor
  · intro hdelay hkeeps
    obtain ⟨document, hrender, hdocument⟩ := Settings.ofDocument_render (s := s) hdelay
    obtain ⟨state, hsave, hload⟩ := hkeeps _ _ (Utf8.decode_encode document)
    have hsaved : saved = _ := run_saveSettings hrender hsave
    rw [hsaved]
    exact ⟨rfl, (run_readSettings hload).trans (congrArg some hdocument)⟩
  · intro delay hs hlong
    have hsaved : saved = ⟨some (.error .delayTooLong), [], w⟩ := by
      show (saveSettings path s).runWaiting (World.answer site) w = _
      rw [saveSettings, Settings.render_unwritable hs hlong]
      rfl
    rw [hsaved]
    exact ⟨rfl, rfl, rfl⟩

/-- A site with one file, which is found under every path. -/
def notebook : Site Bytes where
  resolve _ path := .ok path
  load content _ := (Utf8.decode content).mapError fun _ => .notText
  invoke content _ := (.error .notFound, content)
  isThere _ _ := true
  save _ _ content := .ok content
  extend content _ more := .ok (content ++ more)

theorem notebook_keeps (path : String) (content : Bytes) : Keeps notebook path content := by
  intro content text h
  refine ⟨content, rfl, ?_⟩
  show (Utf8.decode content).mapError _ = _
  rw [h]
  rfl

/-- Surroundings in which there is nothing but a site. -/
def World.bare {η : Type} (state : η) : World η :=
  ⟨state, [], .willing, .willing, .isolated 0, none, .ok (), none, none⟩

/-- Settings whose texts are hard to write, with the longest delay. -/
def awkward : Settings where
  transport := .none
  host := "'''\"\"\"\\"
  delay := some 9223372036854775807
  shell := "\r\n\t\x07\x7f"
  journal := ⟨.trace, some "\"\n'"⟩

theorem awkward_settings_return :
    let saved (s : Settings) := (saveSettings Settings.defaultPath s).runWaiting
      (World.answer notebook) (World.bare [])
    let long : Settings := { awkward with delay := some 9223372036854775808 }
    (saved awkward).value = some (.ok ()) ∧
    ((readSettings Settings.defaultPath).runWaiting (World.answer notebook)
      (saved awkward).state).value = some (.ok awkward) ∧
    (saved long).value = some (.error .delayTooLong) ∧ (saved long).trace = [] ∧
    (saved long).state = World.bare [] := by
  intro saved long
  have hdelay : ∀ delay, awkward.delay = some delay → delay.toNat ≤ Decimal.maxSigned64 := by
    rintro _ ⟨⟩
    decide
  have hsaved := (saved_settings_return notebook (World.bare []) Settings.defaultPath awkward).1
    hdelay (notebook_keeps _ _)
  have hlong := (saved_settings_return notebook (World.bare []) Settings.defaultPath long).2
    9223372036854775808 rfl (by decide)
  exact ⟨hsaved.1, hsaved.2, hlong⟩

end Program

end Lockstep
