import Lockstep.Proofs.TomlNames
import Lockstep.Settings.Decode
import Lockstep.Settings.Overrides

/-!
# Settings in three layers

A setting has the value of the command line, or else that of the document, or else its default. A
document is read entry by entry, in the order in which the entries stand, and each entry changes one
setting at most. So the order does not matter, as long as a name has one value (`parse_tidy`): each
setting is the one that its own name gives (`foldlM_named`), whatever stands beside it.

What a document says is itself a layer, of settings that may each be left open. `Says` relates the
two without a reader, and `decode_layer` is the reader.
-/

namespace Lockstep.Settings

open Toml (Value Key)

/-! ## What a document says -/

/-- The value is a text. -/
inductive IsText : Value → String → Prop
  | text (span : Toml.Span) (s : String) : IsText (.string span s) s

/-- The value is a number of milliseconds. -/
inductive IsDelay : Value → UInt64 → Prop
  | natural (span : Toml.Span) (delay : UInt64) : IsDelay (.integer span delay.toNat) delay

/-- The value is a collection of nothing. -/
inductive IsEmpty : Value → Prop
  | array (span : Toml.Span) : IsEmpty (.array span [])
  | tables : IsEmpty (.tables [])
  | table (span : Option Toml.Span) (origin : Toml.Origin) : IsEmpty (.table span origin [])

/-- The value is one of several choices, by its name or as the only name in a table. -/
inductive IsChoice {α : Type} (name : α → String) : Value → α → Prop
  | named (span : Toml.Span) (a : α) : IsChoice name (.string span (name a)) a
  | tabled (span : Option Toml.Span) (origin : Toml.Origin) {k : Key} {v : Value} {a : α} :
      k.name = name a → IsEmpty v → IsChoice name (.table span origin [(k, v)]) a

/-- What is said about the journal: by name in a table, by position in an array, or nothing. -/
inductive SaysJournal : Option Value → Option Journal.Level → Option String → Prop
  | nothing : SaysJournal none none none
  | named (span : Option Toml.Span) (origin : Toml.Origin) {entries : List Value.Entry}
      {level : Option Journal.Level} {file : Option String} :
      Option.Rel (IsChoice Journal.Level.name) (Value.find? "level" entries) level →
      Option.Rel IsText (Value.find? "file" entries) file →
      SaysJournal (some (.table span origin entries)) level file
  | listed {v : Value} {items : List Value} {level : Option Journal.Level} {file : Option String} :
      (v = .tables items ∨ ∃ span, v = .array span items) →
      Option.Rel (IsChoice Journal.Level.name) items[0]? level →
      Option.Rel IsText items[1]? file → SaysJournal (some v) level file
  | moment (span : Toml.Span) : SaysJournal (some (.moment span)) none none

/-- A document says these settings, and leaves the others open. -/
structure Says (entries : List Value.Entry) (o : Overrides) : Prop where
  transport : Option.Rel (IsChoice Transport.name) (Value.find? "transport" entries) o.transport
  host : Option.Rel IsText (Value.find? "host" entries) o.host
  delay : Option.Rel IsDelay (Value.find? "delay_ms" entries) o.delay
  shell : Option.Rel IsText (Value.find? "shell" entries) o.shell
  journal : SaysJournal (Value.find? "log" entries) o.level o.file

/-! ## Single values -/

theorem decodeText_eq (wanted : Wanted) (v : Value) (s : String) (h : IsText v s) :
    decodeText wanted v = .ok s := by
  cases h with
  | text span => rfl

theorem decodeDelay_eq (v : Value) (delay : UInt64) (h : IsDelay v delay) :
    decodeDelay v = .ok delay := by
  cases h with
  | natural span =>
      rw [decodeDelay, if_neg (Int.not_lt.mpr (Int.natCast_nonneg _)), Int.natAbs_natCast,
        UInt64.ofNat_toNat]

section Choice

variable {α : Type} {name : α → String} {all : List α}

theorem choose_eq (hname : ∀ a b, name a = name b → a = b) {a : α} (ha : a ∈ all)
    (span : Option Toml.Span) :
    choose (all.map fun a => (name a, a)) span (name a) = .ok a := by
  have hfind : (all.map fun a => (name a, a)).find? (fun c => c.1 == name a) =
      some (name a, a) := by
    induction all with
    | nil => exact absurd ha List.not_mem_nil
    | cons b rest ih =>
        rw [List.map_cons, List.find?_cons]
        by_cases hb : name b = name a
        · rw [hname b a hb]
          simp
        · have hrest : a ∈ rest := (List.mem_cons.mp ha).resolve_left fun h => hb (by rw [h])
          rw [beq_false_of_ne hb]
          exact ih hrest
  rw [choose, hfind]

/-- A choice is found by its name, however it is given. -/
theorem decodeChoice_eq (hname : ∀ a b, name a = name b → a = b) {v : Value} {a : α} (ha : a ∈ all)
    (h : IsChoice name v a) : decodeChoice (all.map fun a => (name a, a)) v = .ok a := by
  cases h with
  | named span => exact choose_eq hname ha _
  | tabled span origin hk hempty =>
      rw [decodeChoice, hk, choose_eq hname ha]
      cases hempty <;> rfl

end Choice

theorem decodeTransport_eq (v : Value) (t : Transport) (h : IsChoice Transport.name v t) :
    decodeChoice transports v = .ok t := by
  refine decodeChoice_eq ?_ (by cases t <;> decide) h
  intro a b hab
  cases a <;> cases b <;> first | rfl | exact absurd hab (by decide)

theorem decodeLevel_eq (v : Value) (l : Journal.Level) (h : IsChoice Journal.Level.name v l) :
    decodeChoice levels v = .ok l := by
  refine decodeChoice_eq ?_ (by cases l <;> decide) h
  intro a b hab
  cases a <;> cases b <;> first | rfl | exact absurd hab (by decide)

/-! ## One entry after another -/

theorem decodeEntry_eq_ok_iff {α : Type} {decode : Value → Except Mistake α} {e : Value.Entry}
    {a : α} : decodeEntry decode e = .ok a ↔ decode e.2 = .ok a := by
  rw [decodeEntry]
  cases decode e.2 with
  | ok b => exact Iff.rfl
  | error m =>
      obtain ⟨span, reason⟩ := m
      cases span <;> exact ⟨nofun, nofun⟩

section Entries

variable {σ ε α β : Type} {f : σ → Value.Entry → Except ε σ} {entries : List Value.Entry}
  {key : String} {decode : Value → Except Mistake α} {R : Value → α → Prop} {o : Option α}

/-- Where every entry does, all of them do. -/
theorem foldlM_ok (h : ∀ e ∈ entries, ∀ s, ∃ s', f s e = .ok s') (s : σ) :
    ∃ s', entries.foldlM f s = .ok s' := by
  induction entries generalizing s with
  | nil => exact ⟨s, rfl⟩
  | cons e rest ih =>
      obtain ⟨he, hrest⟩ := List.forall_mem_cons.mp h
      obtain ⟨s', hs'⟩ := he s
      obtain ⟨s'', hs''⟩ := ih hrest s'
      refine ⟨s'', ?_⟩
      rw [List.foldlM_cons, hs']
      exact hs''

/-- **A part that only one name changes** has the value of this name in the end, wherever it stands,
and without it stays as it was. -/
theorem foldlM_named {π : σ → β} (wrap : α → β)
    (hstep : ∀ s e s', f s e = .ok s' →
      (e.1.name = key ∧ ∃ a, decode e.2 = .ok a ∧ π s' = wrap a) ∨ (e.1.name ≠ key ∧ π s' = π s))
    (hnames : (entries.map fun e => e.1.name).Nodup) (hR : ∀ v a, R v a → decode v = .ok a)
    (hfound : Option.Rel R (Value.find? key entries) o) {s s' : σ}
    (h : entries.foldlM f s = .ok s') : π s' = (o.map wrap).getD (π s) := by
  induction entries generalizing s o with
  | nil =>
      cases hfound with
      | none =>
          obtain rfl := Except.ok.inj h
          rfl
  | cons e rest ih =>
      rw [List.foldlM_cons] at h
      rw [List.map_cons, List.nodup_cons] at hnames
      cases he : f s e with
      | error failure =>
          rw [he] at h
          exact nomatch h
      | ok s₁ =>
          rw [he] at h
          rcases hstep s e s₁ he with ⟨hname, a, ha, hset⟩ | ⟨hname, hkept⟩
          · -- no later entry has this name
            have hfirst : Value.find? key (e :: rest) = some e.2 := by
              rw [Value.find?, List.find?_cons, hname, beq_self_eq_true]
              rfl
            have hlater : Value.find? key rest = none :=
              Value.find?_eq_none_iff.mpr (hname ▸ hnames.1)
            have hrest := ih (o := none) hnames.2 (by rw [hlater]; exact .none) h
            rw [hfirst] at hfound
            cases hfound with
            | some hvalue =>
                have hsame := (hR _ _ hvalue).symm.trans ha
                rw [hrest, Except.ok.inj hsame]
                exact hset
          · have hlater : Value.find? key (e :: rest) = Value.find? key rest := by
              rw [Value.find?, List.find?_cons, beq_false_of_ne hname]
              rfl
            rw [hlater] at hfound
            rw [ih hnames.2 hfound h, hkept]

/-- An entry whose name is said about can be decoded. -/
theorem decodeEntry_of_found (hnames : (entries.map fun e => e.1.name).Nodup)
    (hR : ∀ v a, R v a → decode v = .ok a) (hfound : Option.Rel R (Value.find? key entries) o)
    {e : Value.Entry} (he : e ∈ entries) (hname : e.1.name = key) :
    ∃ a, decodeEntry decode e = .ok a := by
  have hvalue := Value.find?_of_mem hnames he
  rw [hname] at hvalue
  rw [hvalue] at hfound
  cases hfound with
  | some h => exact ⟨_, decodeEntry_eq_ok_iff.mpr (hR _ _ h)⟩

end Entries

/-! ## The journal -/

/-- What an entry of the table of the journal does. -/
inductive TakesJournal (j : JournalSettings) (e : Value.Entry) : JournalSettings → Prop
  | level {level : Journal.Level} : e.1.name = "level" → decodeChoice levels e.2 = .ok level →
      TakesJournal j e { j with level := level }
  | file {file : String} : e.1.name = "file" → decodeText .path e.2 = .ok file →
      TakesJournal j e { j with file := some file }
  | unknown : e.1.name ≠ "level" → e.1.name ≠ "file" → TakesJournal j e j

theorem map_eq_ok_iff {ε α β : Type} {f : α → β} {r : Except ε α} {b : β} :
    f <$> r = .ok b ↔ ∃ a, r = .ok a ∧ f a = b := by
  cases r with
  | error failure => exact ⟨nofun, fun h => nomatch h.choose_spec.1⟩
  | ok a =>
      constructor
      · intro h
        exact ⟨a, rfl, Except.ok.inj h⟩
      · intro h
        obtain ⟨a', ha, hb⟩ := h
        rw [Except.ok.inj ha, ← hb]
        rfl

theorem decodeJournalEntry_takes {j j' : JournalSettings} {e : Value.Entry}
    (h : decodeJournalEntry j e = .ok j') : TakesJournal j e j' := by
  rw [decodeJournalEntry] at h
  split at h
  · rename_i hname
    obtain ⟨level, hlevel, rfl⟩ := map_eq_ok_iff.mp h
    exact .level hname (decodeEntry_eq_ok_iff.mp hlevel)
  · rename_i hlevel
    split at h
    · rename_i hname
      obtain ⟨file, hfile, rfl⟩ := map_eq_ok_iff.mp h
      exact .file hname (decodeEntry_eq_ok_iff.mp hfile)
    · rename_i hfile
      obtain rfl := Except.ok.inj h
      exact .unknown hlevel hfile

section Journal

variable {entries : List Value.Entry} {level : Option Journal.Level} {file : Option String}

theorem foldlM_journal_ok (hnames : (entries.map fun e => e.1.name).Nodup)
    (hlevel : Option.Rel (IsChoice Journal.Level.name) (Value.find? "level" entries) level)
    (hfile : Option.Rel IsText (Value.find? "file" entries) file) (j : JournalSettings) :
    ∃ j', entries.foldlM decodeJournalEntry j = .ok j' := by
  refine foldlM_ok ?_ j
  intro e he j
  by_cases hl : e.1.name = "level"
  · obtain ⟨a, ha⟩ := decodeEntry_of_found hnames decodeLevel_eq hlevel he hl
    rw [decodeJournalEntry, if_pos hl, ha]
    exact ⟨_, rfl⟩
  · by_cases hf : e.1.name = "file"
    · obtain ⟨a, ha⟩ := decodeEntry_of_found hnames (decodeText_eq .path) hfile he hf
      rw [decodeJournalEntry, if_neg hl, if_pos hf, ha]
      exact ⟨_, rfl⟩
    · rw [decodeJournalEntry, if_neg hl, if_neg hf]
      exact ⟨_, rfl⟩

/-- A table of the journal gives each of its settings by its own name. -/
theorem foldlM_journal (hnames : (entries.map fun e => e.1.name).Nodup)
    (hlevel : Option.Rel (IsChoice Journal.Level.name) (Value.find? "level" entries) level)
    (hfile : Option.Rel IsText (Value.find? "file" entries) file) :
    entries.foldlM decodeJournalEntry default.journal = .ok ⟨level.getD .warn, file⟩ := by
  obtain ⟨⟨level', file'⟩, hj⟩ := foldlM_journal_ok hnames hlevel hfile default.journal
  have hl : level' = (level.map id).getD .warn := by
    refine foldlM_named (π := JournalSettings.level) id ?_ hnames decodeLevel_eq hlevel hj
    intro j e j' h
    cases decodeJournalEntry_takes h <;> simp_all
  have hf : file' = (file.map some).getD none := by
    refine foldlM_named (π := JournalSettings.file) some ?_ hnames (decodeText_eq .path) hfile hj
    intro j e j' h
    cases decodeJournalEntry_takes h <;> simp_all
  rw [hj, hl, hf]
  cases level <;> cases file <;> rfl

theorem decodeJournalItems_eq {items : List Value}
    (hlevel : Option.Rel (IsChoice Journal.Level.name) items[0]? level)
    (hfile : Option.Rel IsText items[1]? file) :
    decodeJournalItems items = .ok ⟨level.getD .warn, file⟩ := by
  match items with
  | [] =>
      cases hlevel
      cases hfile
      rfl
  | [first] =>
      cases hfile
      cases hlevel with
      | some h =>
          rw [decodeJournalItems, decodeLevel_eq _ _ h]
          rfl
  | first :: second :: _ =>
      cases hlevel with
      | some h =>
          cases hfile with
          | some h' =>
              rw [decodeJournalItems, decodeLevel_eq _ _ h, decodeText_eq .path _ _ h']
              rfl

/-- **What is said about the journal is read.** -/
theorem decodeJournal_says {v : Value} (hv : v.Tidy) (h : SaysJournal (some v) level file) :
    decodeJournal v = .ok ⟨level.getD .warn, file⟩ := by
  cases h with
  | named span origin hlevel hfile =>
      cases hv with
      | table _ _ hnames _ => exact foldlM_journal hnames hlevel hfile
  | listed hitems hlevel hfile =>
      have hread := decodeJournalItems_eq hlevel hfile
      rcases hitems with rfl | ⟨span, rfl⟩
      · exact hread
      · exact hread
  | moment span => rfl

end Journal

/-! ## The document -/

/-- What an entry of a document does. -/
inductive Takes (s : Settings) (e : Value.Entry) : Settings → Prop
  | transport {t : Transport} : e.1.name = "transport" → decodeChoice transports e.2 = .ok t →
      Takes s e { s with transport := t }
  | host {host : String} : e.1.name = "host" → decodeText .text e.2 = .ok host →
      Takes s e { s with host := host }
  | delay {delay : UInt64} : e.1.name = "delay_ms" → decodeDelay e.2 = .ok delay →
      Takes s e { s with delay := some delay }
  | shell {shell : String} : e.1.name = "shell" → decodeText .text e.2 = .ok shell →
      Takes s e { s with shell := shell }
  | journal {journal : JournalSettings} : e.1.name = "log" → decodeJournal e.2 = .ok journal →
      Takes s e { s with journal := journal }
  | unknown : e.1.name ∉ ["transport", "host", "delay_ms", "shell", "log"] → Takes s e s

theorem decodeSetting_takes {s s' : Settings} {e : Value.Entry}
    (h : decodeSetting s e = .ok s') : Takes s e s' := by
  rw [decodeSetting] at h
  split at h
  · rename_i hname
    obtain ⟨t, ht, rfl⟩ := map_eq_ok_iff.mp h
    exact .transport hname (decodeEntry_eq_ok_iff.mp ht)
  split at h
  · rename_i hname
    obtain ⟨host, hhost, rfl⟩ := map_eq_ok_iff.mp h
    exact .host hname (decodeEntry_eq_ok_iff.mp hhost)
  split at h
  · rename_i hname
    obtain ⟨delay, hdelay, rfl⟩ := map_eq_ok_iff.mp h
    exact .delay hname (decodeEntry_eq_ok_iff.mp hdelay)
  split at h
  · rename_i hname
    obtain ⟨shell, hshell, rfl⟩ := map_eq_ok_iff.mp h
    exact .shell hname (decodeEntry_eq_ok_iff.mp hshell)
  split at h
  · rename_i hname
    obtain ⟨journal, hjournal, rfl⟩ := map_eq_ok_iff.mp h
    exact .journal hname (decodeEntry_eq_ok_iff.mp hjournal)
  · obtain rfl := Except.ok.inj h
    refine .unknown ?_
    simp [*]

section Document

variable {entries : List Value.Entry} {o : Overrides}

/-- The value of the journal says these settings of it. -/
def IsJournal (v : Value) (j : JournalSettings) : Prop :=
  v.Tidy ∧ ∃ level file, SaysJournal (some v) level file ∧ j = ⟨level.getD .warn, file⟩

theorem decodeJournal_eq (v : Value) (j : JournalSettings) (h : IsJournal v j) :
    decodeJournal v = .ok j := by
  obtain ⟨hv, level, file, hlayer, rfl⟩ := h
  exact decodeJournal_says hv hlayer

/-- What a document says of its journal, if anything. -/
theorem Says.isJournal (hentries : ∀ e ∈ entries, Value.Tidy e.2) (h : Says entries o) :
    ∃ journal, Option.Rel IsJournal (Value.find? "log" entries) journal ∧
      journal.getD default.journal = ⟨o.level.getD .warn, o.file⟩ := by
  have hjournal := h.journal
  cases hv : Value.find? "log" entries with
  | none =>
      rw [hv] at hjournal
      generalize o.level = level, o.file = file at hjournal
      cases hjournal
      exact ⟨none, .none, rfl⟩
  | some v =>
      rw [hv] at hjournal
      obtain ⟨e, he, -, rfl⟩ := Value.mem_of_find? hv
      exact ⟨_, .some ⟨hentries e he, _, _, hjournal, rfl⟩, rfl⟩

theorem foldlM_document_ok (hnames : (entries.map fun e => e.1.name).Nodup)
    (hentries : ∀ e ∈ entries, Value.Tidy e.2) (h : Says entries o) (s : Settings) :
    ∃ s', entries.foldlM decodeSetting s = .ok s' := by
  obtain ⟨journal, hjournal, -⟩ := h.isJournal hentries
  refine foldlM_ok ?_ s
  intro e he s
  rw [decodeSetting]
  split
  · rename_i hname
    obtain ⟨a, ha⟩ := decodeEntry_of_found hnames decodeTransport_eq h.transport he hname
    exact ⟨_, map_eq_ok_iff.mpr ⟨a, ha, rfl⟩⟩
  split
  · rename_i hname
    obtain ⟨a, ha⟩ := decodeEntry_of_found hnames (decodeText_eq .text) h.host he hname
    exact ⟨_, map_eq_ok_iff.mpr ⟨a, ha, rfl⟩⟩
  split
  · rename_i hname
    obtain ⟨a, ha⟩ := decodeEntry_of_found hnames decodeDelay_eq h.delay he hname
    exact ⟨_, map_eq_ok_iff.mpr ⟨a, ha, rfl⟩⟩
  split
  · rename_i hname
    obtain ⟨a, ha⟩ := decodeEntry_of_found hnames (decodeText_eq .text) h.shell he hname
    exact ⟨_, map_eq_ok_iff.mpr ⟨a, ha, rfl⟩⟩
  split
  · rename_i hname
    obtain ⟨a, ha⟩ := decodeEntry_of_found hnames decodeJournal_eq hjournal he hname
    exact ⟨_, map_eq_ok_iff.mpr ⟨a, ha, rfl⟩⟩
  · exact ⟨s, rfl⟩

/-- **What a document says goes above the defaults,** in whatever order it is said, and nothing else
in the document matters. -/
theorem decode_layer (hnames : (entries.map fun e => e.1.name).Nodup)
    (hentries : ∀ e ∈ entries, Value.Tidy e.2) (h : Says entries o) :
    decode entries = .ok (o.apply default) := by
  obtain ⟨journal, hjournal, hlevels⟩ := h.isJournal hentries
  obtain ⟨s, hs⟩ := foldlM_document_ok hnames hentries h default
  have htransport : s.transport = (o.transport.map id).getD default.transport := by
    refine foldlM_named (π := Settings.transport) id ?_ hnames decodeTransport_eq h.transport hs
    intro s e s' h
    cases decodeSetting_takes h <;> simp_all
  have hhost : s.host = (o.host.map id).getD default.host := by
    refine foldlM_named (π := Settings.host) id ?_ hnames (decodeText_eq .text) h.host hs
    intro s e s' h
    cases decodeSetting_takes h <;> simp_all
  have hdelay : s.delay = (o.delay.map some).getD default.delay := by
    refine foldlM_named (π := Settings.delay) some ?_ hnames decodeDelay_eq h.delay hs
    intro s e s' h
    cases decodeSetting_takes h <;> simp_all
  have hshell : s.shell = (o.shell.map id).getD default.shell := by
    refine foldlM_named (π := Settings.shell) id ?_ hnames (decodeText_eq .text) h.shell hs
    intro s e s' h
    cases decodeSetting_takes h <;> simp_all
  have hlog : s.journal = (journal.map id).getD default.journal := by
    refine foldlM_named (π := Settings.journal) id ?_ hnames decodeJournal_eq hjournal hs
    intro s e s' h
    cases decodeSetting_takes h <;> simp_all
  rw [Option.map_id, id] at htransport hhost hshell hlog
  rw [hlevels] at hlog
  obtain ⟨transport, host, delay, shell, log⟩ := s
  dsimp only at htransport hhost hdelay hshell hlog
  rw [decode, hs, htransport, hhost, hdelay, hshell, hlog]
  cases hd : o.delay <;> cases hf : o.file <;> simp [Overrides.apply, default, hd, hf]

/-- **A document says its settings, whatever else is in it.** -/
theorem ofDocument_layer {document : List Char} {t : Value} (hparse : Toml.parse document = .ok t)
    (h : Says t.entries o) : ofDocument document = .ok (o.apply default) := by
  have htidy := Toml.parse_tidy document t hparse
  have hdecode : decode t.entries = .ok (o.apply default) := by
    cases htidy with
    | table _ _ hnames hall => exact decode_layer hnames hall h
    | _ => exact decode_layer List.nodup_nil (List.forall_mem_nil _) h
  rw [ofDocument, hparse]
  dsimp only
  rw [hdecode]

end Document

end Lockstep.Settings
