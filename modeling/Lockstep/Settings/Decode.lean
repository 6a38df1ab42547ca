import Lockstep.Settings.Basic
import Lockstep.Text.Quoted
import Lockstep.Toml.Parser

/-!
# Settings from documents

A document gives some of the settings, the others keep their defaults, and keys that mean nothing
are passed over. A choice may be given by its name or as a table with the name as its only key;
the settings of the journal as a table or as an array of their values. Entries are looked at in
the order of the document, and the first one that does not do is the mistake that is reported.
-/

namespace Lockstep.Settings

/-- What a setting has to be. -/
inductive Wanted where
  | text
  | milliseconds
  | path
  | journal
  deriving Repr, DecidableEq

/-- What is wanted, as a message names it. -/
def Wanted.name : Wanted → String
  | .text => "a string"
  | .milliseconds => "u64"
  | .path => "path string"
  | .journal => "struct LogConfig"

/-- Why a value does not do. -/
inductive Reason where
  | wrongType (found : String) (wanted : Wanted)
  | outOfRange (i : Int) (wanted : Wanted)
  | unknownChoice (name : String) (choices : List String)
  /-- Neither a name nor a table with one. -/
  | noChoice
  | emptyChoice
  | severalChoices
  /-- A choice with a value of its own: tables under headers, or some other collection. -/
  | filledTables
  | filledCollection
  | filledWith (kind : String)
  deriving Repr, DecidableEq

/-- The reason in words. -/
def Reason.message : Reason → String
  | .wrongType found wanted => s!"invalid type: {found}, expected {wanted.name}"
  | .outOfRange i wanted =>
    s!"invalid value: integer \x60{i}\x60, expected {wanted.name}"
  | .unknownChoice name choices =>
    let listed := ", ".intercalate (choices.map fun c => s!"\x60{c}\x60")
    s!"unknown variant \x60{name}\x60, expected one of {listed}"
  | .noChoice => "wanted string or table"
  | .emptyChoice => "wanted exactly 1 element, found 0 elements"
  | .severalChoices => "wanted exactly 1 element, more than 1 element"
  | .filledTables => "expected empty array"
  | .filledCollection => "expected empty table"
  | .filledWith kind => s!"expected table, found {kind}"

/-- A value that does not do, and where it stands if it stands anywhere. -/
structure Mistake where
  span : Option Toml.Span
  reason : Reason
  deriving Repr, DecidableEq

/-- A mistake in a value. -/
def mistake {α : Type} (v : Toml.Value) (reason : Reason) : Except Mistake α :=
  .error ⟨v.span?, reason⟩

/-- A value in words. -/
def describe : Toml.Value → String
  | .string _ s => s!"string {Quoted.quote s}"
  | .integer _ i => s!"integer \x60{i}\x60"
  | .real _ r => s!"floating point \x60{r.render}\x60"
  | .boolean _ b => s!"boolean \x60{b}\x60"
  | .moment _ | .table _ _ _ => "map"
  | .array _ _ | .tables _ => "sequence"

/-- A text, be it a path or not. -/
def decodeText (wanted : Wanted) : Toml.Value → Except Mistake String
  | .string _ s => .ok s
  | v => mistake v (.wrongType (describe v) wanted)

/-- A number of milliseconds. -/
def decodeDelay : Toml.Value → Except Mistake UInt64
  | .integer span i =>
    if i < 0 then mistake (.integer span i) (.outOfRange i .milliseconds)
    else .ok (UInt64.ofNat i.natAbs)
  | v => mistake v (.wrongType (describe v) .milliseconds)

/-- The choice of a name. -/
def choose {α : Type} (choices : List (String × α)) (span : Option Toml.Span) (name : String) :
    Except Mistake α :=
  match choices.find? fun c => c.1 == name with
  | some c => .ok c.2
  | none => .error ⟨span, .unknownChoice name (choices.map (·.1))⟩

/-- A choice has no value of its own. -/
def checkEmpty : Toml.Value → Except Mistake Unit
  | .array _ [] | .tables [] | .table _ _ [] => .ok ()
  | v =>
    match v with
    | .tables _ => mistake v .filledTables
    | .array _ _ | .table _ _ _ => mistake v .filledCollection
    | _ => mistake v (.filledWith v.kindName)

/-- One of several choices. -/
def decodeChoice {α : Type} (choices : List (String × α)) : Toml.Value → Except Mistake α
  | .string span s => choose choices (some span) s
  | .table span origin entries =>
    match entries with
    | [] => mistake (.table span origin entries) .emptyChoice
    | [(k, v)] => do
      let chosen ← choose choices (some k.span) k.name
      checkEmpty v
      return chosen
    | _ => mistake (.table span origin entries) .severalChoices
  | v => mistake v .noChoice

/-- The transports by their names. -/
def transports : List (String × Transport) := Transport.all.map fun t => (t.name, t)

/-- The levels by their names. -/
def levels : List (String × Journal.Level) := Journal.Level.all.map fun l => (l.name, l)

/-- Decodes the value of an entry. A mistake in a value without a place is that of its key. -/
def decodeEntry {α : Type} (decode : Toml.Value → Except Mistake α) (e : Toml.Value.Entry) :
    Except Mistake α :=
  match decode e.2 with
  | .error ⟨none, reason⟩ => .error ⟨some (e.2.span?.getD e.1.span), reason⟩
  | result => result

/-- Takes over one entry of the table of the journal. -/
def decodeJournalEntry (j : JournalSettings) (e : Toml.Value.Entry) :
    Except Mistake JournalSettings :=
  if e.1.name = "level" then
    (fun level => { j with level := level }) <$> decodeEntry (decodeChoice levels) e
  else if e.1.name = "file" then
    (fun file => { j with file := some file }) <$> decodeEntry (decodeText .path) e
  else .ok j

/-- The settings of the journal from their values in order, as many as there are. -/
def decodeJournalItems (items : List Toml.Value) : Except Mistake JournalSettings :=
  match items with
  | [] => .ok default.journal
  | [level] => do
    let level ← decodeChoice levels level
    return { default.journal with level := level }
  | level :: file :: _ => do
    let level ← decodeChoice levels level
    let file ← decodeText .path file
    return ⟨level, some file⟩

/-- The settings of the journal in a value. A moment counts as a table without known keys. -/
def decodeJournal : Toml.Value → Except Mistake JournalSettings
  | .table _ _ entries => entries.foldlM decodeJournalEntry default.journal
  | .array _ items | .tables items => decodeJournalItems items
  | .moment _ => .ok default.journal
  | v => mistake v (.wrongType (describe v) .journal)

/-- Takes over one entry of a document. -/
def decodeSetting (s : Settings) (e : Toml.Value.Entry) : Except Mistake Settings :=
  if e.1.name = "transport" then
    (fun transport => { s with transport := transport }) <$> decodeEntry (decodeChoice transports) e
  else if e.1.name = "host" then
    (fun host => { s with host := host }) <$> decodeEntry (decodeText .text) e
  else if e.1.name = "delay_ms" then
    (fun delay => { s with delay := some delay }) <$> decodeEntry decodeDelay e
  else if e.1.name = "shell" then
    (fun shell => { s with shell := shell }) <$> decodeEntry (decodeText .text) e
  else if e.1.name = "log" then
    (fun journal => { s with journal := journal }) <$> decodeEntry decodeJournal e
  else .ok s

/-- The settings of the entries of a document. -/
def decode (entries : List Toml.Value.Entry) : Except Mistake Settings :=
  entries.foldlM decodeSetting default

/-- Why there are no settings in a file. -/
inductive LoadError where
  | io (cause : SystemError)
  /-- The text is no document. -/
  | malformed (document : List Char) (fault : Toml.Fault)
  | mistaken (document : List Char) (m : Mistake)

/-- The error without its place. -/
def LoadError.message : LoadError → String
  | .io cause => cause.message
  | .malformed _ fault => fault.flaw.message
  | .mistaken _ m => m.reason.message

/-- The error as it is shown, with its place. -/
def LoadError.render : LoadError → String
  | .io cause => cause.message
  | .malformed document fault => fault.render document
  | .mistaken document m =>
    match m.span with
    | some span => Toml.excerpt document span m.reason.message
    | none => s!"{m.reason.message}\n"

/-- The settings of a document. -/
def ofDocument (document : List Char) : Except LoadError Settings :=
  match Toml.parse document with
  | .error fault => .error (.malformed document fault)
  | .ok t =>
    match decode t.entries with
    | .error m => .error (.mistaken document m)
    | .ok s => .ok s

end Lockstep.Settings
