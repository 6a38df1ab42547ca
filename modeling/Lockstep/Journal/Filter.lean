import Lockstep.Journal.Directive

/-!
# Filters of the journal

A filter is a list of directives with commas between them, of which the most specific one decides
about a record. A text that is no directive is passed over, which its reader is told.
-/

namespace Lockstep.Journal

/-- Directives that can be about records; no two are about the same ones. -/
structure Filter where
  directives : List Directive
  deriving Repr, DecidableEq

namespace Filter

/-- Adds a directive in place of one about the same records. -/
def add (f : Filter) (d : Directive) : Filter :=
  ⟨f.directives.filter (fun e => !d.isLike e) ++ [d]⟩

/-- The texts between the commas, empty ones left out. -/
def parts (s : String) : List String := (s.splitOn ",").filter (· ≠ "")

/-- Reads a filter; one without directives lets errors through. -/
def read (s : String) : Filter :=
  let found := (parts s).filterMap fun part => (Directive.read part).toOption
  if found.isEmpty then ⟨[⟨"", none, none, some .error⟩]⟩
  else (found.filter Directive.isAboutRecords).foldl add ⟨[]⟩

/-- What the reader of a filter is told about a text that is no directive. -/
def complaint? (part : String) : Option String :=
  match Directive.read part with
  | .ok _ => none
  | .error e => some s!"ignoring \x60{part}\x60: {e.message}"

/-- What the reader of a filter is told. -/
def complaints (s : String) : List String := (parts s).filterMap complaint?

/-- What is recorded if nothing else is said: warnings, and more of the library itself. -/
def standardText (level : Level) : String := s!"warn,linestep={level.name}"

/-- The directive about a record that decides. -/
def directiveFor? (f : Filter) (r : Record) : Option Directive :=
  let better (best : Option Directive) (d : Directive) : Option Directive :=
    match best with
    | some b => if d.precedes b then some d else best
    | none => some d
  (f.directives.filter (·.covers r)).foldl better none

/-- Whether a record is written. -/
def admits (f : Filter) (r : Record) : Bool :=
  match (f.directiveFor? r).bind (·.level) with
  | some level => r.level.rank ≤ level.rank
  | none => false

end Filter

/-- The name of a level in the journal. -/
def Level.label : Level → String
  | .error => "ERROR"
  | .warn => "WARN"
  | .info => "INFO"
  | .debug => "DEBUG"
  | .trace => "TRACE"

/-- The line of a record without its time. The more is recorded, the more is said of each. -/
def Record.render (configured : Level) (r : Record) : String :=
  let thread := if configured.rank ≥ Level.trace.rank then "ThreadId(01) " else ""
  let origin := if configured.rank ≥ Level.debug.rank then s!"{r.origin.name}: " else ""
  let fields := String.join (r.fields.map fun f => s!" {f.1}={f.2}")
  s!"{r.level.label} {thread}{origin}{r.message}{fields}"

end Lockstep.Journal
