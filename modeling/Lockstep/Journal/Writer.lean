import Lockstep.Journal.Filter

/-!
# The open journal

A journal that is open takes the records that its filter admits. It is opened once; whoever opens
it again changes nothing.
-/

namespace Lockstep

/-- The name of the variable that a filter can be given in. -/
def Journal.filterVariable : String := "LINESTEP_LOG"

/-- An open journal. -/
structure Journal where
  file : String
  level : Journal.Level
  filter : Journal.Filter
  deriving Repr, DecidableEq

namespace Journal

/-- The text of the filter: the one that is given, or else the standard one of the level. -/
def filterText (level : Level) (filter : Option String) : String :=
  filter.getD (Filter.standardText level)

/-- The journal of a file; a filter that is given replaces the standard one of the level. -/
def start (file : String) (level : Level) (filter : Option String) : Journal :=
  ⟨file, level, Filter.read (filterText level filter)⟩

/-- What is said on the error output when a journal is opened, about its filter. -/
def complaints (level : Level) (filter : Option String) : List String :=
  Filter.complaints (filterText level filter)

/-- The line of a record, if it is written; `time` goes before it. -/
def line? (j : Journal) (time : String) (r : Record) : Option String :=
  if j.filter.admits r then some s!"{time}{r.render j.level}\n" else none

end Journal

end Lockstep
