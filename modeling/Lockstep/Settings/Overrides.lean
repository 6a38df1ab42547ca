import Lockstep.Settings.Basic

/-!
# Settings in layers

What is said for one run goes above the settings of the file, one setting at a time: where nothing
is said the setting below it stays.
-/

namespace Lockstep

/-- Settings for one run, each of which may be left open. -/
structure Overrides where
  transport : Option Transport
  host : Option String
  delay : Option UInt64
  shell : Option String
  level : Option Journal.Level
  file : Option String
  deriving Repr, DecidableEq

namespace Overrides

/-- Leaves every setting open. -/
def none : Overrides := ⟨.none, .none, .none, .none, .none, .none⟩

/-- The settings with those in place of them that are not left open. -/
def apply (o : Overrides) (s : Settings) : Settings where
  transport := o.transport.getD s.transport
  host := o.host.getD s.host
  delay := o.delay <|> s.delay
  shell := o.shell.getD s.shell
  journal :=
    { level := o.level.getD s.journal.level
      file := o.file <|> s.journal.file }

/-- The overrides `p` above the overrides `o`. -/
def above (p o : Overrides) : Overrides where
  transport := p.transport <|> o.transport
  host := p.host <|> o.host
  delay := p.delay <|> o.delay
  shell := p.shell <|> o.shell
  level := p.level <|> o.level
  file := p.file <|> o.file

end Overrides

end Lockstep
