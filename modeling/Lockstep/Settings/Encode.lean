import Lockstep.Settings.Basic
import Lockstep.SystemError
import Lockstep.Toml.Printer

/-!
# Settings as documents

Settings are written in a fixed order, those without a value not at all. A document holds signed
integers of 64 bits, so a longer delay than the greatest of them cannot be written.
-/

namespace Lockstep.Settings

/-- Why settings are not in a file. -/
inductive SaveError where
  /-- The delay is too long to be written. -/
  | delayTooLong
  | io (cause : SystemError)
  deriving Repr, DecidableEq

/-- The error in words. -/
def SaveError.message : SaveError → String
  | .delayTooLong => "out-of-range value for u64 type"
  | .io cause => cause.message

/-- The line of a setting that is a text. -/
def renderText (key value : String) : List Char :=
  Toml.renderPair key (Toml.renderString value.toList)

/-- The line of the delay, if there is one. -/
def renderDelay : Option UInt64 → List Char
  | none => []
  | some delay => Toml.renderPair "delay_ms" (Decimal.digits delay.toNat)

/-- The document of some settings. -/
def render (s : Settings) : Except SaveError (List Char) :=
  if s.delay.any fun d => d.toNat > Decimal.maxSigned64 then .error .delayTooLong
  else
    .ok (renderText "transport" s.transport.name ++ renderText "host" s.host ++
      renderDelay s.delay ++ renderText "shell" s.shell ++ "\n[log]\n".toList ++
      renderText "level" s.journal.level.name ++
      (match s.journal.file with
        | some file => renderText "file" file
        | none => []))

/-- What stands below the settings of a new file. -/
def hint : List Char :=
  "\n# Pause after each continue, in milliseconds\n# delay_ms = 60\n".toList

end Lockstep.Settings
