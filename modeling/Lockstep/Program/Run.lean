import Lockstep.CommandLine.Basic
import Lockstep.CommandLine.Help
import Lockstep.Program.Request

/-!
# Runs of the program

The program makes a file of settings, attaches to a controller, or runs a script. For the last two
it loads the settings, puts those of the command line above them, and opens the journal first.
What a script does wrong is no failure of the program: it fails where the settings, the journal,
the script or the client are not to be had, and where the session ends early.
-/

namespace Lockstep.Program

/-- Saves settings in a file. -/
def saveSettings (path : String) (s : Settings) : Talk (Except Settings.SaveError Unit) := do
  match s.render with
  | .error e => return .error e
  | .ok document =>
    match ← ask (.save path (Utf8.encode document)) with
    | .error cause => return .error (.io cause)
    | .ok () => return .ok ()

/-- The settings of a file. -/
def readSettings (path : String) : Talk (Except Settings.LoadError Settings) := do
  match ← ask (.load path) with
  | .error cause => return .error (.io cause)
  | .ok document => return Settings.ofDocument document

/-- Makes a file of settings, unless something is there already. -/
def initialise (path : String) : Job Unit := do
  if ← isThere path then ask (.print s!"Config file '{path}' already exists.\n")
  else
    match ← saveSettings path .default with
    | .error e => throw ⟨s!"Failed to write config to '{path}'", [e.message]⟩
    | .ok () =>
      orFail s!"Failed to append to '{path}'" (← ask (.extend path (Utf8.encode Settings.hint)))
      ask (.print s!"Created {path}\n")

/-- The settings of a file; without a file all have their defaults. -/
def loadSettings (path : String) : Talk (Except Settings.LoadError Settings) := do
  if ← isThere path then readSettings path
  else return .ok .default

/-- Opens the journal, if it is to be kept. -/
def openJournal (settings : JournalSettings) : Job Unit := do
  match settings.file with
  | none => pure ()
  | some file =>
    match ← ask (.openJournal settings) with
    | .ok _ => pure ()
    | .error cause =>
      throw (.system s!"failed to open log file {Quoted.quote file}: {cause.message}" cause)

/-- Plays the client of a controller. -/
def attach (a : Attachment) (bound : Nat) : Job Unit := do
  orFail s!"Failed to connect to {a.host}:{a.port.toNat}" (← ask (.connect a.host a.port))
  attend (Client.attend a.auto bound)

/-- Listens, tells where, waits for one client, and takes over the connection to it. -/
def acceptClient (host : String) : Job Endpoint := do
  match ← ask (.listen host) with
  | .error cause =>
    throw (.because s!"Failed to listen on '{host}'" (.session (.io cause)))
  | .ok port =>
    let endpoint := Endpoint.socket host port
    let delivery ← ask (.announce endpoint.opening)
    match delivery.outcome with
    | .error cause => throw (.session (.io cause))
    | .ok () =>
      let shown := toString port.toNat
      ask (.note ⟨.info, .commandLine, "waiting for client", [("port", shown)]⟩)
      match ← ask .accept with
      | .error cause => throw (.session (.io cause))
      | .ok client =>
        ask (.note ⟨.info, .connection, "client connected", [("peer", client), ("port", shown)]⟩)
        match ← ask .adopt with
        | .error cause => throw (.session (.io cause))
        | .ok () => pure endpoint

/-- The endpoint at which a controller meets its client. -/
def meet (s : Settings) : Job Endpoint :=
  match s.transport with
  | .stream => pure .stream
  | .none => pure .loopback
  | .socket => acceptClient s.host

/-- Runs a script from the greeting to the last message. -/
def runSession (s : Settings) (target : String) : Job Report := do
  let endpoint ← meet s
  control endpoint
    (Session.run (Script.engine s.shell) endpoint (s.delay.map UInt64.toNat) target)

/-- Runs the script of a command line. -/
def runScript (s : Settings) (file : Option String) : Job Unit := do
  match file with
  | none => throw (.plain CommandLine.noScript)
  | some target =>
    let report ← runSession s target
    match report.fault with
    | none => pure ()
    | some fault =>
      ask (.note ⟨.warn, .program, "target did not complete",
        [("fault", fault), ("breaks", toString report.breaks)]⟩)

/-- Does what a command line says; an attached client goes through at most `bound` events. -/
def run (c : CommandLine) (bound : Nat) : Job Unit := do
  if c.init then initialise c.config
  else
    match ← loadSettings c.config with
    | .error e => throw ⟨s!"Failed to load config '{c.config}'", [e.render]⟩
    | .ok settings =>
      let settings := c.overrides.apply settings
      openJournal settings.journal
      match c.attachment with
      | some a => attach a bound
      | none => runScript settings c.file

end Lockstep.Program
