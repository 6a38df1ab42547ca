import Lockstep.Client.Request
import Lockstep.Client.Steps
import Lockstep.Client.World
import Lockstep.CommandLine.Arguments
import Lockstep.CommandLine.Basic
import Lockstep.CommandLine.Help
import Lockstep.Controller.Endpoint
import Lockstep.Controller.Engine
import Lockstep.Controller.Request
import Lockstep.Controller.Session
import Lockstep.Controller.Stepping
import Lockstep.Controller.World
import Lockstep.Decimal.Binary64
import Lockstep.Decimal.Numeral
import Lockstep.Decimal.Shortest
import Lockstep.Dialogue
import Lockstep.Files.Tree
import Lockstep.Journal.Directive
import Lockstep.Journal.Filter
import Lockstep.Journal.Record
import Lockstep.Journal.Writer
import Lockstep.Json.Fault
import Lockstep.Json.Numeral
import Lockstep.Json.Parser
import Lockstep.Json.Printer
import Lockstep.Json.Text
import Lockstep.Json.Value
import Lockstep.Main
import Lockstep.Message.Basic
import Lockstep.Message.Decode
import Lockstep.Program.Failure
import Lockstep.Program.Request
import Lockstep.Program.Run
import Lockstep.Program.World
import Lockstep.Proofs.Agreement
import Lockstep.Proofs.Attendance
import Lockstep.Proofs.BrokenStream
import Lockstep.Proofs.Calls
import Lockstep.Proofs.Causality
import Lockstep.Proofs.ClientJourney
import Lockstep.Proofs.ClientShape
import Lockstep.Proofs.CommonReading
import Lockstep.Proofs.Confinement
import Lockstep.Proofs.Connection
import Lockstep.Proofs.Course
import Lockstep.Proofs.Delegation
import Lockstep.Proofs.Delivery
import Lockstep.Proofs.Determinacy
import Lockstep.Proofs.Endings
import Lockstep.Proofs.ErrorKinds
import Lockstep.Proofs.ExitStatus
import Lockstep.Proofs.Fragility
import Lockstep.Proofs.Framing
import Lockstep.Proofs.Gate
import Lockstep.Proofs.GatedSession
import Lockstep.Proofs.HookCalls
import Lockstep.Proofs.Iterations
import Lockstep.Proofs.JsonGrammar
import Lockstep.Proofs.JsonNumber
import Lockstep.Proofs.JsonParse
import Lockstep.Proofs.JsonString
import Lockstep.Proofs.JsonText
import Lockstep.Proofs.Layers
import Lockstep.Proofs.LineReading
import Lockstep.Proofs.Link
import Lockstep.Proofs.Loopback
import Lockstep.Proofs.MessageLanguage
import Lockstep.Proofs.MessageText
import Lockstep.Proofs.Obedience
import Lockstep.Proofs.Operations
import Lockstep.Proofs.Play
import Lockstep.Proofs.Reading
import Lockstep.Proofs.RejectedScript
import Lockstep.Proofs.ReplaySession
import Lockstep.Proofs.Reply
import Lockstep.Proofs.Resolution
import Lockstep.Proofs.RoundTrip
import Lockstep.Proofs.ScriptConcatenation
import Lockstep.Proofs.ScriptGrammar
import Lockstep.Proofs.ScriptParse
import Lockstep.Proofs.ScriptRun
import Lockstep.Proofs.ScriptSession
import Lockstep.Proofs.ScriptSheet
import Lockstep.Proofs.ScriptSpacing
import Lockstep.Proofs.SessionRequests
import Lockstep.Proofs.SettingsFile
import Lockstep.Proofs.Shape
import Lockstep.Proofs.Stages
import Lockstep.Proofs.Stops
import Lockstep.Proofs.Subject
import Lockstep.Proofs.Suspensions
import Lockstep.Proofs.TextLines
import Lockstep.Proofs.Tolerance
import Lockstep.Proofs.TomlDocument
import Lockstep.Proofs.TomlNames
import Lockstep.Proofs.TomlString
import Lockstep.Proofs.Transcript
import Lockstep.Proofs.Truncation
import Lockstep.Proofs.Twins
import Lockstep.Proofs.Unfolding
import Lockstep.Proofs.Utf8
import Lockstep.Script.Execution
import Lockstep.Script.Statement
import Lockstep.SessionError
import Lockstep.Settings.Basic
import Lockstep.Settings.Decode
import Lockstep.Settings.Encode
import Lockstep.Settings.Overrides
import Lockstep.Shell.Arithmetic
import Lockstep.Shell.Builtin
import Lockstep.Shell.Call
import Lockstep.Shell.Command
import Lockstep.Shell.Evaluation
import Lockstep.Shell.Expansion
import Lockstep.Shell.Field
import Lockstep.Shell.Grammar
import Lockstep.Shell.Host
import Lockstep.Shell.Lookup
import Lockstep.Shell.Number
import Lockstep.Shell.Option
import Lockstep.Shell.Pattern
import Lockstep.Shell.Printing
import Lockstep.Shell.Process
import Lockstep.Shell.Real
import Lockstep.Shell.Redirection
import Lockstep.Shell.Signal
import Lockstep.Shell.State
import Lockstep.Shell.Testing
import Lockstep.Shell.Token
import Lockstep.Shell.Tool.Basic
import Lockstep.Shell.Tool.Expression
import Lockstep.Shell.Tool.Files
import Lockstep.Shell.Tool.Lines
import Lockstep.Shell.Tools
import Lockstep.Shell.Word
import Lockstep.SystemError
import Lockstep.Text.Alphanumeric
import Lockstep.Text.Blank
import Lockstep.Text.Hexadecimal
import Lockstep.Text.Lines
import Lockstep.Text.Quoted
import Lockstep.Text.Unprintable
import Lockstep.Text.Utf8
import Lockstep.Toml.Fault
import Lockstep.Toml.Moment
import Lockstep.Toml.Numeral
import Lockstep.Toml.Parser
import Lockstep.Toml.Printer
import Lockstep.Toml.Table
import Lockstep.Toml.Text
import Lockstep.Toml.Value
import Lockstep.Wire.Address
import Lockstep.Wire.Line
import Lockstep.Wire.Network
import Lockstep.Wire.Sink
import Lockstep.Wire.Source
