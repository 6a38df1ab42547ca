import Lockstep.Client.Steps
import Lockstep.Controller.Session
import Lockstep.Program.Failure
import Lockstep.Settings.Encode

/-!
# What the program asks for

Besides what its controller and its client ask for, the program reads and writes files of
settings, opens the journal, and prints. A controller talks at its endpoint, over the standard
streams or over the connection that was accepted; a client talks over the connection that it has
made.
-/

namespace Lockstep

namespace Program

/-- One thing that the program asks for. -/
inductive Request where
  /-- Whether something is at a path. -/
  | isThere (path : String)
  /-- Read a file as text. -/
  | load (path : String)
  /-- Give a file a content; it is made if it is missing. -/
  | save (path : String) (content : Bytes)
  /-- Put bytes at the end of a file that is there. -/
  | extend (path : String) (content : Bytes)
  /-- Open the journal, whose file is made if it is missing, and say what is wrong with its
  filter on the error output. -/
  | openJournal (settings : JournalSettings)
  /-- Print on the standard output. -/
  | print (text : String)
  /-- Listen on a host. -/
  | listen (host : String)
  /-- Tell a client on the error output where to connect. -/
  | announce (message : Message)
  /-- Wait for a client to connect, and learn where it comes from. -/
  | accept
  /-- Take over the connection to the client: what is written to it goes out at once, and reading
  and writing have a handle each. -/
  | adopt
  /-- Connect to a controller. -/
  | connect (host : String) (port : UInt16)
  /-- Write to the journal. -/
  | note (record : Journal.Record)
  | controller (endpoint : Endpoint) (request : Controller.Request)
  | client (request : Client.Request)
  deriving Repr, DecidableEq

/-- What each request is answered with. -/
def Reply : Request → Type
  | .isThere _ => Bool
  | .load _ => Except SystemError (List Char)
  | .save _ _ | .extend _ _ | .adopt | .connect _ _ => Except SystemError Unit
  | .accept => Except SystemError String
  | .openJournal _ => Except SystemError (List String)
  | .listen _ => Except SystemError UInt16
  | .announce _ => Delivery
  | .print _ | .note _ => Unit
  | .controller _ r => Controller.Reply r
  | .client r => Client.Reply r

/-- What the program can ask for. -/
abbrev interface : Interface := ⟨Request, Reply⟩

/-- The program at work. -/
abbrev Talk := Dialogue interface

/-- The program at work, which may fail. -/
abbrev Job := ExceptT Failure Talk

/-- Asks once. -/
def ask (r : Request) : Talk (Reply r) := Dialogue.ask (I := interface) r .done

/-- Whether something is at a path. -/
def isThere (path : String) : Talk Bool := ask (.isThere path)

/-- What a controller asks for at an endpoint. -/
def passOn {α : Type} (endpoint : Endpoint) : Lockstep.Talk α → Talk α
  | .done a => .done a
  | .ask r next => .ask (I := interface) (.controller endpoint r) fun reply =>
    passOn endpoint (next reply)

/-- Runs a controller at an endpoint. -/
def control {α : Type} (endpoint : Endpoint) (action : Action α) : Job α :=
  ExceptT.mk ((passOn endpoint action.run).bind fun result =>
    .done (result.mapError Failure.session))

/-- What a client asks for. -/
def passOnClient {α : Type} : Client.Talk α → Talk α
  | .done a => .done a
  | .ask r next => .ask (I := interface) (.client r) fun reply => passOnClient (next reply)

/-- Runs a client. -/
def attend {α : Type} (action : Client.Action α) : Job α :=
  ExceptT.mk ((passOnClient action.run).bind fun result => .done (result.mapError Failure.client))

/-- The part of a reply that went well; an error keeps what is said from being done. -/
def orFail {α : Type} (message : String) : Except SystemError α → Job α
  | .ok a => pure a
  | .error cause => throw (.system message cause)

end Program

end Lockstep
