import Lockstep.SystemError
import Lockstep.Wire.Address

/-!
# Networks

Somebody listens at an address for the one connection that a controller takes, and somebody
connects to it. All of this may fail, also where a client has come along already. A machine without
a network can still listen, at any address of four bytes and at that of no machine in particular,
but reaches nothing, not even itself, so that nobody ever comes.
-/

namespace Lockstep

/-- What a network does for those who listen and those who connect. -/
structure Network where
  /-- The port at which one listens on a host. -/
  listen : (host : String) → Except SystemError UInt16
  /-- What waiting for a client comes to: the address that it has connected from, or why nobody can
  be waited for. Without a client one waits for ever. -/
  accept : Option (Except SystemError String)
  /-- What taking over the connection to a client ends with. -/
  adopt : Except SystemError Unit
  connect : (host : String) → (port : UInt16) → Except SystemError Unit

namespace Network

/-- Names that every machine knows as its own. -/
def isOwnName (host : String) : Bool := host.toLower == "localhost" || host == "*"

/-- What a machine without a network makes of the name of a host. -/
def unknownHost (host : String) : SystemError :=
  .worded ("failed to lookup address information: " ++
    (if isHostName host then "Temporary failure in name resolution"
      else "Name or service not known"))

/-- The address of a host, as far as a machine without a network can tell. -/
def resolve (host : String) : Except SystemError Address :=
  if host.toList.contains '\x00' then .error .nulInPath
  else if isOwnName host then .ok (.v4 0x7F000001)
  else
    match Address.read? host with
    | some a => .ok a.unmapped
    | none => .error (unknownHost host)

/-- Why a machine without a network cannot listen at an address, if it cannot. -/
def listenError? : Address → Option SystemError
  | .v4 _ => none
  | .v6 groups =>
    let first := groups.headD 0
    if groups.all (· = 0) then none
    else if 0xFF00 ≤ first ∨ (0xFE80 ≤ first ∧ first ≤ 0xFEBF) then some .invalidArgument
    else some .addressUnavailable

/-- Why a machine without a network cannot connect to an address. -/
def connectError : Address → SystemError
  | .v4 _ => .networkUnreachable
  | .v6 groups =>
    let first := groups.headD 0
    if 0xFF00 ≤ first then .networkUnreachable
    else if 0xFE80 ≤ first ∧ first ≤ 0xFEBF then .invalidArgument
    else .addressUnavailable

/-- A machine that only knows itself, and gives out the given port. -/
def isolated (port : UInt16) : Network where
  listen host :=
    match resolve host with
    | .error cause => .error cause
    | .ok a =>
      match listenError? a with
      | some cause => .error cause
      | none => .ok port
  accept := none
  adopt := .ok ()
  connect host _ :=
    match resolve host with
    | .error cause => .error cause
    | .ok a => .error (connectError a)

end Network

end Lockstep
