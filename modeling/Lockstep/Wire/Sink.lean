import Lockstep.SystemError
import Lockstep.Text.Utf8

/-!
# Where bytes go

A receiver of bytes may take fewer than it is offered, refuse, or fail to pass on what it has
taken. Bytes are delivered by offering what is left until everything is taken, and are then
flushed. A delivery tells which pieces were taken, also where it failed, so that nothing that has
left is ever forgotten.
-/

namespace Lockstep

/-- How a receiver behaves. -/
structure Receiver where
  /-- How many bytes the next write takes, after `calls` writes that took `taken` bytes in all. -/
  write : (calls taken offered : Nat) → Except SystemError Nat
  /-- What the next flush does, after `flushes` of them and with `taken` bytes taken. -/
  flush : (flushes taken : Nat) → Except SystemError Unit

/-- A receiver that takes everything. -/
def Receiver.willing : Receiver := ⟨fun _ _ offered => .ok offered, fun _ _ => .ok ()⟩

/--
A receiver that takes no more than `limit` bytes in all and no more than `piece` at a time, where
these are given; when it has taken all that it ever takes, a write ends with `refusal`.
-/
def Receiver.limited (limit piece : Option Nat) (refusal : SystemError)
    (flush : Except SystemError Unit) : Receiver where
  write _ taken offered :=
    let room :=
      match limit with
      | some limit => min offered (limit - taken)
      | none => offered
    if room = 0 then .error refusal
    else
      match piece with
      | some piece => .ok (min room piece)
      | none => .ok room
  flush _ _ := flush

/-- A receiver and how far it has come. -/
structure Sink where
  receiver : Receiver
  calls : Nat
  taken : Nat
  flushes : Nat

/-- What became of bytes that were to be delivered. -/
structure Delivery where
  /-- The pieces that were taken. -/
  accepted : List Bytes
  outcome : Except SystemError Unit

namespace Sink

/-- A receiver that has not been used. -/
def ofReceiver (r : Receiver) : Sink := ⟨r, 0, 0, 0⟩

/-- A sink that takes everything. -/
def willing : Sink := ofReceiver .willing

/--
Offers bytes until all are taken; no write is made for no bytes. A receiver that takes none of the
bytes it is offered has taken an empty piece, and is not asked again.
-/
def writeAll (s : Sink) (bytes : Bytes) : Delivery × Sink :=
  match bytes with
  | [] => (⟨[], .ok ()⟩, s)
  | b :: rest =>
    let offered := (b :: rest).length
    match s.receiver.write s.calls s.taken offered with
    | .error cause => (⟨[], .error cause⟩, { s with calls := s.calls + 1 })
    | .ok 0 => (⟨[[]], .error .wroteNothing⟩, { s with calls := s.calls + 1 })
    | .ok (n + 1) =>
      let piece := b :: rest.take n
      let (delivery, s) :=
        writeAll { s with calls := s.calls + 1, taken := s.taken + piece.length } (rest.drop n)
      (⟨piece :: delivery.accepted, delivery.outcome⟩, s)
termination_by bytes.length

/-- Delivers several buffers one after another. -/
def writeEach (s : Sink) : List Bytes → Delivery × Sink
  | [] => (⟨[], .ok ()⟩, s)
  | buffer :: buffers =>
    match s.writeAll buffer with
    | (⟨accepted, .error cause⟩, s) => (⟨accepted, .error cause⟩, s)
    | (⟨accepted, .ok ()⟩, s) =>
      let (delivery, s) := s.writeEach buffers
      (⟨accepted ++ delivery.accepted, delivery.outcome⟩, s)

/-- Delivers several buffers and flushes. -/
def deliver (s : Sink) (buffers : List Bytes) : Delivery × Sink :=
  match s.writeEach buffers with
  | (⟨accepted, .error cause⟩, s) => (⟨accepted, .error cause⟩, s)
  | (⟨accepted, .ok ()⟩, s) =>
    (⟨accepted, s.receiver.flush s.flushes s.taken⟩, { s with flushes := s.flushes + 1 })

end Sink

end Lockstep
