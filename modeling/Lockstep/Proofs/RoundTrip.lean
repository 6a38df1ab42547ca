import Lockstep.Proofs.Play
import Lockstep.Proofs.Reply

/-!
# Messages there and back

Messages that one side writes are the messages that the other side reads, each once and in order,
and after the last one the reader finds the connection closed. What carries this is that a line
ends where its message ends: `Message.cutLine_bytes` on the side of the bytes, and
`Message.decode_encode` on the side of the text.

The other half is what a line looks like to somebody who does not know this library: an object of
JSON on a line of its own, with the kind under `type` and the fields that are present under their
names.
-/

namespace Lockstep

open Controller (Plays sent)

/-! ## One message as an object -/

namespace Json

theorem member?_nil (key : String) : member? [] key = none := rfl

/-- A member counts where no later one has its key. -/
theorem member?_cons (k key : String) (v : Value) (rest : List (String × Value)) :
    member? ((k, v) :: rest) key = (member? rest key).or (if k = key then some v else none) := by
  rw [member?, member?, List.findRev?]
  cases rest.findRev? fun m => m.1 == key with
  | some m => rfl
  | none => by_cases hk : k = key <;> simp [hk]

end Json

namespace Message

/-- What the object of a message has under a key. -/
def holds (m : Message) (key : String) : Option Json.Value :=
  if key = "type" then some (.string m.kind.name)
  else
    match m with
    | .serverInit host port =>
      if key = "host" then host.map .string
      else if key = "port" then port.map fun p => .number (.natural p.toNat)
      else none
    | .breakAt line => if key = "linenumber" then some (.number (.natural line.toNat)) else none
    | .clientInit | .resume | .finish => none

theorem nodup_members (m : Message) : (m.members.map (·.1)).Nodup := by
  cases m with
  | serverInit host port => cases host <;> cases port <;> simp [members, fields]
  | breakAt line => simp [members, fields]
  | clientInit => simp [members, fields]
  | resume => simp [members, fields]
  | finish => simp [members, fields]

/-- The members of a message are its kind and the fields that it has. -/
theorem member?_members (m : Message) (key : String) :
    Json.member? m.members key = m.holds key := by
  cases m with
  | serverInit host port =>
      cases host <;> cases port <;>
        simp only [members, fields, holds, Json.member?_cons, Json.member?_nil, Option.map_none,
          Option.map_some, Option.toList_none, Option.toList_some, List.nil_append,
          List.cons_append, Option.none_or, eq_comm (a := key)] <;> grind
  | breakAt line =>
      simp only [members, fields, holds, Json.member?_cons, Json.member?_nil, Option.none_or]
      grind
  | clientInit => simp [members, fields, holds, Json.member?_cons, Json.member?_nil, eq_comm]
  | resume => simp [members, fields, holds, Json.member?_cons, Json.member?_nil, eq_comm]
  | finish => simp [members, fields, holds, Json.member?_cons, Json.member?_nil, eq_comm]

/-- A line has one line feed, and it is the last byte. -/
theorem count_lineFeed_bytes (m : Message) : m.bytes.count lineFeed = 1 := by
  rw [bytes_eq, List.count_append, List.count_eq_zero_of_not_mem m.lineFeed_not_mem_body]
  rfl

/-- The bytes of a message are this text on a line of its own, and the text is this object. -/
structure Spelled (m : Message) (text : List Char) (members : List (String × Json.Value)) :
    Prop where
  utf8 : Utf8.decode m.bytes = .ok (text ++ ['\n'])
  last : m.bytes.getLast? = some lineFeed
  count : m.bytes.count lineFeed = 1
  object : Json.parse text = .ok (.object members)
  nodup : (members.map (·.1)).Nodup
  holds : ∀ key, Json.member? members key = m.holds key

/-- **A message is spelled** as one line, whatever it holds. -/
theorem spelled (m : Message) : m.Spelled m.toJson.render m.members where
  utf8 := Utf8.decode_encode m.encode
  last := m.getLast?_bytes
  count := m.count_lineFeed_bytes
  object := m.parse_toJson
  nodup := m.nodup_members
  holds := m.member?_members

end Message

/-! ## Many messages -/

namespace Endpoint

/-- Sends messages one after another. -/
def sendAll : List Message → Action Unit
  | [] => pure ()
  | m :: rest => do
    send m
    sendAll rest

/-- Waits for some messages one after another, whatever becomes of the ones before. -/
def receiveTimes (e : Endpoint) : Nat → Talk (List (Except SessionError Message))
  | 0 => pure []
  | n + 1 => do
    let first ← e.receiveMessage.run
    let rest ← e.receiveTimes n
    pure (first :: rest)

variable {η : Type} (host : Host η) {e : Endpoint}

theorem send_plays (v : View η) (m : Message) :
    Plays host (send m).run v (.ok ()) [.said m.bytes] v := by
  rw [send_run]
  refine .send ?_
  intro d hd
  rw [hd]
  exact .done _

theorem sendAll_plays (v : View η) (ms : List Message) :
    Plays host (sendAll ms).run v (.ok ()) (ms.map fun m => .said m.bytes) v := by
  induction ms with
  | nil => exact .done _
  | cons m rest ih =>
      rw [sendAll, ExceptT.run_bind]
      exact (send_plays host v m).bind ih

theorem receiveTimes_succ_value (he : e.hasPeer = true) (n : Nat) (w : World η) :
    ((e.receiveTimes (n + 1)).run (World.answer host) w).value =
      hear (w.source.readLine).1 ::
        ((e.receiveTimes n).run (World.answer host)
          { w with source := (w.source.readLine).2 }).value := by
  rw [receiveTimes, receiveMessage_run he, Dialogue.ask_bind, Dialogue.run_ask, Dialogue.done_bind,
    Dialogue.run_bind]
  rfl

/-- A reader whose lines are used up finds the connection closed every time. -/
theorem receiveTimes_value_nil (he : e.hasPeer = true) (more : Nat) {w : World η}
    (hw : w.source.Supplies []) :
    ((e.receiveTimes more).run (World.answer host) w).value =
      List.replicate more (.error .closed) := by
  induction more generalizing w with
  | zero => rfl
  | succ more ih =>
      obtain ⟨hread, hrest⟩ := hw.readLine
      rw [receiveTimes_succ_value host he, hread, ih hrest]
      rfl

/-- **A reader gets what was written,** message by message. -/
theorem receiveTimes_value (he : e.hasPeer = true) (ms : List Message) (more : Nat) {w : World η}
    (hw : w.source.Supplies (ms.map Message.bytes)) :
    ((e.receiveTimes (ms.length + more)).run (World.answer host) w).value =
      ms.map .ok ++ List.replicate more (.error .closed) := by
  -- reading a line takes its message off the list, so the state of the reader varies
  induction ms generalizing w with
  | nil =>
      rw [List.length_nil, Nat.zero_add]
      exact receiveTimes_value_nil host he more hw
  | cons m rest ih =>
      obtain ⟨hread, hrest⟩ := hw.readLine
      have hm : hear (.ok (Source.lineAt ((m :: rest).map Message.bytes) 0)) = .ok m :=
        hear_spoken m.says_bytes
      rw [List.length_cons, Nat.add_right_comm, receiveTimes_succ_value host he, hread, hm,
        ih hrest]
      rfl

/--
**What is written is what is read.** Messages are written without a failure where writing does not
fail. A reader that gets these bytes, in whatever pieces they arrive, reads exactly these messages
in order, and then finds the connection closed as often as it asks. Each message is one line, and
the line is the object of the message.
-/
theorem messages_round_trip (he : e.hasPeer = true) (ms : List Message) (more : Nat)
    {w : World η} (hsink : w.sink.receiver.Obliging) :
    let written := (sendAll ms).run.run (World.answer host) w
    written.value = .ok () ∧
      (∀ reader : World η, reader.source.Brings (sent written.trace) →
        ((e.receiveTimes (ms.length + more)).run (World.answer host) reader).value =
          ms.map .ok ++ List.replicate more (.error .closed)) ∧
      ∀ m ∈ ms, ∃ text members, m.Spelled text members := by
  intro written
  have hplays := sendAll_plays host (View.ofWorld w) ms
  have hshows := View.shows_ofWorld hsink
  have hsent : sent written.trace = ms.flatMap Message.bytes := by
    rw [hplays.sent hshows, List.flatMap_map]
    rfl
  refine ⟨hplays.value hshows, ?_, fun m _ => ⟨_, _, m.spelled⟩⟩
  intro reader hreader
  have hlines := hreader.supplies
  rw [hsent, Message.linesOf_bytes] at hlines
  exact receiveTimes_value host he ms more hlines

/-- A host may hold anything, a line break and a quotation mark too. -/
theorem messages_round_trip_awkward_host :
    let host : Host Unit :=
      ⟨fun _ => .ok, fun _ _ => .ok [], fun _ _ => (.ok ⟨[], [], .exited 0⟩, ())⟩
    let ms := [Message.serverInit (some "a\n\"\x00é") none, .breakAt 4294967295, .finish]
    let w : World Unit := ⟨[], .willing, .willing, .ok (), ()⟩
    let written := (sendAll ms).run.run (World.answer host) w
    let reader := { w with source := Source.ofBytes (sent written.trace) }
    (stream.receiveTimes 4 |>.run (World.answer host) reader).value =
      ms.map .ok ++ [.error .closed] := by
  intro host ms w written reader
  obtain ⟨-, hread, -⟩ :=
    messages_round_trip host (e := .stream) rfl ms 1 (w := w) Receiver.willing_obliging
  exact hread reader (Source.brings_ofBytes _)

end Endpoint

end Lockstep
