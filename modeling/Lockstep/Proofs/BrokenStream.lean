import Lockstep.Client.World
import Lockstep.Proofs.ClientShape
import Lockstep.Proofs.MessageLanguage

/-!
# A client whose stream breaks off

A controller may go away at any byte. A client takes a last line also without its line feed, so it
must not mistake a part of a message for a message, and it does not: a message is written as an
object, and the brace that closes an object is its last character. What is left of the bytes of a
message is therefore no text, or a text in which this brace is missing (`readMessage_part`).

So a client that gets the beginning of what was written reads the messages that are whole in it, of
which the last may lack its line feed, and then finds an error (`Client.reads_broken_stream`).
-/

namespace Lockstep

open Source (linesOf)

namespace Message

variable {m : Message}

/-! ## A part of a message -/

/-- The text of a message is no JSON before it is whole. -/
theorem parse_part {part more : List Char} (h : part ++ more = m.toJson.render) (hmore : more ≠ [])
    (v : Json.Value) : Json.parse part ≠ .ok v := by
  intro hpart
  have hwhole := m.parse_toJson
  obtain ⟨inner, hrender⟩ : ∃ inner, m.toJson.render = '\x7b' :: (inner ++ ['\x7d']) := ⟨_, rfl⟩
  rw [hrender] at h hwhole
  cases part with
  | nil => cases hpart
  | cons c part =>
      obtain ⟨rfl, -⟩ := List.cons.inj h
      have htail : part ++ more = inner ++ ['\x7d'] := (List.cons.inj h).2
      rw [← htail] at hwhole
      have hblanks := Json.blanks_of_parse hpart hwhole
      -- the brace at the end is part of what is missing, and it is no blank
      have hend := congrArg List.getLast? htail
      rw [List.getLast?_append, List.getLast?_eq_some_getLast hmore, Option.some_or,
        List.getLast?_concat] at hend
      have hblank := hblanks _ (List.getLast_mem hmore)
      rw [Option.some.inj hend] at hblank
      exact absurd hblank (by decide)

theorem cut_encode (m : Message) : Cut m.encode m.toJson.render := by
  rw [← dropTrailing_encode]
  exact cut_dropTrailing _

/-- A part of the text of a message is no message. -/
theorem decode_part {part more : List Char} (h : part ++ more = m.toJson.render)
    (hmore : more ≠ []) (m' : Message) : decode part ≠ .ok m' := by
  intro hpart
  have hcut := cut_dropTrailing part
  obtain ⟨ending, hending, -⟩ := hcut.ending
  rw [decode_eq_ok hcut] at hpart
  have hshort : Text.dropTrailing isLineEnd part ++ (ending ++ more) = m.toJson.render := by
    rw [← List.append_assoc, ← hending]
    exact h
  cases hparse : Json.parse (Text.dropTrailing isLineEnd part) with
  | ok v => exact parse_part hshort (List.append_ne_nil_of_right_ne_nil _ hmore) v hparse
  | error fault =>
      rw [ofText, hparse] at hpart
      cases hpart

/-- The text of a message is read also without its line feed. -/
theorem decode_render (m : Message) : decode m.toJson.render = .ok m := by
  have hcut : Cut m.toJson.render m.toJson.render :=
    ⟨⟨[], by simp, List.forall_mem_nil _⟩, m.cut_encode.last⟩
  rw [decode_eq_ok hcut, ← decode_eq_ok m.cut_encode]
  exact m.decode_encode

end Message

/-- What was read is no message. -/
def ClientError.IsInvalid (e : ClientError) : Prop :=
  e = .notText ∨ ∃ failure, e = .malformed failure

namespace Client

variable {m : Message}

theorem readMessage_body (m : Message) : readMessage m.body = .ok m := by
  have htext : Utf8.decode? m.body = some m.toJson.render :=
    congrArg Except.toOption (Utf8.decode_encode m.toJson.render)
  have hne : m.body.isEmpty = false := rfl
  simp [readMessage, hne, htext, m.decode_render]

/-- **A part of a message is not mistaken for one.** -/
theorem readMessage_part {part more : Bytes} (h : part ++ more = m.body) (hpart : part ≠ [])
    (hmore : more ≠ []) : ∃ e, readMessage part = .error e ∧ e.IsInvalid := by
  rw [readMessage, if_neg (by simpa using hpart)]
  cases htext : Utf8.decode part with
  | error flaw =>
      rw [Utf8.decode?, htext]
      exact ⟨_, rfl, .inl rfl⟩
  | ok text =>
      have hwhole : Utf8.decode (part ++ more) = .ok m.toJson.render := by
        rw [h]
        exact Utf8.decode_encode _
      obtain ⟨left, hleft, hnothing⟩ := Utf8.decode_of_append htext hwhole
      rw [Utf8.decode?, htext]
      dsimp only [Except.toOption]
      cases hdecode : Message.decode text with
      | error failure => exact ⟨_, rfl, .inr ⟨failure, rfl⟩⟩
      | ok m' => exact absurd hdecode (Message.decode_part hleft.symm (mt hnothing hmore) m')

end Client

/-! ## Where a stream can break off -/

/--
What the beginning of some messages holds, message by message. It ends after whole messages, of
which the last may lack its line feed, or in the middle of the next one.
-/
inductive BrokenOff (ms : List Message) (before : Bytes) : List (Except ClientError Message) → Prop
  | between (whole : List Message) {left : List Message} (hms : ms = whole ++ left)
      (hbefore : before = whole.flatMap Message.bytes ∨
        before ++ [lineFeed] = whole.flatMap Message.bytes) :
      BrokenOff ms before (whole.map .ok)
  | within (whole : List Message) {left : List Message} {m : Message} {part more : Bytes}
      {e : ClientError} (hms : ms = whole ++ m :: left)
      (hbefore : before = whole.flatMap Message.bytes ++ part) (hbody : part ++ more = m.body)
      (hpart : part ≠ []) (hmore : more ≠ []) (he : e.IsInvalid) :
      BrokenOff ms before (whole.map .ok ++ [.error e])

namespace BrokenOff

variable {ms : List Message} {before after : Bytes} {outcomes : List (Except ClientError Message)}

/-- What is held was written. -/
theorem mem_of_ok {m : Message} (h : BrokenOff ms before outcomes) (hm : .ok m ∈ outcomes) :
    m ∈ ms := by
  have hwhole : ∀ whole left, ms = whole ++ left →
      .ok m ∈ whole.map (Except.ok : Message → Except ClientError Message) → m ∈ ms := by
    intro whole left hms hm
    obtain ⟨m', hm', hok⟩ := List.mem_map.mp hm
    rw [hms, ← Except.ok.inj hok]
    exact List.mem_append_left _ hm'
  cases h with
  | between whole hms _ => exact hwhole whole _ hms hm
  | within whole hms _ _ _ _ _ =>
      rcases List.mem_append.mp hm with hm | hm
      · exact hwhole whole _ hms hm
      · cases List.mem_singleton.mp hm

/-- One more whole message stands before the others. -/
theorem cons (m : Message) (h : BrokenOff ms before outcomes) :
    BrokenOff (m :: ms) (m.bytes ++ before) (.ok m :: outcomes) := by
  cases h with
  | between whole hms hbefore =>
      refine .between (m :: whole) (by rw [hms]; rfl) ?_
      rw [List.flatMap_cons, List.append_assoc]
      exact hbefore.imp (congrArg _) (congrArg _)
  | within whole hms hbefore hbody hpart hmore he =>
      refine .within (m :: whole) (by rw [hms]; rfl) ?_ hbody hpart hmore he
      rw [hbefore, List.flatMap_cons, List.append_assoc]

/-- A part of one message holds nothing, or the message, or an error. -/
theorem of_part {m : Message} {more : Bytes} (h : m.bytes = before ++ more) :
    BrokenOff (m :: ms) before ((linesOf before).map Client.readMessage) := by
  by_cases hbefore : before = []
  · exact hbefore ▸ .between [] rfl (.inl rfl)
  by_cases hmore : more = []
  · rw [hmore, List.append_nil] at h
    have hlines : linesOf before = [m.bytes] := by
      rw [← h]
      simpa using Message.linesOf_bytes [m]
    rw [hlines, List.map_singleton, m.readMessage_bytes, ← h]
    exact .between [m] rfl (.inl (by simp))
  · -- the line feed is part of what is missing
    have hbody : m.body = before ++ more.dropLast := by
      have hdrop := congrArg List.dropLast h
      rwa [m.bytes_eq, List.dropLast_concat, List.dropLast_append_of_ne_nil hmore] at hdrop
    have hline : lineFeed ∉ before := by
      have hnot := m.lineFeed_not_mem_body
      rw [hbody, List.mem_append, not_or] at hnot
      exact hnot.1
    rw [Source.linesOf_of_not_mem hline, if_neg hbefore, List.map_singleton]
    by_cases hend : more.dropLast = []
    · rw [hend, List.append_nil] at hbody
      rw [← hbody, Client.readMessage_body]
      exact .between [m] rfl (.inr (by simpa using m.bytes_eq.symm))
    · obtain ⟨e, hread, he⟩ := Client.readMessage_part hbody.symm hbefore hend
      rw [hread]
      exact .within [] rfl rfl hbody.symm hbefore hend he

/-- **The lines of a beginning of some messages are what it holds of them.** -/
theorem of_append_eq (h : before ++ after = ms.flatMap Message.bytes) :
    BrokenOff ms before ((linesOf before).map Client.readMessage) := by
  induction ms generalizing before with
  | nil =>
      obtain ⟨rfl, -⟩ := List.append_eq_nil_iff.mp h
      exact .between [] rfl (.inl rfl)
  | cons m ms ih =>
      rw [List.flatMap_cons] at h
      rcases List.append_eq_append_iff.mp h with ⟨more, hm, -⟩ | ⟨later, rfl, hlater⟩
      · exact of_part hm
      · rw [Source.linesOf_of_cutLine (m.cutLine_bytes later), List.map_cons, m.readMessage_bytes]
        exact (ih hlater.symm).cons m

end BrokenOff

/-! ## The law -/

namespace Client

/-- Waits for some messages one after another, whatever becomes of the ones before. -/
def receiveTimes : Nat → Talk (List (Except ClientError Message))
  | 0 => pure []
  | n + 1 => do
    let first ← receive.run
    let rest ← receiveTimes n
    pure (first :: rest)

theorem receiveTimes_succ_value (n : Nat) (w : World) :
    ((receiveTimes (n + 1)).run World.answer w).value =
      hearing (w.source.readLine).1 ::
        ((receiveTimes n).run World.answer { w with source := (w.source.readLine).2 }).value := by
  rw [receiveTimes, receive_run, Dialogue.ask_bind, Dialogue.run_ask, Dialogue.done_bind,
    Dialogue.run_bind]
  rfl

/-- **A client reads one line after another,** and then finds the connection closed every time. -/
theorem receiveTimes_value (n : Nat) {w : World} {lines : List Bytes}
    (hw : w.source.Supplies lines) :
    ((receiveTimes n).run World.answer w).value =
      (lines.map readMessage ++ List.replicate n (Except.error ClientError.closed)).take n := by
  induction n generalizing w lines with
  | zero => rfl
  | succ n ih =>
      obtain ⟨hread, hrest⟩ := hw.readLine
      rw [receiveTimes_succ_value, hread, ih hrest]
      cases lines with
      | nil => rfl
      | cons line lines =>
          have hlength : n ≤ (lines.map readMessage ++
              List.replicate n (Except.error ClientError.closed)).length := by simp
          rw [List.map_cons, List.cons_append, List.take_succ_cons, List.replicate_succ',
            ← List.append_assoc, List.take_append_of_le_length hlength]
          rfl

/--
**A client never misreads a stream that breaks off.** Some messages were written, and a client gets
the bytes before some place and then the end of the stream. However often it waits for a message, it
gets one message after another that is whole before this place, where the last may lack its line
feed. If a part of the next message follows, the client gets the error that this is no message, and
from then on it finds the connection closed. So it never gets a message that was not written.
-/
theorem reads_broken_stream (ms : List Message) {before after : Bytes}
    (h : before ++ after = ms.flatMap Message.bytes) {w : World} (hw : w.source.Brings before) :
    let got (n : Nat) := ((receiveTimes n).run World.answer w).value
    (∃ outcomes, BrokenOff ms before outcomes ∧
      ∀ n, got n = (outcomes ++ List.replicate n (Except.error ClientError.closed)).take n) ∧
      ∀ n m, .ok m ∈ got n → m ∈ ms := by
  intro got
  have hbroken := BrokenOff.of_append_eq h
  have hgot (n : Nat) := receiveTimes_value n hw.supplies
  refine ⟨⟨_, hbroken, hgot⟩, ?_⟩
  intro n m hm
  rw [show got n = _ from hgot n] at hm
  rcases List.mem_append.mp (List.mem_of_mem_take hm) with hm | hm
  · exact hbroken.mem_of_ok hm
  · cases List.eq_of_mem_replicate hm

/-- The host has a brace, a quote and a letter of two bytes; the number of a break is cut. -/
theorem reads_broken_stream_cut_number :
    let opening : Message := .serverInit (some "\x7d\"é") none
    let w : World := ⟨.ofBytes (opening.bytes ++ (Message.breakAt 35).body.take 30), .willing, []⟩
    ∃ e, e.IsInvalid ∧
      ((receiveTimes 3).run World.answer w).value = [.ok opening, .error e, .error .closed] := by
  intro opening w
  let part := (Message.breakAt 35).body.take 30
  let more := (Message.breakAt 35).body.drop 30
  have hwritten : (opening.bytes ++ part) ++ (more ++ [lineFeed]) =
      [opening, .breakAt 35].flatMap Message.bytes := by
    rw [List.append_assoc, ← List.append_assoc part, List.take_append_drop, ← Message.bytes_eq]
    simp
  obtain ⟨⟨outcomes, hbroken, hgot⟩, -⟩ :=
    reads_broken_stream _ hwritten (w := w) (Source.brings_ofBytes _)
  have hopening : opening.body.length = 36 ∧ opening.bytes.length = 37 := by decide
  have hbreak : (Message.breakAt 35).bytes.length = 33 := by decide +kernel
  have hpart : part.length = 30 := by decide +kernel
  cases hbroken with
  | between whole hms hbefore =>
      -- no row of whole messages has this length
      have hlengths := hbefore.imp (congrArg List.length) (congrArg List.length)
      rcases whole with _ | ⟨m, _ | ⟨m', _ | ⟨m'', whole⟩⟩⟩
      · simp [hopening] at hlengths
      · obtain ⟨rfl, -⟩ := List.cons.inj hms
        simp [hpart] at hlengths
      · obtain ⟨rfl, hrest⟩ := List.cons.inj hms
        obtain ⟨rfl, -⟩ := List.cons.inj hrest
        simp [hpart, hbreak] at hlengths
      · simp at hms
  | within whole hms hbefore hbody _ _ he =>
      have hlengths := congrArg List.length hbefore
      rcases whole with _ | ⟨m, _ | ⟨m', whole⟩⟩
      · -- the part would be longer than the opening
        obtain ⟨rfl, -⟩ := List.cons.inj hms
        have hshorter := congrArg List.length hbody
        simp only [List.flatMap_nil, List.nil_append, List.length_append, hopening, hpart]
          at hlengths hshorter
        omega
      · obtain ⟨rfl, -⟩ := List.cons.inj hms
        exact ⟨_, he, hgot 3⟩
      · simp at hms

end Client

end Lockstep
