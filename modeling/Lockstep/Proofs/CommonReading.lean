import Lockstep.Proofs.BrokenStream
import Lockstep.Proofs.ClientJourney
import Lockstep.Proofs.LineReading
import Lockstep.Proofs.Reply
import Lockstep.Proofs.RoundTrip

/-!
# Two readers of the same bytes

The controller and the client each have a reader of their own. The controller takes a line off the
bytes, and looks whether it is whole and whether it is text before it looks for a message; the
client takes a line of text, and only an empty one means that the stream has ended.

Both take the same line each time (`receiveTimes_take`), and what they make of it is a function of
this line. So it is enough to compare them on one line: a whole line is the same message for both,
or none for both (`agrees_of_whole`). Only a line whose end is missing divides them.
-/

namespace Lockstep

open Source (linesOf lineAt lineAt_tail)
open Line (IsWhole IsCut Says)
open Client (Spells)

/-! ## The lines of bytes -/

/-- Only the last line can lack its end. -/
theorem Source.whole_or_cut {bytes line : Bytes} {k : Nat} (h : (linesOf bytes)[k]? = some line) :
    IsWhole line ∨ IsCut line ∧ k + 1 = (linesOf bytes).length := by
  induction k generalizing bytes with
  | zero =>
      cases hcut : cutLine bytes with
      | none =>
          rw [linesOf_of_not_mem (cutLine_eq_none.mp hcut)] at h ⊢
          by_cases hbytes : bytes = []
          · rw [if_pos hbytes] at h
            exact nomatch h
          · rw [if_neg hbytes] at h ⊢
            obtain rfl := Option.some.inj h
            exact .inr ⟨Line.isCut_of_not_mem (cutLine_eq_none.mp hcut), rfl⟩
      | some cut =>
          obtain ⟨body, hbody, hline, -⟩ := cutLine_eq_some hcut
          rw [linesOf_of_cutLine hcut] at h
          obtain rfl := Option.some.inj h
          exact .inl ⟨body, hbody, hline⟩
  | succ k ih =>
      cases hcut : cutLine bytes with
      | none =>
          rw [linesOf_of_not_mem (cutLine_eq_none.mp hcut)] at h
          by_cases hbytes : bytes = []
          · rw [if_pos hbytes] at h
            exact nomatch h
          · rw [if_neg hbytes] at h
            exact nomatch h
      | some cut =>
          rw [linesOf_of_cutLine hcut] at h ⊢
          refine (ih h).imp_right ?_
          intro hend
          exact ⟨hend.1, congrArg (· + 1) hend.2⟩

/-! ## One line after another -/

/-- Waiting for messages is waiting for one, again and again. -/
theorem Endpoint.receiveTimes_eq_times (e : Endpoint) (n : Nat) :
    e.receiveTimes n = Controller.times e.receiveMessage.run n := by
  induction n with
  | zero => rfl
  | succ n ih => rw [receiveTimes, Controller.times, ih]

/-- **The controller takes one line after another,** whatever becomes of the ones before. -/
theorem Endpoint.receiveTimes_take {η : Type} (host : Host η) {e : Endpoint}
    (he : e.hasPeer = true) (n : Nat) {w : World η} {lines : List Bytes}
    (hw : w.source.Supplies lines) :
    let o := (e.receiveTimes n).run (World.answer host) w
    o.value = (List.range n).map (fun k => hear (.ok (lineAt lines k))) ∧
      o.state.source.Supplies (lines.drop n) := by
  rw [receiveTimes_eq_times]
  exact Controller.times_take host (receiveMessage_run he) n hw

/-- **The client takes one line after another,** whatever becomes of the ones before. -/
theorem Client.receiveTimes_take (n : Nat) {w : World} {lines : List Bytes}
    (hw : w.source.Supplies lines) :
    let o := (receiveTimes n).run World.answer w
    o.value = (List.range n).map (fun k => readMessage (lineAt lines k)) ∧
      o.state.source.Supplies (lines.drop n) := by
  induction n generalizing w lines with
  | zero => exact ⟨rfl, hw⟩
  | succ n ih =>
      obtain ⟨hread, hleft⟩ := hw.readLine
      obtain ⟨hvalue, hstate⟩ := ih (w := { w with source := w.source.readLine.2 }) hleft
      refine ⟨?_, ?_⟩
      · rw [receiveTimes_succ_value, hvalue, hread]
        exact (Source.map_lineAt readMessage lines n).symm
      · rw [List.drop_tail] at hstate
        rw [receiveTimes, receive_run, Dialogue.ask_bind, Dialogue.run_ask, Dialogue.done_bind,
          Dialogue.run_bind]
        exact hstate

/-! ## One line -/

/-- A whole line says what it spells. -/
theorem says_iff_spells {line : Bytes} (h : IsWhole line) {m : Message} :
    Says line m ↔ Spells line m := by
  constructor
  · intro hsays
    obtain ⟨-, text, htext, hm⟩ := hsays
    exact ⟨text, congrArg Except.toOption htext, hm⟩
  · intro hspells
    obtain ⟨text, htext, hm⟩ := hspells
    refine ⟨h.getLast?, text, ?_, hm⟩
    rw [Utf8.decode?] at htext
    cases hdecode : Utf8.decode line with
    | error flaw =>
        rw [hdecode] at htext
        cases htext
    | ok text' =>
        rw [hdecode] at htext
        rw [Option.some.inj htext]

/-- A client that gets a line and no message finds that the line may not come. -/
theorem Client.readMessage_invalid {line : Bytes} (hline : line ≠ []) {failure : ClientError}
    (h : readMessage line = .error failure) : failure.kind = .invalidData := by
  cases htext : Utf8.decode? line with
  | none =>
      rw [readMessage_notText hline htext] at h
      obtain rfl := Except.error.inj h
      rfl
  | some text =>
      rw [readMessage_text hline htext] at h
      cases hdecode : Message.decode text with
      | ok m =>
          rw [hdecode] at h
          exact nomatch h
      | error cause =>
          rw [hdecode] at h
          obtain rfl := Except.error.inj h
          rfl

/-- What the controller and the client make of a line is the same message, or no message. -/
inductive Agrees : Except SessionError Message → Except ClientError Message → Prop
  | message (m : Message) : Agrees (.ok m) (.ok m)
  | malformed (shown reason : String) {failure : ClientError} : failure.kind = .invalidData →
      Agrees (.error (.malformed shown reason)) (.error failure)

/-- **A whole line is the same message for both, or for none.** -/
theorem agrees_of_whole {line : Bytes} (h : IsWhole line) :
    Agrees (hear (.ok line)) (Client.readMessage line) := by
  have hlast := h.getLast?
  have hline : line ≠ [] := by
    intro hnil
    rw [hnil] at hlast
    exact nomatch hlast
  rcases says_or_fails line with ⟨m, hm⟩ | ⟨failure, hf⟩
  · rw [hear_spoken hm, Client.readMessage_eq_ok_iff.mpr ((says_iff_spells h).mp hm)]
    exact .message m
  · -- a line that says nothing spells nothing either
    cases hread : Client.readMessage line with
    | ok m =>
        have hm := (says_iff_spells h).mpr (Client.readMessage_eq_ok_iff.mp hread)
        exact nomatch (hear_spoken hm).symm.trans (hear_fails hf)
    | error e =>
        have hkind := Client.readMessage_invalid hline hread
        rw [hear_fails hf]
        cases hf with
        | unfinished hcut => exact absurd hlast hcut
        | notText _ _ => exact .malformed _ _ hkind
        | noMessage _ _ _ => exact .malformed _ _ hkind

/-- A line without its end is no line for the controller, and may be a message for the client. -/
structure Parts (line : Bytes) (heard : Except SessionError Message)
    (read : Except ClientError Message) : Prop where
  controller : heard = .error .closed
  message : ∀ m, read = .ok m ↔ Spells line m
  failure : ∀ failure, read = .error failure → failure.kind = .invalidData

theorem parts_of_cut {line : Bytes} (h : IsCut line) (hline : line ≠ []) :
    Parts line (hear (.ok line)) (Client.readMessage line) where
  controller := hear_fails (.unfinished h)
  message := fun _ => Client.readMessage_eq_ok_iff
  failure := fun _ => Client.readMessage_invalid hline

/-! ## The law -/

/--
**Controller and client read the same messages from the same bytes.** The same bytes arrive at both,
in any pieces, and then nothing more, and each waits for a message again and again, also after those
that failed. Each of them takes the next line every time and nothing else. A line that is whole is
the same message for both, or the controller finds it malformed and the client invalid. If the last
line lacks its end, the controller finds the connection closed, and the client finds the message
that the text of the line spells, or else that it is invalid. From then on both find the connection
closed.
-/
theorem reads_agree {η : Type} (host : Host η) {e : Endpoint} (he : e.hasPeer = true)
    {w : World η} {v : Client.World} {input : Bytes} (hw : w.source.Brings input)
    (hv : v.source.Brings input) (n : Nat) :
    let lines := linesOf input
    let controller := (e.receiveTimes n).run (World.answer host) w
    let client := (Client.receiveTimes n).run Client.World.answer v
    controller.state.source.Brings (lines.drop n).flatten ∧
      client.state.source.Brings (lines.drop n).flatten ∧
      ∀ k < n, ∃ heard read, controller.value[k]? = some heard ∧ client.value[k]? = some read ∧
        (∀ line, lines[k]? = some line →
          IsWhole line ∧ Agrees heard read ∨
            IsCut line ∧ k + 1 = lines.length ∧ Parts line heard read) ∧
        (lines[k]? = none → heard = .error .closed ∧
          ∃ failure, read = .error failure ∧ failure.kind = .unexpectedEof) := by
  intro lines controller client
  obtain ⟨hheard, hcontroller⟩ := Endpoint.receiveTimes_take host he n hw.supplies
  obtain ⟨hread, hclient⟩ := Client.receiveTimes_take n hv.supplies
  refine ⟨hcontroller.brings, hclient.brings, ?_⟩
  intro k hk
  refine ⟨hear (.ok (lineAt lines k)), Client.readMessage (lineAt lines k), ?_, ?_, ?_, ?_⟩
  · rw [show controller.value = _ from hheard, List.getElem?_map, List.getElem?_range hk]
    rfl
  · rw [show client.value = _ from hread, List.getElem?_map, List.getElem?_range hk]
    rfl
  · intro line hline
    have hat : lineAt lines k = line := by
      rw [lineAt, List.getD_eq_getElem?_getD, hline]
      rfl
    rw [hat]
    refine (Source.whole_or_cut hline).imp ?_ ?_
    · intro hwhole
      exact ⟨hwhole, agrees_of_whole hwhole⟩
    · intro hend
      obtain ⟨hcut, hlast⟩ := hend
      have hne := Lines.ne_nil_of_mem_splitAfter (List.mem_of_getElem? hline)
      exact ⟨hcut, hlast, parts_of_cut hcut hne⟩
  · intro hnone
    have hat : lineAt lines k = [] := by
      rw [lineAt, List.getD_eq_getElem?_getD, hnone]
      rfl
    rw [hat]
    exact ⟨rfl, .closed, rfl, rfl⟩

/-- A line that is no text, a break, and the end of a session without its line feed. -/
theorem reads_agree_last_line_cut :
    let host : Host Unit :=
      ⟨fun _ => .ok, fun _ _ => .ok [], fun _ _ => (.ok ⟨[], [], .exited 0⟩, ())⟩
    let input : Bytes := [255, 10] ++ (Message.breakAt 3).bytes ++ Message.finish.body
    let w : World Unit := ⟨.ofBytes input, .willing, .willing, .ok (), ()⟩
    let v : Client.World := ⟨.ofBytes input, .willing, []⟩
    let controller := (Endpoint.stream.receiveTimes 4).run (World.answer host) w
    let client := (Client.receiveTimes 4).run Client.World.answer v
    (∃ heard read, controller.value[0]? = some heard ∧ client.value[0]? = some read ∧
        Agrees heard read) ∧
      controller.value[2]? = some (.error .closed) ∧ client.value[2]? = some (.ok .finish) ∧
      controller.value[3]? = some (.error .closed) ∧ client.state.source.Brings [] := by
  intro host input w v controller client
  have hlines : linesOf input = [[255, 10], (Message.breakAt 3).bytes, Message.finish.body] := by
    decide +kernel
  obtain ⟨-, hleft, hall⟩ := reads_agree host (e := .stream) rfl (w := w) (v := v)
    (Source.brings_ofBytes input) (Source.brings_ofBytes input) 4
  rw [hlines] at hleft
  obtain ⟨first, first', hheard, hread, hline, -⟩ := hall 0 (by decide)
  obtain ⟨third, third', hheard', hread', hline', -⟩ := hall 2 (by decide)
  obtain ⟨fourth, fourth', hheard'', -, -, hended⟩ := hall 3 (by decide)
  rw [hlines] at hline hline' hended
  refine ⟨⟨first, first', hheard, hread, ?_⟩, ?_, ?_, ?_, hleft⟩
  · rcases hline _ rfl with ⟨-, hagrees⟩ | ⟨hcut, -⟩
    · exact hagrees
    · exact absurd rfl hcut
  · rcases hline' _ rfl with ⟨hwhole, -⟩ | ⟨-, -, hparts⟩
    · exact absurd hwhole.getLast? (by decide)
    · rw [hheard', hparts.controller]
  · rcases hline' _ rfl with ⟨hwhole, -⟩ | ⟨-, -, hparts⟩
    · exact absurd hwhole.getLast? (by decide)
    · rw [hread', (hparts.message .finish).mpr]
      exact Client.readMessage_eq_ok_iff.mp (Client.readMessage_body .finish)
  · rw [hheard'', (hended rfl).1]

end Lockstep
