import Lockstep.Proofs.Operations
import Lockstep.Proofs.Utf8
import Mathlib.Data.List.Forall2

/-!
# Lines as they are received

Bytes come to the controller in pieces that end anywhere, in the middle of a character too, and
reads are interrupted between them. What it receives is decided by the bytes alone. They are whole
lines and a tail without a line feed (`Source.Framed`), and the controller receives the lines one
after another: each is its text, or it is malformed. After that it finds the connection closed,
whether a tail was left or not.

A reader takes the next line off the bytes whatever the pieces are, which is `Supplies.readLine`, so
one induction on the number of calls is enough (`times_take`).
-/

namespace Lockstep

open Line (IsWhole IsCut isCut_of_not_mem)

/-! ## Lines and a tail -/

namespace Source

/-- What a reader makes of the first line comes first, and then what it makes of the others. -/
theorem map_lineAt {α : Type} (f : Bytes → α) (lines : List Bytes) (n : Nat) :
    (List.range (n + 1)).map (fun k => f (lineAt lines k)) =
      f (lineAt lines 0) :: (List.range n).map fun k => f (lineAt lines.tail k) := by
  rw [List.range_succ_eq_map, List.map_cons, List.map_map]
  refine congrArg _ (List.map_congr_left ?_)
  intro k _
  rw [lineAt_tail]
  rfl

/-- The bytes are these whole lines, and after them a tail without a line feed. -/
structure Framed (bytes : Bytes) (lines : List Bytes) (tail : Bytes) : Prop where
  whole : ∀ line ∈ lines, IsWhole line
  unended : lineFeed ∉ tail
  joined : bytes = lines.flatten ++ tail

/-- All bytes are divided so. -/
theorem exists_framed (bytes : Bytes) : ∃ lines tail, Framed bytes lines tail := by
  induction hn : bytes.length using Nat.strongRecOn generalizing bytes with
  | ind n ih =>
      subst hn
      cases hcut : cutLine bytes with
      | none => exact ⟨[], bytes, List.forall_mem_nil _, cutLine_eq_none.mp hcut, rfl⟩
      | some cut =>
          obtain ⟨line, left⟩ := cut
          obtain ⟨body, hbody, hline, rfl⟩ := cutLine_eq_some hcut
          -- a whole line has a line feed, so what is left is shorter
          have hshorter : left.length < (line ++ left).length := by
            rw [hline, List.length_append, List.length_append, List.length_singleton]
            omega
          obtain ⟨lines, tail, hlines, htail, hjoined⟩ := ih left.length hshorter left rfl
          refine ⟨line :: lines, tail, ?_, htail, ?_⟩
          · exact List.forall_mem_cons.mpr ⟨⟨body, hbody, hline⟩, hlines⟩
          · rw [hjoined, List.flatten_cons, List.append_assoc]

variable {bytes tail : Bytes} {lines : List Bytes}

/-- A tail is a last line, unless it is empty. -/
theorem Framed.linesOf_eq (h : Framed bytes lines tail) :
    linesOf bytes = lines ++ if tail = [] then [] else [tail] := by
  rw [h.joined, linesOf_of_whole h.whole, linesOf_of_not_mem h.unended]

/-- **What is left after some lines** are the lines after them and the tail, and nothing at all if
the tail was tried as well. -/
theorem Framed.drop (h : Framed bytes lines tail) (n : Nat) :
    (n ≤ lines.length → ((linesOf bytes).drop n).flatten = (lines.drop n).flatten ++ tail) ∧
      (lines.length < n → ((linesOf bytes).drop n).flatten = []) := by
  have htail : (if tail = [] then [] else [tail]).flatten = tail := by
    by_cases hnil : tail = [] <;> simp [hnil]
  have hlength : (if tail = [] then ([] : List Bytes) else [tail]).length ≤ 1 := by
    by_cases hnil : tail = [] <;> simp [hnil]
  rw [h.linesOf_eq]
  refine ⟨?_, ?_⟩
  · intro hn
    rw [List.drop_append_of_le_length hn, List.flatten_append, htail]
  · intro hn
    rw [List.drop_eq_nil_of_le]
    · rfl
    · rw [List.length_append]
      omega

/-- Each line is received in its turn. -/
theorem Framed.lineAt_of_lt (h : Framed bytes lines tail) {k : Nat} (hk : k < lines.length) :
    lineAt (linesOf bytes) k = lines[k] := by
  rw [lineAt, List.getD_eq_getElem?_getD, h.linesOf_eq, List.getElem?_append_left hk,
    List.getElem?_eq_getElem hk, Option.getD_some]

/-- After the lines comes nothing that is whole. -/
theorem Framed.lineAt_isCut (h : Framed bytes lines tail) {k : Nat} (hk : lines.length ≤ k) :
    IsCut (lineAt (linesOf bytes) k) := by
  obtain ⟨j, rfl⟩ := Nat.exists_eq_add_of_le hk
  rw [lineAt, List.getD_eq_getElem?_getD, h.linesOf_eq, List.getElem?_append_right hk,
    Nat.add_sub_cancel_left]
  refine isCut_of_not_mem ?_
  by_cases htail : tail = []
  · rw [if_pos htail]
    exact List.not_mem_nil
  · rw [if_neg htail]
    cases j with
    | zero => exact h.unended
    | succ j => exact List.not_mem_nil

end Source

namespace Line

/-- What a whole line is received as: the text that it is written by, if there is one. -/
inductive Reads (line : Bytes) : Except SessionError (List Char) → Prop
  | text {text : List Char} : Utf8.encode text = line → Reads line (.ok text)
  | malformed {shown reason : String} : (¬ ∃ text, Utf8.encode text = line) →
      Reads line (.error (.malformed shown reason))

/-- **A whole line is its text, or it is malformed.** -/
theorem IsWhole.reads {line : Bytes} (h : IsWhole line) : Reads line (ofBytes line) := by
  rw [ofBytes, if_pos h.getLast?]
  cases hdecode : Utf8.decode line with
  | ok text => exact .text (Utf8.decode_eq_ok_iff.mp hdecode)
  | error flaw =>
      refine .malformed ?_
      intro ⟨text, htext⟩
      rw [Utf8.decode_eq_ok_iff.mpr htext] at hdecode
      exact nomatch hdecode

/-- A line that is not whole is taken for the end of the connection. -/
theorem IsCut.ofBytes_eq {line : Bytes} (h : IsCut line) : ofBytes line = .error .closed := if_neg h

end Line

/-! ## Again and again -/

open Source (Framed linesOf lineAt)

namespace Controller

variable {η α : Type}

/-- The same again and again, whatever became of it before. -/
def times (d : Talk α) : Nat → Talk (List α)
  | 0 => pure []
  | n + 1 => do
    let first ← d
    let rest ← times d n
    pure (first :: rest)

/-- **A dialogue that waits for one line takes one line after another.** -/
theorem times_take (host : Host η) {f : Except SystemError Bytes → α} {d : Talk α}
    (hd : d = .ask .receive fun reply => .done (f reply)) (n : Nat) {w : World η}
    {lines : List Bytes} (hw : w.source.Supplies lines) :
    let o := (times d n).run (World.answer host) w
    o.value = (List.range n).map (fun k => f (.ok (lineAt lines k))) ∧
      o.state.source.Supplies (lines.drop n) := by
  subst hd
  -- a call leaves a source of the lines after the first, so the source varies
  induction n generalizing w lines with
  | zero => exact ⟨rfl, hw⟩
  | succ n ih =>
      obtain ⟨hread, hleft⟩ := hw.readLine
      obtain ⟨hvalue, hstate⟩ := ih (w := { w with source := w.source.readLine.2 }) hleft
      rw [times, Dialogue.ask_bind, Dialogue.run_ask, Dialogue.done_bind, Dialogue.run_bind]
      refine ⟨?_, ?_⟩
      · refine Eq.trans (congrArg₂ List.cons (congrArg f hread) hvalue) ?_
        exact (Source.map_lineAt (fun line => f (.ok line)) lines n).symm
      · rw [List.drop_tail] at hstate
        exact hstate

end Controller

/-! ## The law -/

variable {η : Type}

open Controller (times times_take)

/--
**What is received does not depend on how the bytes come.** Any bytes are whole lines and a tail
without a line feed, and nothing else. In whatever pieces they arrive, and however often a read is
interrupted, the controller receives the same: for each line in its order the text that the line is
written by, or that the line is malformed if it is no text; and after that, however often it tries,
that the connection is closed, whether there is a tail or not. What has not been received yet is the
lines that follow and the tail, until the tail has been tried.
-/
theorem Endpoint.lines_received (host : Host η) {e : Endpoint} (he : e.hasPeer = true)
    (input : Bytes) :
    ∃ lines tail results, Framed input lines tail ∧ List.Forall₂ Line.Reads lines results ∧
      ∀ w : World η, w.source.Brings input → ∀ n,
        let o := (times e.receive.run n).run (World.answer host) w
        o.value = (List.range n).map (fun k => results.getD k (.error .closed)) ∧
          (n ≤ lines.length → o.state.source.Brings ((lines.drop n).flatten ++ tail)) ∧
          (lines.length < n → o.state.source.Brings []) := by
  obtain ⟨lines, tail, hframed⟩ := Source.exists_framed input
  refine ⟨lines, tail, lines.map Line.ofBytes, hframed, ?_, ?_⟩
  · rw [List.forall₂_map_right_iff, List.forall₂_same]
    intro line hline
    exact (hframed.whole line hline).reads
  · intro w hw n
    obtain ⟨hvalue, hstate⟩ := times_take host (receive_run he) n hw.supplies
    have hleft := hstate.brings
    refine ⟨hvalue.trans (List.map_congr_left ?_), ?_, ?_⟩
    · -- what is no whole line is the end of the connection, a tail as well as nothing
      intro k _
      show Line.ofBytes (lineAt (linesOf input) k) = _
      rw [List.getD_eq_getElem?_getD, List.getElem?_map]
      by_cases hk : k < lines.length
      · rw [hframed.lineAt_of_lt hk, List.getElem?_eq_getElem hk]
        rfl
      · rw [List.getElem?_eq_none (Nat.le_of_not_lt hk),
          (hframed.lineAt_isCut (Nat.le_of_not_lt hk)).ofBytes_eq]
        rfl
    · intro hn
      rw [(hframed.drop n).1 hn] at hleft
      exact hleft
    · intro hn
      rw [(hframed.drop n).2 hn] at hleft
      exact hleft

/-- A letter whose bytes come apart, a line that is no text, and a letter without a line feed. -/
theorem Endpoint.lines_received_in_pieces :
    let host : Host Unit :=
      ⟨fun _ => .ok, fun _ _ => .ok [], fun _ _ => (.ok ⟨[], [], .exited 0⟩, ())⟩
    let input : Bytes := [0xC3, 0xA9, 10, 0xFF, 10, 97]
    let pieces : Source :=
      [.bytes [0xC3], .interrupted, .bytes [0xA9, 10, 0xFF], .interrupted, .bytes [10, 97]]
    let received (source : Source) :=
      ((times Endpoint.stream.receive.run 4).run (World.answer host)
        ⟨source, .willing, .willing, .ok (), ()⟩).value
    received pieces = received (.ofBytes input) ∧
      received pieces =
        [.ok ['é', '\n'],
          .error (.malformed "\uFFFD" "invalid utf-8 sequence of 1 bytes from index 0"),
          .error .closed, .error .closed] := by
  intro host input pieces received
  have hpieces : pieces.Brings input :=
    .bytes [0xC3] (.interrupted (.bytes [0xA9, 10, 0xFF] (.interrupted (.bytes [10, 97] .done))))
  obtain ⟨_, _, _, -, -, hreceived⟩ :=
    lines_received host (e := .stream) rfl input
  have hapart := (hreceived ⟨pieces, .willing, .willing, .ok (), ()⟩ hpieces 4).1
  have hwhole :=
    (hreceived ⟨.ofBytes input, .willing, .willing, .ok (), ()⟩ (Source.brings_ofBytes input) 4).1
  exact ⟨hapart.trans hwhole.symm, rfl⟩

end Lockstep
