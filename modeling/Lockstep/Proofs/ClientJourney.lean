import Lockstep.Client.World
import Lockstep.Proofs.ClientShape
import Lockstep.Proofs.Delivery
import Lockstep.Proofs.Framing
import Lockstep.Proofs.TextLines

/-!
# How far a client gets

A client that goes through a target reads one line after another and lets the target go on from each
break. Its controller may send anything before it closes the connection, and what it sends is a row
of lines. `Travels` takes from this row the breaks that it begins with, each with its answer, and
`Arrives` says what becomes of the client at what is left.

The induction is on the lines. A line is read, and if it is a break then it is answered before the
next one is read; at anything else the client is done, and says nothing more.
-/

namespace Lockstep

open Source (linesOf lineAt)

/-! ## Errors -/

/-- The kind of an error of a connection. -/
inductive ErrorKind where
  /-- The other end went away. -/
  | unexpectedEof
  /-- Something arrived that may not come. -/
  | invalidData
  /-- The connection failed, or there is no user. -/
  | other
  deriving Repr, DecidableEq

/-- The kind of a client's error. -/
def ClientError.kind : ClientError → ErrorKind
  | .closed => .unexpectedEof
  | .notText | .malformed _ | .unexpected _ _ => .invalidData
  | .unattended _ | .io _ => .other

namespace Client

/-! ## Lines -/

/-- The line is the text of this message, also if it lacks its line feed. -/
def Spells (line : Bytes) (m : Message) : Prop :=
  ∃ text, Utf8.decode? line = some text ∧ Message.decode text = .ok m

variable {line : Bytes} {lines rest : List Bytes} {m : Message} {bs : List UInt32}
  {t : List Exchange} {result : Except ClientError Unit}

theorem readMessage_notText (h : line ≠ []) (htext : Utf8.decode? line = none) :
    readMessage line = .error .notText := by
  have hne : ¬ line.isEmpty = true := by simpa using h
  rw [readMessage, if_neg hne, htext]

theorem readMessage_text (h : line ≠ []) {text : List Char} (htext : Utf8.decode? line = some text) :
    readMessage line = (Message.decode text).mapError .malformed := by
  have hne : ¬ line.isEmpty = true := by simpa using h
  rw [readMessage, if_neg hne, htext]
  dsimp only
  cases Message.decode text <;> rfl

/-- Nothing is no message. -/
theorem Spells.ne_nil (h : Spells line m) : line ≠ [] := by
  obtain ⟨text, htext, hdecode⟩ := h
  intro hline
  rw [hline] at htext
  obtain rfl := Option.some.inj htext
  exact nomatch hdecode

theorem readMessage_eq_ok_iff : readMessage line = .ok m ↔ Spells line m := by
  constructor
  · intro h
    by_cases hline : line = []
    · rw [hline] at h
      exact nomatch h
    · cases htext : Utf8.decode? line with
      | none =>
          rw [readMessage_notText hline htext] at h
          exact nomatch h
      | some text =>
          rw [readMessage_text hline htext] at h
          cases hdecode : Message.decode text with
          | error failure =>
              rw [hdecode] at h
              exact nomatch h
          | ok m' =>
              rw [hdecode] at h
              obtain rfl := Except.ok.inj h
              exact ⟨text, htext, hdecode⟩
  · intro h
    have hline := h.ne_nil
    obtain ⟨text, htext, hdecode⟩ := h
    rw [readMessage_text hline htext, hdecode]
    rfl

theorem Spells.unique {m' : Message} (h : Spells line m) (h' : Spells line m') : m = m' := by
  rw [← readMessage_eq_ok_iff] at h h'
  exact Except.ok.inj (h.symm.trans h')

theorem spells_bytes (m : Message) : Spells m.bytes m :=
  readMessage_eq_ok_iff.mp m.readMessage_bytes

/-! ## Journeys -/

/-- The breaks that the lines begin with, each of which is read and then answered. -/
inductive Travels : List Bytes → List UInt32 → List Exchange → List Bytes → Prop
  | stay {lines : List Bytes} :
      (∀ line later b, lines = line :: later → ¬ Spells line (.breakAt b)) →
      Travels lines [] [] lines
  | pass {line : Bytes} {b : UInt32} {d : Delivery} {lines rest : List Bytes} {bs : List UInt32}
      {t : List Exchange} :
      Spells line (.breakAt b) → d.outcome = .ok () →
      d.accepted.flatten = Message.resume.bytes → Travels lines bs t rest →
      Travels (line :: lines) (b :: bs) (⟨.receive, .ok line⟩ :: ⟨.send .resume, d⟩ :: t) rest

/-- What becomes of a client where the next line is no break. -/
inductive Arrives : List Bytes → Except ClientError Unit → Prop
  | finished {line : Bytes} {later : List Bytes} :
      Spells line .finish → Arrives (line :: later) (.ok ())
  | ended : Arrives [] (.error .closed)
  | notText {line : Bytes} {later : List Bytes} :
      Utf8.decode? line = none → Arrives (line :: later) (.error .notText)
  | malformed {line : Bytes} {later : List Bytes} {text : List Char} {failure : SessionError} :
      Utf8.decode? line = some text → Message.decode text = .error failure →
      Arrives (line :: later) (.error (.malformed failure))
  | unexpected {line : Bytes} {later : List Bytes} {m : Message} :
      Spells line m → (∀ b, m ≠ .breakAt b) → m ≠ .finish →
      Arrives (line :: later) (.error (.unexpected "break or finish" m.kind))

/-- A client is answered for each break, and says nothing else. -/
theorem Travels.sent (h : Travels lines bs t rest) :
    sent t = (List.replicate bs.length Message.resume.bytes).flatten := by
  induction h with
  | stay _ => rfl
  | pass _ _ haccepted _ ih =>
      rw [List.length_cons, List.replicate_succ, List.flatten_cons, ← ih, ← haccepted]
      rfl

/-- The breaks are those that the lines begin with, and there is no further one. -/
theorem Travels.breaks (h : Travels lines bs t rest) :
    rest = lines.drop bs.length ∧
      (∀ k b, bs[k]? = some b → Spells (lineAt lines k) (.breakAt b)) ∧
      ∀ b, ¬ Spells (lineAt rest 0) (.breakAt b) := by
  induction h with
  | @stay lines hno =>
      refine ⟨rfl, ?_, ?_⟩
      · intro k b hk
        exact nomatch hk
      · intro b hb
        cases lines with
        | nil => exact absurd rfl hb.ne_nil
        | cons line later => exact hno line later b rfl hb
  | pass hline _ _ _ ih =>
      obtain ⟨hrest, hbreaks, hno⟩ := ih
      refine ⟨hrest, ?_, hno⟩
      intro k b hk
      cases k with
      | zero =>
          obtain rfl := Option.some.inj hk
          exact hline
      | succ k => exact hbreaks k b hk

theorem Arrives.ok_iff (h : Arrives rest result) :
    result = .ok () ↔ Spells (lineAt rest 0) .finish := by
  constructor
  · intro hok
    cases h with
    | finished hline => exact hline
    | _ => exact nomatch hok
  · intro hline
    cases h with
    | finished _ => rfl
    | ended => exact absurd rfl hline.ne_nil
    | notText htext =>
        obtain ⟨text, hsome, -⟩ := hline
        exact nomatch htext.symm.trans hsome
    | malformed htext hdecode =>
        obtain ⟨text, hsome, hok⟩ := hline
        obtain rfl := Option.some.inj (htext.symm.trans hsome)
        exact nomatch hdecode.symm.trans hok
    | unexpected hother _ hnot => exact absurd (hother.unique hline) hnot

theorem Arrives.kind (h : Arrives rest result) {e : ClientError} (he : result = .error e) :
    e.kind = if rest = [] then .unexpectedEof else .invalidData := by
  cases h with
  | finished _ => exact nomatch he
  | _ =>
      obtain rfl := Except.error.inj he
      rfl

/-- What a client makes of a line that is no break. -/
def arrival (line : Bytes) : Except ClientError Unit :=
  match readMessage line with
  | .ok .finish => .ok ()
  | .ok other => .error (.unexpected "break or finish" other.kind)
  | .error e => .error e

theorem arrives_arrival {line : Bytes} (later : List Bytes) (hline : line ≠ [])
    (hno : ∀ b, ¬ Spells line (.breakAt b)) : Arrives (line :: later) (arrival line) := by
  rw [arrival]
  cases htext : Utf8.decode? line with
  | none =>
      rw [readMessage_notText hline htext]
      exact .notText htext
  | some text =>
      cases hdecode : Message.decode text with
      | error failure =>
          rw [readMessage_text hline htext, hdecode]
          exact .malformed htext hdecode
      | ok m =>
          have hspells : Spells line m := ⟨text, htext, hdecode⟩
          rw [readMessage_eq_ok_iff.mpr hspells]
          cases m with
          | finish => exact .finished hspells
          | breakAt b => exact absurd hspells (hno b)
          | _ => exact .unexpected hspells (fun _ h => nomatch h) (fun h => nomatch h)

/-! ## One line -/

section Step

variable (bound : Nat) {w : World}

/-- A line that is no break is the last one that is read. -/
theorem runToFinish_stop (hreply : (World.answer .receive w).1 = .ok line)
    (hno : ∀ b, ¬ Spells line (.breakAt b)) :
    let o := (runToFinish (bound + 1)).run.run World.answer w
    o.trace = [⟨.receive, .ok line⟩] ∧ o.value = (arrival line).map fun _ => ⟨[], true⟩ := by
  dsimp only
  rw [runToFinish_run, Dialogue.run_ask, hreply, arrival, hearing]
  cases hmessage : readMessage line with
  | error e => exact ⟨rfl, rfl⟩
  | ok m =>
      cases m with
      | breakAt b => exact absurd (readMessage_eq_ok_iff.mp hmessage) (hno b)
      | _ => exact ⟨rfl, rfl⟩

/-- Going on from a break adds its line to the journey, and nothing else. -/
theorem arrive_run (b : UInt32) (d : Talk (Except ClientError Journey)) (w : World) :
    (d >>= arrive b).run World.answer w =
      let o := d.run World.answer w
      ⟨o.value.map fun journey => { journey with lines := b :: journey.lines }, o.trace,
        o.state⟩ := by
  rw [Dialogue.run_bind]
  dsimp only
  cases (d.run World.answer w).value with
  | error e => simp [arrive, Dialogue.run, Except.map]
  | ok journey => simp [arrive, Dialogue.run, Except.map]

/-- A break is answered, and then the client goes on. -/
theorem runToFinish_pass (hreply : (World.answer .receive w).1 = .ok line) {b : UInt32}
    (hbreak : Spells line (.breakAt b)) (hsink : w.sink.receiver.Obliging) :
    let r := w.sink.deliver [Message.resume.bytes]
    let later := (runToFinish bound).run.run World.answer
      { w with source := w.source.readLine.2, sink := r.2 }
    let o := (runToFinish (bound + 1)).run.run World.answer w
    o.trace = ⟨.receive, .ok line⟩ :: ⟨.send .resume, r.1⟩ :: later.trace ∧
      o.value = later.value.map fun journey => { journey with lines := b :: journey.lines } := by
  intro r later o
  have houtcome : r.1.outcome = .ok () := (Sink.deliver_obliging hsink _).outcome
  have hsend : World.answer (.send .resume) (World.answer .receive w).2 =
      (r.1, { w with source := w.source.readLine.2, sink := r.2 }) := rfl
  have hhear : hearing (.ok line) = .ok (.breakAt b) := readMessage_eq_ok_iff.mpr hbreak
  have hrun : o = ⟨later.value.map fun journey => { journey with lines := b :: journey.lines },
      ⟨.receive, .ok line⟩ :: ⟨.send .resume, r.1⟩ :: later.trace, later.state⟩ := by
    show (runToFinish (bound + 1)).run.run World.answer w = _
    rw [runToFinish_run, Dialogue.run_ask, hreply, hhear]
    dsimp only
    rw [Dialogue.run_ask, hsend]
    dsimp only
    rw [houtcome]
    dsimp only
    rw [arrive_run]
  rw [hrun]
  exact ⟨rfl, rfl⟩

end Step

/-! ## The law -/

/-- **A client travels as far as the breaks go,** and arrives where they end. -/
theorem runToFinish_travels {bound : Nat} {w : World} (hsink : w.sink.receiver.Obliging)
    (hw : w.source.Supplies lines) (hbound : lines.length < bound) :
    let o := (runToFinish bound).run.run World.answer w
    ∃ bs answers rest result, Travels lines bs answers rest ∧ Arrives rest result ∧
      o.trace = answers ++ [⟨.receive, .ok (lineAt rest 0)⟩] ∧
      o.value = result.map fun _ => ⟨bs, true⟩ := by
  induction bound generalizing w lines with
  | zero => exact absurd hbound (Nat.not_lt_zero _)
  | succ bound ih =>
      obtain ⟨hread, hleft⟩ := hw.readLine
      have hreply : (World.answer .receive w).1 = .ok (lineAt lines 0) := hread
      cases lines with
      | nil =>
          -- the stream has ended, and an empty line is read
          have hno : ∀ b, ¬ Spells [] (.breakAt b) := fun b hb => hb.ne_nil rfl
          obtain ⟨htrace, hvalue⟩ := runToFinish_stop bound hreply hno
          refine ⟨[], [], [], .error .closed, .stay ?_, .ended, htrace, hvalue⟩
          intro line later b h
          exact nomatch h
      | cons line later =>
          have hline : line ≠ [] := by
            obtain ⟨bytes, -, hlines⟩ := hw
            exact Lines.ne_nil_of_mem_splitAfter (hlines ▸ List.mem_cons_self)
          by_cases hbreak : ∃ b, Spells line (.breakAt b)
          · obtain ⟨b, hb⟩ := hbreak
            obtain ⟨htrace, hvalue⟩ := runToFinish_pass bound hreply hb hsink
            obtain ⟨houtcome, haccepted, hreceiver⟩ :=
              Sink.deliver_obliging hsink [Message.resume.bytes]
            rw [List.flatten_singleton] at haccepted
            -- the other lines are left, and the end that takes the answers is the one it was
            obtain ⟨bs, answers, rest, result, htravels, harrives, hlater, hjourney⟩ :=
              ih (w := { w with
                  source := w.source.readLine.2,
                  sink := (w.sink.deliver [Message.resume.bytes]).2 })
                (by rw [hreceiver]; exact hsink) hleft
                (Nat.lt_of_succ_lt_succ hbound)
            refine ⟨b :: bs, _, rest, result, .pass hb houtcome haccepted htravels, harrives,
              ?_, ?_⟩
            · rw [htrace, hlater]
              rfl
            · rw [hvalue, hjourney]
              cases result <;> rfl
          · have hno : ∀ b, ¬ Spells line (.breakAt b) := fun b hb => hbreak ⟨b, hb⟩
            obtain ⟨htrace, hvalue⟩ := runToFinish_stop bound hreply hno
            refine ⟨[], [], line :: later, _, .stay ?_, arrives_arrival later hline hno, htrace,
              hvalue⟩
            intro line' later' b h
            obtain ⟨rfl, -⟩ := List.cons.inj h
            exact hno b

/--
**The exact journey of a client.** Its controller sends any bytes and then closes the connection,
and takes what the client writes. The client reads the breaks that the lines begin with, and answers
each of them before it reads on; then it reads one more line, or finds that there is none, and is
done. It succeeds exactly if this line says that the target has finished, and then its journey is
these breaks. Otherwise its error is that of a stream that has ended, if no line is left, and that
of something that may not come, if one is: it is no text, no message, or another message.
-/
theorem runToFinish_exact {bound : Nat} {w : World} {input : Bytes}
    (hsink : w.sink.receiver.Obliging) (hinput : w.source.Brings input)
    (hbound : (linesOf input).length < bound) :
    let lines := linesOf input
    let o := (runToFinish bound).run.run World.answer w
    ∃ bs answers rest result, Travels lines bs answers rest ∧ Arrives rest result ∧
      o.trace = answers ++ [⟨.receive, .ok (lineAt rest 0)⟩] ∧
      o.value = result.map (fun _ => ⟨bs, true⟩) ∧
      rest = lines.drop bs.length ∧
      (∀ k b, bs[k]? = some b → Spells (lineAt lines k) (.breakAt b)) ∧
      (∀ b, ¬ Spells (lineAt rest 0) (.breakAt b)) ∧
      sent o.trace = (List.replicate bs.length Message.resume.bytes).flatten ∧
      (∀ journey, o.value = .ok journey ↔
        journey = ⟨bs, true⟩ ∧ Spells (lineAt rest 0) .finish) ∧
      ∀ e, o.value = .error e →
        e.kind = if rest = [] then .unexpectedEof else .invalidData := by
  intro lines o
  obtain ⟨bs, answers, rest, result, htravels, harrives, htrace, hvalue⟩ :=
    runToFinish_travels hsink hinput.supplies hbound
  obtain ⟨hrest, hbreaks, hno⟩ := htravels.breaks
  refine ⟨bs, answers, rest, result, htravels, harrives, htrace, hvalue, hrest, hbreaks, hno,
    ?_, ?_, ?_⟩
  · have hsent : sent o.trace = sent answers ++ [] := by
      rw [show o.trace = _ from htrace]
      exact List.flatMap_append
    rw [hsent, List.append_nil, htravels.sent]
  · intro journey
    rw [show o.value = _ from hvalue, ← harrives.ok_iff]
    cases result with
    | ok u =>
        constructor
        · intro h
          exact ⟨(Except.ok.inj h).symm, rfl⟩
        · intro h
          rw [h.1]
          rfl
    | error e =>
        constructor
        · intro h
          exact nomatch h
        · intro h
          exact nomatch h.2
  · intro e he
    rw [show o.value = _ from hvalue] at he
    cases result with
    | ok u => exact nomatch he
    | error e' => exact harrives.kind (congrArg _ (Except.error.inj he))

/-- After two breaks comes a message that a controller never sends. -/
theorem runToFinish_exact_third_line :
    let input := [Message.breakAt 3, .breakAt 5, .clientInit].flatMap Message.bytes
    let w : World := ⟨Source.ofBytes input, .willing, []⟩
    let o := (runToFinish 4).run.run World.answer w
    (∃ e, o.value = .error e ∧ e.kind = .invalidData) ∧
      sent o.trace = Message.resume.bytes ++ Message.resume.bytes := by
  intro input w o
  have hlines : linesOf input = [Message.breakAt 3, .breakAt 5, .clientInit].map Message.bytes :=
    Message.linesOf_bytes _
  obtain ⟨bs, answers, rest, result, htravels, -, -, -, -, -, -, hsent, hok, herror⟩ :=
    runToFinish_exact (w := w) Receiver.willing_obliging (Source.brings_ofBytes input)
      (by rw [hlines]; decide : (linesOf input).length < 4)
  obtain ⟨hlength, hrest⟩ : bs.length = 2 ∧ rest = [Message.clientInit.bytes] := by
    rw [hlines] at htravels
    cases htravels with
    | stay hno => exact absurd (spells_bytes _) (hno _ _ 3 rfl)
    | pass _ _ _ hsecond =>
        cases hsecond with
        | stay hno => exact absurd (spells_bytes _) (hno _ _ 5 rfl)
        | pass _ _ _ hthird =>
            cases hthird with
            | stay _ => exact ⟨rfl, rfl⟩
            | pass hbreak _ _ _ => exact nomatch (spells_bytes .clientInit).unique hbreak
  rw [hlength] at hsent
  rw [hrest] at hok herror
  refine ⟨?_, by simpa using hsent⟩
  cases hvalue : o.value with
  | ok journey =>
      have hfinish := ((hok journey).mp hvalue).2
      exact nomatch (spells_bytes .clientInit).unique hfinish
  | error e => exact ⟨e, rfl, herror e hvalue⟩

end Client

end Lockstep
