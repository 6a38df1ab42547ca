import Lockstep.Proofs.ClientJourney
import Lockstep.Proofs.Delegation
import Lockstep.Proofs.TextLines
import Lockstep.Proofs.Utf8

/-!
# A client that a user attends

A client can go through a target by itself, or before the eyes of a user. These are two programs
over the same messages, and they do the same: the one that is watched shows each break and the end
where they are received (`present_auto_run`), and adds nothing else.

A user who goes on from each break with a line adds only the waiting for this line. The lines that
are typed are given beforehand, and they may run out at any break. Up to this break the run is the
one without a user (`present_keeps`), and there it stops: the break is shown and not answered. Both
inductions go along the events; the user's has one line for each break that was answered.
-/

namespace Lockstep

open Source (linesOf lineAt lineAt_zero)

/-! ## What the user types -/

namespace Utf8

theorem eq_nil_of_encode {text : List Char} (h : encode text = []) : text = [] := by
  have hback := decode_encode text
  rw [h] at hback
  exact (Except.ok.inj hback).symm

/-- The lines of a text are those of its bytes. -/
theorem linesOf_encode (text : List Char) :
    linesOf (encode text) = (Lines.splitAfter (· == '\n') text).map encode := by
  induction hn : text.length using Nat.strongRecOn generalizing text with
  | ind n ih =>
      subst hn
      by_cases hfeed : '\n' ∈ text
      · obtain ⟨line, rest, rfl, hline⟩ := List.eq_append_cons_of_mem hfeed
        have hrest := ih rest.length (by simp; omega) rest rfl
        have hbytes : encode (line ++ '\n' :: rest) = encode line ++ lineFeed :: encode rest :=
          encode_append line ('\n' :: rest)
        have hend : encode (line ++ ['\n']) = encode line ++ [lineFeed] := encode_append line ['\n']
        have hcut := Source.cutLine_body (mt lineFeed_mem_encode.mp hline) (encode rest)
        rw [hbytes, Source.linesOf_of_cutLine hcut,
          Lines.splitAfter_body (Lines.sep_of_not_mem hline) (by decide), List.map_cons, hrest,
          hend]
      · rw [Source.linesOf_of_not_mem (mt lineFeed_mem_encode.mp hfeed)]
        by_cases hne : text = []
        · subst hne
          rfl
        · rw [Lines.splitAfter_unfinished (Lines.sep_of_not_mem hfeed) hne,
            if_neg (mt eq_nil_of_encode hne), List.map_singleton]

end Utf8

/-- The user types these lines, which are text. -/
structure Source.Types (terminal : Source) (typed : List Bytes) : Prop where
  supplies : terminal.Supplies typed
  text : ∀ line ∈ typed, (Utf8.decode? line).isSome = true

theorem Source.Brings.types {terminal : Source} {text : List Char}
    (h : terminal.Brings (Utf8.encode text)) :
    terminal.Types ((Lines.splitAfter (· == '\n') text).map Utf8.encode) := by
  refine ⟨⟨_, h, (Utf8.linesOf_encode text).symm⟩, ?_⟩
  intro line hline
  obtain ⟨body, -, rfl⟩ := List.mem_map.mp hline
  rw [Utf8.decode?, Utf8.decode_encode]
  rfl

namespace Client

/-- A user who types a line goes on from the break, and the other lines are left. -/
theorem consent_types {terminal : Source} {line : Bytes} {typed : List Bytes}
    (h : terminal.Types (line :: typed)) (b : UInt32) :
    consent b terminal.readLine.1 = .ok () ∧ terminal.readLine.2.Types typed := by
  obtain ⟨hread, hleft⟩ := h.supplies.readLine
  obtain ⟨bytes, -, hlines⟩ := h.supplies
  have hline : line ≠ [] := Lines.ne_nil_of_mem_splitAfter (hlines ▸ List.mem_cons_self)
  obtain ⟨htext, hlater⟩ := List.forall_mem_cons.mp h.text
  refine ⟨?_, hleft, hlater⟩
  rw [hread, lineAt_zero, List.headD_cons]
  cases line with
  | nil => exact absurd rfl hline
  | cons byte rest => rw [consent, if_pos htext]

theorem consent_nothing {terminal : Source} (h : terminal.Types []) (b : UInt32) :
    consent b terminal.readLine.1 = .error (.unattended b) := by
  rw [h.supplies.readLine.1]
  rfl

/-! ## Breaks that were received -/

/-- The line of the break that was received. -/
def Exchange.stop? : Exchange → Option UInt32
  | ⟨.receive, reply⟩ =>
    match hearing reply with
    | .ok (.breakAt line) => some line
    | _ => none
  | _ => none

/-- The lines of the breaks that were received, in order. -/
def stops (t : List Exchange) : List UInt32 := t.filterMap Exchange.stop?

/-- What a user is shown of an exchange. -/
def Exchange.caption? : Exchange → Option String
  | ⟨.receive, reply⟩ =>
    match hearing reply with
    | .ok (.breakAt line) => some (stopText line)
    | .ok .finish => some endText
    | _ => none
  | _ => none

/-- An exchange, and then what the user is shown of it. -/
def Exchange.presented (x : Exchange) : List Exchange :=
  match x.caption? with
  | some text => [x, ⟨.print text, ()⟩]
  | none => [x]

theorem sent_presented (t : List Exchange) : sent (t.flatMap Exchange.presented) = sent t := by
  rw [sent, List.flatMap_assoc, sent]
  refine List.flatMap_congr ?_
  intro x _
  rw [Exchange.presented]
  cases x.caption? with
  | none => exact List.flatMap_singleton _ _
  | some text => exact List.append_nil _

theorem stops_presented (t : List Exchange) :
    stops (t.flatMap Exchange.presented) = stops t := by
  induction t with
  | nil => rfl
  | cons x t ih =>
      rw [stops] at ih
      rw [List.flatMap_cons, stops, List.filterMap_append, ih, Exchange.presented]
      -- what is shown is not received
      cases x.caption? with
      | none => exact (List.filterMap_append (l := [x])).symm
      | some text => exact (List.filterMap_append (l := [x])).symm

/-! ## One event -/

/-- What a client makes of a reply that is no break. -/
def ending (reply : Except SystemError Bytes) : Except ClientError Unit :=
  match hearing reply with
  | .ok .finish => .ok ()
  | .ok other => .error (.unexpected "break or finish" other.kind)
  | .error failure => .error failure

/-- An event is a break, or it is the last one. -/
theorem event_cases (reply : Except SystemError Bytes) :
    (∃ b, hearing reply = .ok (.breakAt b)) ∨ ∀ b, hearing reply ≠ .ok (.breakAt b) := by
  by_cases h : ∃ b, hearing reply = .ok (.breakAt b)
  · exact .inl h
  · exact .inr fun b hb => h ⟨b, hb⟩

section Event

variable (auto : Bool) (bound : Nat) {w : World} {line : UInt32}

theorem receive_answer (w : World) :
    World.answer .receive w = (w.source.readLine.1, { w with source := w.source.readLine.2 }) := rfl

theorem resume_answer (w : World) :
    World.answer (.send .resume) w =
      ((w.sink.deliver [Message.resume.bytes]).1,
        { w with sink := (w.sink.deliver [Message.resume.bytes]).2 }) := rfl

/-- An event that is no break is the last one. -/
theorem runToFinish_last (h : ∀ b, hearing w.source.readLine.1 ≠ .ok (.breakAt b)) :
    (runToFinish (bound + 1)).run.run World.answer w =
      ⟨(ending w.source.readLine.1).map fun _ => ⟨[], true⟩, [⟨.receive, w.source.readLine.1⟩],
        { w with source := w.source.readLine.2 }⟩ := by
  rw [runToFinish_run, Dialogue.run_ask, receive_answer, ending]
  dsimp only
  cases hheard : hearing w.source.readLine.1 with
  | error failure => rfl
  | ok m =>
      cases m with
      | breakAt b => exact absurd hheard (h b)
      | _ => rfl

/-- It is the last one also before the eyes of a user. -/
theorem present_last (h : ∀ b, hearing w.source.readLine.1 ≠ .ok (.breakAt b)) :
    (present auto (bound + 1)).run.run World.answer w =
      ⟨ending w.source.readLine.1, Exchange.presented ⟨.receive, w.source.readLine.1⟩,
        { w with source := w.source.readLine.2 }⟩ := by
  rw [present_run, Dialogue.run_ask, receive_answer, ending, Exchange.presented, Exchange.caption?]
  dsimp only
  cases hheard : hearing w.source.readLine.1 with
  | error failure => rfl
  | ok m =>
      cases m with
      | breakAt b => exact absurd hheard (h b)
      | _ => rfl

/-- A client at a break goes on from there, if the controller takes the answer. -/
theorem runToFinish_break (hheard : hearing w.source.readLine.1 = .ok (.breakAt line)) :
    let r := w.sink.deliver [Message.resume.bytes]
    let v : World := { w with source := w.source.readLine.2, sink := r.2 }
    let o := (runToFinish bound).run.run World.answer v
    (runToFinish (bound + 1)).run.run World.answer w =
      match r.1.outcome with
      | .error cause =>
        ⟨.error (.io cause), [⟨.receive, w.source.readLine.1⟩, ⟨.send .resume, r.1⟩], v⟩
      | .ok () =>
        ⟨o.value.map fun journey => { journey with lines := line :: journey.lines },
          ⟨.receive, w.source.readLine.1⟩ :: ⟨.send .resume, r.1⟩ :: o.trace, o.state⟩ := by
  intro r v o
  rw [runToFinish_run, Dialogue.run_ask, receive_answer]
  dsimp only
  rw [hheard]
  dsimp only
  rw [Dialogue.run_ask, resume_answer]
  dsimp only
  cases r.1.outcome with
  | error cause => rfl
  | ok u =>
      dsimp only
      rw [arrive_run]

/-- The user is shown the break first. -/
theorem present_break (hheard : hearing w.source.readLine.1 = .ok (.breakAt line)) :
    let o := (stand auto bound line).run World.answer { w with source := w.source.readLine.2 }
    (present auto (bound + 1)).run.run World.answer w =
      ⟨o.value, ⟨.receive, w.source.readLine.1⟩ :: ⟨.print (stopText line), ()⟩ :: o.trace,
        o.state⟩ := by
  intro o
  rw [present_run, Dialogue.run_ask, receive_answer]
  dsimp only
  rw [hheard]
  rfl

theorem goOn_run (w : World) :
    let r := w.sink.deliver [Message.resume.bytes]
    let v : World := { w with sink := r.2 }
    let o := (present auto bound).run.run World.answer v
    (goOn auto bound).run World.answer w =
      match r.1.outcome with
      | .error cause => ⟨.error (.io cause), [⟨.send .resume, r.1⟩], v⟩
      | .ok () => ⟨o.value, ⟨.send .resume, r.1⟩ :: o.trace, o.state⟩ := by
  intro r v o
  rw [goOn, Dialogue.run_ask, resume_answer]
  dsimp only
  cases r.1.outcome <;> rfl

/-- A user is waited for, and may have gone. -/
theorem stand_run (w : World) :
    let reply := w.terminal.readLine.1
    let v : World := { w with terminal := w.terminal.readLine.2 }
    let o := (goOn false bound).run World.answer v
    (stand false bound line).run World.answer w =
      match consent line reply with
      | .ok () => ⟨o.value, ⟨.prompt, reply⟩ :: o.trace, o.state⟩
      | .error failure => ⟨.error failure, [⟨.prompt, reply⟩], v⟩ := by
  intro reply v o
  have hprompt : World.answer .prompt w = (reply, v) := rfl
  rw [stand, if_neg Bool.false_ne_true, Dialogue.run_ask, hprompt]
  dsimp only
  cases consent line reply <;> rfl

end Event

theorem stop?_of_break {reply : Except SystemError Bytes} {line : UInt32}
    (h : hearing reply = .ok (.breakAt line)) : Exchange.stop? ⟨.receive, reply⟩ = some line := by
  rw [Exchange.stop?, h]

theorem stop?_of_last {reply : Except SystemError Bytes}
    (h : ∀ b, hearing reply ≠ .ok (.breakAt b)) : Exchange.stop? ⟨.receive, reply⟩ = none := by
  rw [Exchange.stop?]
  split
  · exact absurd ‹_› (h _)
  · rfl

theorem presented_of_break {reply : Except SystemError Bytes} {line : UInt32}
    (h : hearing reply = .ok (.breakAt line)) :
    Exchange.presented ⟨.receive, reply⟩ = [⟨.receive, reply⟩, ⟨.print (stopText line), ()⟩] := by
  rw [Exchange.presented, Exchange.caption?, h]

theorem stops_last {reply : Except SystemError Bytes}
    (h : ∀ b, hearing reply ≠ .ok (.breakAt b)) :
    stops (Exchange.presented ⟨.receive, reply⟩) = [] := by
  have hstops := stops_presented [⟨.receive, reply⟩]
  rwa [List.flatMap_singleton, stops, stops, List.filterMap_cons_none (stop?_of_last h)] at hstops

/-! ## Without a user -/

/-- **A client that is watched does what one does that is not,** and shows each break and the end
where they are received. -/
theorem present_auto_run (bound : Nat) (w : World) :
    (present true bound).run.run World.answer w =
      let o := (runToFinish bound).run.run World.answer w
      ⟨o.value.map fun _ => (), o.trace.flatMap Exchange.presented, o.state⟩ := by
  induction bound generalizing w with
  | zero => rfl
  | succ bound ih =>
      rcases event_cases w.source.readLine.1 with ⟨line, hheard⟩ | hlast
      · rw [present_break true bound hheard, runToFinish_break bound hheard, stand, if_pos rfl,
          goOn_run]
        dsimp only
        cases (w.sink.deliver [Message.resume.bytes]).1.outcome with
        | error cause =>
            rw [List.flatMap_cons, presented_of_break hheard]
            rfl
        | ok u =>
            dsimp only
            rw [ih, List.flatMap_cons, presented_of_break hheard, List.flatMap_cons]
            generalize (runToFinish bound).run.run World.answer _ = o
            cases hvalue : o.value <;>
              simp [hvalue, Except.map, Exchange.presented, Exchange.caption?]
      · rw [present_last true bound hlast, runToFinish_last bound hlast]
        dsimp only
        rw [List.flatMap_singleton]
        cases ending w.source.readLine.1 <;> rfl

/-- What the user is shown where a journey ends. -/
def farewell : Except ClientError Journey → List String
  | .ok ⟨_, true⟩ => [endText]
  | _ => []

/-- A break on the way is not the end. -/
theorem farewell_pass (line : UInt32) (value : Except ClientError Journey) :
    farewell (value.map fun journey => { journey with lines := line :: journey.lines }) =
      farewell value := by
  cases value with
  | error failure => rfl
  | ok journey =>
      obtain ⟨lines, finished⟩ := journey
      cases finished <;> rfl

/-- Of the last event the user is shown the end, if it was reached. -/
theorem shown_last {reply : Except SystemError Bytes}
    (h : ∀ b, hearing reply ≠ .ok (.breakAt b)) :
    shown (Exchange.presented ⟨.receive, reply⟩) =
      farewell ((ending reply).map fun _ => ⟨[], true⟩) := by
  rw [Exchange.presented, Exchange.caption?, ending]
  cases hheard : hearing reply with
  | error failure => rfl
  | ok m =>
      cases m with
      | breakAt b => exact absurd hheard (h b)
      | _ => rfl

/-- The user is shown each break that was received, and then the end if it was reached. -/
theorem runToFinish_shown (bound : Nat) (w : World) :
    let o := (runToFinish bound).run.run World.answer w
    shown (o.trace.flatMap Exchange.presented) =
        (stops o.trace).map stopText ++ farewell o.value ∧
      ∀ journey, o.value = .ok journey → journey.lines = stops o.trace := by
  induction bound generalizing w with
  | zero =>
      refine ⟨rfl, ?_⟩
      intro journey h
      obtain rfl := Except.ok.inj h
      rfl
  | succ bound ih =>
      rcases event_cases w.source.readLine.1 with ⟨line, hheard⟩ | hlast
      · rw [runToFinish_break bound hheard]
        cases (w.sink.deliver [Message.resume.bytes]).1.outcome with
        | error cause =>
            dsimp only
            rw [List.flatMap_cons, presented_of_break hheard, stops,
              List.filterMap_cons_some (stop?_of_break hheard)]
            exact ⟨rfl, nofun⟩
        | ok u =>
            obtain ⟨hshown, hlines⟩ := ih { w with
              source := w.source.readLine.2,
              sink := (w.sink.deliver [Message.resume.bytes]).2 }
            generalize (runToFinish bound).run.run World.answer _ = o at hshown hlines
            dsimp only
            rw [List.flatMap_cons, presented_of_break hheard, stops,
              List.filterMap_cons_some (stop?_of_break hheard)]
            refine ⟨?_, ?_⟩
            · rw [farewell_pass]
              exact congrArg (stopText line :: ·) hshown
            · intro journey h
              cases hvalue : o.value with
              | error e =>
                  rw [hvalue] at h
                  exact nomatch h
              | ok later =>
                  rw [hvalue] at h
                  obtain rfl := Except.ok.inj h
                  exact congrArg (line :: ·) (hlines later hvalue)
      · rw [runToFinish_last bound hlast]
        dsimp only
        rw [List.flatMap_singleton, stops, List.filterMap_cons_none (stop?_of_last hlast)]
        refine ⟨shown_last hlast, ?_⟩
        intro journey h
        cases hended : ending w.source.readLine.1 with
        | error failure =>
            rw [hended] at h
            exact nomatch h
        | ok u =>
            rw [hended] at h
            obtain rfl := Except.ok.inj h
            rfl

/-! ## With a user -/

/-- The client waits for the user. -/
def Exchange.isPrompt : Exchange → Bool
  | ⟨.prompt, _⟩ => true
  | _ => false

/-- What a client does apart from waiting for the user. -/
def unprompted (t : List Exchange) : List Exchange := t.filter fun x => !x.isPrompt

theorem sent_unprompted (t : List Exchange) : sent (unprompted t) = sent t := by
  induction t with
  | nil => rfl
  | cons x t ih =>
      obtain ⟨r, reply⟩ := x
      cases r with
      | prompt => exact ih
      | _ => exact congrArg (_ ++ ·) ih

theorem shown_unprompted (t : List Exchange) : shown (unprompted t) = shown t := by
  induction t with
  | nil => rfl
  | cons x t ih =>
      obtain ⟨r, reply⟩ := x
      cases r with
      | prompt => exact ih
      | _ => exact congrArg (_ ++ ·) ih

theorem unprompted_presented (reply : Except SystemError Bytes) :
    unprompted (Exchange.presented ⟨.receive, reply⟩) = Exchange.presented ⟨.receive, reply⟩ := by
  rw [Exchange.presented]
  cases Exchange.caption? ⟨.receive, reply⟩ <;> rfl

/-- The run is the other one, but for the waiting for the user. -/
structure Follows (o o' : Dialogue.Outcome interface World (Except ClientError Unit)) : Prop where
  value : o'.value = o.value
  trace : unprompted o'.trace = o.trace
  source : o'.state.source = o.state.source
  sink : o'.state.sink = o.state.sink

/-- The run ends at the break after those that the user has gone on from: it is shown, and not
answered. -/
structure Abandons (bs : List UInt32) (b : UInt32)
    (o : Dialogue.Outcome interface World (Except ClientError Unit)) : Prop where
  value : o.value = .error (.unattended b)
  shown : Client.shown o.trace = (bs ++ [b]).map stopText
  sent : Client.sent o.trace = (List.replicate bs.length Message.resume.bytes).flatten

section Pass

variable {o o' : Dialogue.Outcome interface World (Except ClientError Unit)} {b : UInt32}
  {bs : List UInt32} {d : Delivery}

/-- A break that the user has gone on from stands before both runs. -/
theorem Follows.pass (h : Follows o o') (reply typed : Except SystemError Bytes) (line : UInt32)
    (d : Delivery) :
    Follows
      ⟨o.value, ⟨.receive, reply⟩ :: ⟨.print (stopText line), ()⟩ :: ⟨.send .resume, d⟩ :: o.trace,
        o.state⟩
      ⟨o'.value, ⟨.receive, reply⟩ :: ⟨.print (stopText line), ()⟩ :: ⟨.prompt, typed⟩ ::
        ⟨.send .resume, d⟩ :: o'.trace, o'.state⟩ := by
  refine ⟨h.value, ?_, h.source, h.sink⟩
  have htrace := h.trace
  rw [← htrace]
  rfl

theorem Abandons.pass (h : Abandons bs b o') (reply typed : Except SystemError Bytes)
    (line : UInt32) (hd : d.accepted.flatten = Message.resume.bytes) :
    Abandons (line :: bs) b
      ⟨o'.value, ⟨.receive, reply⟩ :: ⟨.print (stopText line), ()⟩ :: ⟨.prompt, typed⟩ ::
        ⟨.send .resume, d⟩ :: o'.trace, o'.state⟩ := by
  refine ⟨h.value, congrArg (stopText line :: ·) h.shown, ?_⟩
  rw [List.length_cons, List.replicate_succ, List.flatten_cons, ← h.sent, ← hd]
  rfl

end Pass

/-- **A user who goes on from each break changes nothing,** and one who has gone leaves the client
at the first break that is not answered. -/
theorem present_keeps (bound : Nat) {w : World} {terminal : Source} {typed : List Bytes}
    (ht : terminal.Types typed) :
    let o := (present true bound).run.run World.answer w
    let o' := (present false bound).run.run World.answer { w with terminal := terminal }
    ((stops o.trace).length ≤ typed.length → Follows o o') ∧
      ∀ b, (stops o.trace)[typed.length]? = some b →
        Abandons ((stops o.trace).take typed.length) b o' := by
  induction bound generalizing w terminal typed with
  | zero => exact ⟨fun _ => ⟨rfl, rfl, rfl, rfl⟩, nofun⟩
  | succ bound ih =>
      rcases event_cases w.source.readLine.1 with ⟨line, hheard⟩ | hlast
      · rw [present_break true bound hheard,
          present_break (w := { w with terminal := terminal }) false bound hheard, stand_run]
        dsimp only
        rw [stops, List.filterMap_cons_some (stop?_of_break hheard)]
        cases typed with
        | nil =>
            rw [consent_nothing ht]
            refine ⟨fun h => absurd h (Nat.not_succ_le_zero _), ?_⟩
            intro b hb
            obtain rfl := Option.some.inj hb
            exact ⟨rfl, rfl, rfl⟩
        | cons answer typed =>
            obtain ⟨hconsent, hlater⟩ := consent_types ht line
            have hconveys := w.sink.deliver_one_conveys Message.resume.bytes
            rw [hconsent, stand, if_pos rfl, goOn_run, goOn_run]
            dsimp only
            cases houtcome : (w.sink.deliver [Message.resume.bytes]).1.outcome with
            | error cause =>
                refine ⟨fun _ => ⟨rfl, rfl, rfl, rfl⟩, ?_⟩
                intro b hb
                cases hb
            | ok u =>
                have haccepted := hconveys.whole houtcome
                obtain ⟨hfollows, habandons⟩ := ih hlater (w := { w with
                  source := w.source.readLine.2,
                  sink := (w.sink.deliver [Message.resume.bytes]).2 })
                refine ⟨?_, ?_⟩
                · intro h
                  exact (hfollows (Nat.le_of_succ_le_succ h)).pass _ _ line _
                · intro b hb
                  exact (habandons b hb).pass _ _ line haccepted
      · rw [present_last true bound hlast,
          present_last (w := { w with terminal := terminal }) false bound hlast]
        dsimp only
        rw [stops_last hlast]
        refine ⟨fun _ => ⟨rfl, unprompted_presented _, rfl, rfl⟩, ?_⟩
        intro b hb
        cases hb

/-! ## From the greeting on -/

/-- A client that is greeted answers. -/
theorem greet_answer (w : World) :
    let reply := w.source.readLine.1
    let r := w.sink.deliver [Message.clientInit.bytes]
    let v : World := { w with source := w.source.readLine.2 }
    greet.run.run World.answer w =
      match hearing reply with
      | .ok (.serverInit _ _) =>
        ⟨r.1.outcome.mapError .io, [⟨.receive, reply⟩, ⟨.send .clientInit, r.1⟩],
          { v with sink := r.2 }⟩
      | .ok other => ⟨.error (.unexpected "serverinit" other.kind), [⟨.receive, reply⟩], v⟩
      | .error failure => ⟨.error failure, [⟨.receive, reply⟩], v⟩ := by
  intro reply r v
  rw [greet_run, Dialogue.run_ask, receive_answer]
  dsimp only
  cases hearing w.source.readLine.1 with
  | error failure => rfl
  | ok m =>
      cases m with
      | serverInit host port =>
          dsimp only
          rw [send_run]
          rfl
      | _ => rfl

/-- A client that goes on from its greeting was heard, and has received no break yet. -/
structure Opened (w : World) (o : Dialogue.Outcome interface World (Except ClientError Unit)) :
    Prop where
  stops : stops o.trace.tail = []
  shown : shown o.trace = []
  kept : unprompted o.trace = o.trace
  received : o.trace ≠ []
  sent : o.value = .ok () → sent o.trace = Message.clientInit.bytes
  source : o.state.source = w.source.readLine.2
  receiver : w.sink.receiver.Obliging → o.state.sink.receiver = w.sink.receiver
  terminal : o.state.terminal = w.terminal

theorem greet_opened (w : World) : Opened w (greet.run.run World.answer w) := by
  have hfailed (failure : ClientError) : Opened w
      ⟨.error failure, [⟨.receive, w.source.readLine.1⟩],
        { w with source := w.source.readLine.2 }⟩ :=
    ⟨rfl, rfl, rfl, List.cons_ne_nil _ _, nofun, rfl, fun _ => rfl, rfl⟩
  rw [greet_answer]
  cases hearing w.source.readLine.1 with
  | error failure => exact hfailed failure
  | ok m =>
      cases m with
      | serverInit host port =>
          have hconveys := w.sink.deliver_one_conveys Message.clientInit.bytes
          refine ⟨rfl, rfl, rfl, List.cons_ne_nil _ _, ?_, rfl, ?_, rfl⟩
          · intro h
            cases houtcome : (w.sink.deliver [Message.clientInit.bytes]).1.outcome with
            | error cause =>
                dsimp only at h
                rw [houtcome] at h
                exact nomatch h
            | ok u =>
                have haccepted := hconveys.whole houtcome
                show (w.sink.deliver [Message.clientInit.bytes]).1.accepted.flatten ++ [] = _
                rw [List.append_nil, haccepted]
          · intro hsink
            exact (Sink.deliver_obliging hsink _).receiver
      | _ => exact hfailed _

/-- A client that is not greeted is done, and any other goes on. -/
theorem greet_then_run {α : Type} (rest : Action α) (w : World) :
    let greeting := greet.run.run World.answer w
    let o := rest.run.run World.answer greeting.state
    (do greet; rest : Action α).run.run World.answer w =
      match greeting.value with
      | .ok () => ⟨o.value, greeting.trace ++ o.trace, o.state⟩
      | .error failure => ⟨.error failure, greeting.trace, greeting.state⟩ := by
  intro greeting o
  have hrun : (do greet; rest : Action α).run = greet.run >>= ExceptT.bindCont fun _ => rest := rfl
  rw [hrun, Dialogue.run_bind]
  dsimp only
  rw [show greet.run.run World.answer w = greeting from rfl]
  cases hvalue : greeting.value with
  | ok u => rfl
  | error failure =>
      show (⟨_, greeting.trace ++ [], _⟩ : Dialogue.Outcome _ _ _) = _
      rw [List.append_nil]
      rfl

/-- Answers the greeting, and goes through the target. -/
def travel (bound : Nat) : Action Journey := do
  greet
  runToFinish bound

/-- **A client that is watched sends what one does that is not,** ends as it does, and shows each
break that was received after the greeting. -/
theorem attend_auto_run (bound : Nat) (w : World) :
    let o := (travel bound).run.run World.answer w
    let o' := (attend true bound).run.run World.answer w
    o'.value = o.value.map (fun _ => ()) ∧ sent o'.trace = sent o.trace ∧
      shown o'.trace = (stops o.trace.tail).map stopText ++ farewell o.value ∧
      o'.state = o.state ∧ stops o'.trace.tail = stops o.trace.tail ∧
      ∀ journey, o.value = .ok journey → journey.lines = stops o.trace.tail := by
  intro o o'
  have hopened := greet_opened w
  have ho : o = _ := greet_then_run (runToFinish bound) w
  have ho' : o' = _ := greet_then_run (present true bound) w
  rw [present_auto_run] at ho'
  generalize greet.run.run World.answer w = greeting at hopened ho ho'
  rw [ho, ho']
  cases hvalue : greeting.value with
  | error failure =>
      refine ⟨rfl, rfl, ?_, rfl, rfl, nofun⟩
      dsimp only
      rw [hopened.shown, hopened.stops]
      rfl
  | ok u =>
      obtain ⟨hshown, hlines⟩ := runToFinish_shown bound greeting.state
      generalize (runToFinish bound).run.run World.answer greeting.state = later at hshown hlines
      dsimp only
      have hstops (t : List Exchange) : stops (greeting.trace ++ t).tail = stops t := by
        rw [List.tail_append_of_ne_nil hopened.received, stops, List.filterMap_append, ← stops,
          hopened.stops]
        rfl
      rw [hstops, hstops, stops_presented]
      refine ⟨rfl, ?_, ?_, rfl, rfl, hlines⟩
      · rw [sent, List.flatMap_append, ← sent, ← sent, sent_presented, sent, sent, sent,
          List.flatMap_append]
      · rw [shown, List.flatMap_append, ← shown, ← shown, hopened.shown, hshown]
        rfl

/-- **A client whose user goes on from each break** does what it does without a user. If the user
has gone it stops at the first break that is not answered. -/
theorem attend_keeps (bound : Nat) {w : World} {typed : List Bytes}
    (ht : w.terminal.Types typed) :
    let o := (attend true bound).run.run World.answer w
    let o' := (attend false bound).run.run World.answer w
    let bs := stops o.trace.tail
    (bs.length ≤ typed.length →
      Follows o o') ∧
    ∀ b, bs[typed.length]? = some b →
      o'.value = .error (.unattended b) ∧
        shown o'.trace = (bs.take (typed.length + 1)).map stopText ∧
        sent o'.trace = Message.clientInit.bytes ++
          (List.replicate typed.length Message.resume.bytes).flatten := by
  intro o o' bs
  have hopened := greet_opened w
  have ho : o = _ := greet_then_run (present true bound) w
  have ho' : o' = _ := greet_then_run (present false bound) w
  generalize greet.run.run World.answer w = greeting at hopened ho ho'
  rw [show bs = stops o.trace.tail from rfl, ho, ho']
  cases hvalue : greeting.value with
  | error failure =>
      dsimp only
      rw [hopened.stops]
      exact ⟨fun _ => ⟨rfl, hopened.kept, rfl, rfl⟩, nofun⟩
  | ok u =>
      have hterminal : greeting.state.terminal.Types typed := by
        rw [hopened.terminal]
        exact ht
      have hkeeps := present_keeps bound (w := greeting.state) hterminal
      have hsame : { greeting.state with terminal := greeting.state.terminal } = greeting.state :=
        rfl
      rw [hsame] at hkeeps
      generalize (present true bound).run.run World.answer greeting.state = later at hkeeps
      generalize (present false bound).run.run World.answer greeting.state = later' at hkeeps
      obtain ⟨hfollows, habandons⟩ := hkeeps
      dsimp only
      rw [List.tail_append_of_ne_nil hopened.received, stops, List.filterMap_append, ← stops,
        hopened.stops, List.nil_append, ← stops]
      refine ⟨?_, ?_⟩
      · intro h
        obtain ⟨hv, ht, hs, hk⟩ := hfollows h
        refine ⟨hv, ?_, hs, hk⟩
        dsimp only
        rw [unprompted, List.filter_append, ← unprompted, ← unprompted, hopened.kept, ht]
      · intro b hb
        obtain ⟨hv, hs, hk⟩ := habandons b hb
        refine ⟨hv, ?_, ?_⟩
        · rw [shown, List.flatMap_append, ← shown, ← shown, hopened.shown, hs,
            List.take_add_one, hb]
          rfl
        · have hlength : ((stops later.trace).take typed.length).length = typed.length := by
            rw [List.length_take]
            have := (List.getElem?_eq_some_iff.mp hb).1
            omega
          rw [sent, List.flatMap_append, ← sent, ← sent, hopened.sent hvalue, hk, hlength]

/-- Within the bound, a client that succeeds has reached the end. -/
theorem travel_finished {bound : Nat} {w : World} {input : Bytes}
    (hsink : w.sink.receiver.Obliging) (hinput : w.source.Brings input)
    (hbound : (linesOf input).length < bound) {journey : Journey}
    (h : ((travel bound).run.run World.answer w).value = .ok journey) :
    journey.finished = true := by
  have hopened := greet_opened w
  have ho := greet_then_run (runToFinish bound) w
  rw [show (travel bound).run.run World.answer w = _ from ho] at h
  generalize greet.run.run World.answer w = greeting at hopened h
  cases hvalue : greeting.value with
  | error failure =>
      rw [hvalue] at h
      exact nomatch h
  | ok u =>
      rw [hvalue] at h
      dsimp only at h
      have hsupplies : greeting.state.source.Supplies (linesOf input).tail := by
        rw [hopened.source]
        exact hinput.supplies.readLine.2
      have hreceiver : greeting.state.sink.receiver.Obliging := by
        rw [hopened.receiver hsink]
        exact hsink
      have hlength : (linesOf input).tail.length < bound := by
        rw [List.length_tail]
        omega
      obtain ⟨bs, answers, rest, result, -, -, -, hresult⟩ :=
        runToFinish_travels hreceiver hsupplies hlength
      rw [hresult] at h
      cases result with
      | error failure => exact nomatch h
      | ok u =>
          obtain rfl := Except.ok.inj h
          rfl

end Client

namespace Program

variable {η : Type}

/-- **An attached client is the client at its connection.** -/
theorem attach_run (site : Site η) {w : World η} {a : Attachment} (bound : Nat) {source : Source}
    {sink : Sink} (hconnect : w.network.connect a.host a.port = .ok ())
    (hpeer : w.peer = some (source, sink)) :
    let o := (Client.attend a.auto bound).run.run Client.World.answer (w.aroundClient source sink)
    (attach a bound).run.runWaiting (World.answer site) w =
      ⟨some (o.value.mapError Failure.client),
        ⟨.connect a.host a.port, .ok ()⟩ :: o.trace.map Exchange.ofClient,
        w.leaveClient o.state⟩ := by
  intro o
  have hrun : (attach a bound).run =
      .ask (.connect a.host a.port) fun reply =>
        (orFail s!"Failed to connect to {a.host}:{a.port.toNat}" reply).run >>=
          ExceptT.bindCont fun _ => attend (Client.attend a.auto bound) := rfl
  have hanswer : World.answer site (.connect a.host a.port) w = some (.ok (), w) := by
    rw [← hconnect]
    rfl
  have hclient : (attend (Client.attend a.auto bound)).run.runWaiting (World.answer site) w =
      ⟨some (o.value.mapError Failure.client), o.trace.map Exchange.ofClient,
        w.leaveClient o.state⟩ := by
    show (passOnClient (Client.attend a.auto bound).run >>= fun result =>
      Dialogue.done (result.mapError Failure.client)).runWaiting _ _ = _
    rw [Dialogue.runWaiting_bind, passOnClient_run site _ hpeer]
    show (⟨_, _ ++ [], _⟩ : Dialogue.Outcome _ _ _) = _
    rw [List.append_nil]
    rfl
  rw [hrun, Dialogue.runWaiting, hanswer]
  show (let rest := (attend (Client.attend a.auto bound)).run.runWaiting (World.answer site) w
    (⟨rest.value, _ :: rest.trace, rest.state⟩ : Dialogue.Outcome _ _ _)) = _
  rw [hclient]

/-- It sends what the client sends, and prints what the user is shown. -/
theorem attach_shows (site : Site η) {w : World η} {a : Attachment} (bound : Nat) {source : Source}
    {sink : Sink} (hconnect : w.network.connect a.host a.port = .ok ())
    (hpeer : w.peer = some (source, sink)) :
    let o := (Client.attend a.auto bound).run.run Client.World.answer (w.aroundClient source sink)
    let o' := (attach a bound).run.runWaiting (World.answer site) w
    o'.value = some (o.value.mapError Failure.client) ∧
      o'.trace.flatMap Exchange.sent = Client.sent o.trace ∧
      o'.trace.flatMap Exchange.printed =
        (Client.shown o.trace).flatMap (fun line => utf8 s!"{line}\n") ∧
      o'.state.peer = some (o.state.source, o.state.sink) := by
  rw [attach_run site bound hconnect hpeer]
  exact ⟨rfl, sent_ofClient _, printed_ofClient _, rfl⟩

/-- The bytes of a line that the user is shown. -/
theorem printed_stops (bs : List UInt32) :
    (bs.map Client.stopText).flatMap (fun line => utf8 s!"{line}\n") =
      bs.flatMap fun line => utf8 s!"break at line {line.toNat}\n" := by
  rw [List.flatMap_map]
  refine List.flatMap_congr ?_
  intro line _
  rfl

/--
**The terminal client and the library's client agree.** A controller sends any bytes and then closes
the connection, and takes what the client writes. The client of the library answers the greeting and
goes through the target; the breaks are those that it receives after the greeting. The program,
attached to this controller and told to go on by itself, sends the same bytes and ends in the same
way, and prints each of the breaks, and at last the end exactly if it succeeds.

Without that it waits for a line of the standard input at each break. If this is text of `n` lines,
and no more breaks are received, nothing is different. Otherwise the program stops at the break
after `n` others: it prints this break and does not answer it, and its error names the line.
-/
theorem attach_agrees (site : Site η) {w : World η} {host : String} {port : UInt16}
    {source : Source} {sink : Sink} {input : Bytes} {bound : Nat}
    (hconnect : w.network.connect host port = .ok ()) (hpeer : w.peer = some (source, sink))
    (hsink : sink.receiver.Obliging) (hinput : source.Brings input)
    (hbound : (linesOf input).length < bound) :
    let library := (Client.travel bound).run.run Client.World.answer (w.aroundClient source sink)
    let breaks := Client.stops library.trace.tail
    let attached (auto : Bool) :=
      (attach ⟨host, port, auto⟩ bound).run.runWaiting (World.answer site) w
    let sent (auto : Bool) := (attached auto).trace.flatMap Exchange.sent
    let printed (auto : Bool) := (attached auto).trace.flatMap Exchange.printed
    let shown (breaks : List UInt32) :=
      breaks.flatMap fun line => utf8 s!"break at line {line.toNat}\n"
    ((attached true).value = some ((library.value.map fun _ => ()).mapError Failure.client) ∧
      sent true = Client.sent library.trace ∧
      (attached true).state.peer = some (library.state.source, library.state.sink) ∧
      (∀ journey, library.value = .ok journey →
        journey = ⟨breaks, true⟩ ∧ printed true = shown breaks ++ utf8 "finished\n") ∧
      ∀ failure, library.value = .error failure → printed true = shown breaks) ∧
    ∀ text, w.input.Brings (Utf8.encode text) →
      let n := (Lines.splitAfter (· == '\n') text).length
      (breaks.length ≤ n →
        (attached false).value = (attached true).value ∧ sent false = sent true ∧
          printed false = printed true ∧ (attached false).state.peer = (attached true).state.peer) ∧
      ∀ line, breaks[n]? = some line →
        (attached false).value =
            some (.error (.plain s!"stdin closed while stopped at line {line.toNat}")) ∧
          sent false = Message.clientInit.bytes ++
            (List.replicate n Message.resume.bytes).flatten ∧
          printed false = shown (breaks.take (n + 1)) := by
  intro library breaks attached sent printed shown
  let client (auto : Bool) :=
    (Client.attend auto bound).run.run Client.World.answer (w.aroundClient source sink)
  have hshows (auto : Bool) :
      (attached auto).value = some ((client auto).value.mapError Failure.client) ∧
        sent auto = Client.sent (client auto).trace ∧
        printed auto =
          (Client.shown (client auto).trace).flatMap (fun line => utf8 s!"{line}\n") ∧
        (attached auto).state.peer = some ((client auto).state.source, (client auto).state.sink) :=
    attach_shows site bound hconnect hpeer
  obtain ⟨hvalue, hsent, hprinted, hleft⟩ := hshows true
  obtain ⟨hvalue', hsent', hprinted', hleft'⟩ := hshows false
  obtain ⟨hend, hsame, hshown, hstate, hstops, hlines⟩ :=
    Client.attend_auto_run bound (w.aroundClient source sink)
  have hprint : printed true = shown breaks ++
      (Client.farewell library.value).flatMap fun line => utf8 s!"{line}\n" := by
    rw [hprinted, hshown, List.flatMap_append, printed_stops]
  refine ⟨⟨?_, hsent.trans hsame, ?_, ?_, ?_⟩, ?_⟩
  · rw [hvalue, hend]
  · rw [hleft, hstate]
  · intro journey hjourney
    have hfinished := Client.travel_finished (w := w.aroundClient source sink) hsink hinput hbound
      hjourney
    have hbreaks := hlines journey hjourney
    obtain ⟨lines, finished⟩ := journey
    obtain rfl : finished = true := hfinished
    obtain rfl : lines = breaks := hbreaks
    refine ⟨rfl, ?_⟩
    rw [hprint, show library.value = _ from hjourney]
    exact congrArg _ (List.append_nil _)
  · intro failure hfailure
    rw [hprint, show library.value = _ from hfailure]
    exact List.append_nil _
  · intro text htext n
    have hkeeps := Client.attend_keeps bound (w := w.aroundClient source sink) htext.types
    dsimp only at hkeeps
    rw [List.length_map, hstops] at hkeeps
    obtain ⟨hfollows, habandons⟩ := hkeeps
    refine ⟨?_, ?_⟩
    · intro h
      obtain ⟨hv, ht, hsource, hsink⟩ := hfollows h
      refine ⟨?_, ?_, ?_, ?_⟩
      · rw [hvalue, hvalue', hv]
      · rw [hsent, hsent', ← Client.sent_unprompted, ht]
      · rw [hprinted, hprinted', ← Client.shown_unprompted, ht]
      · rw [hleft, hleft', hsource, hsink]
    · intro line hline
      obtain ⟨hv, hs, hk⟩ := habandons line hline
      refine ⟨?_, hsent'.trans hk, ?_⟩
      · rw [hvalue', hv]
        rfl
      · rw [hprinted', hs, printed_stops]

/-- A user who types one line sees two breaks, and answers the first one. -/
theorem attach_agrees_one_line :
    let host : Host Unit :=
      ⟨fun _ => .ok, fun _ _ => .ok [], fun _ _ => (.ok ⟨[], [], .exited 0⟩, ())⟩
    let site : Site Unit := ⟨host, fun _ _ => false, fun _ _ _ => .ok (), fun _ _ _ => .ok ()⟩
    let input := [Message.serverInit none none, .breakAt 3, .breakAt 5, .finish].flatMap
      Message.bytes
    let w : World Unit :=
      ⟨(), .ofBytes (Utf8.encode ['g', 'o']), .willing, .willing,
        ⟨fun _ => .ok 0, none, .ok (), fun _ _ => .ok ()⟩, some (.ofBytes input, .willing), .ok (),
        none, none⟩
    let attached (auto : Bool) :=
      (attach ⟨"localhost", 4711, auto⟩ 5).run.runWaiting (World.answer site) w
    (attached true).trace.flatMap Exchange.printed =
        utf8 "break at line 3\nbreak at line 5\nfinished\n" ∧
      (attached false).trace.flatMap Exchange.printed =
        utf8 "break at line 3\nbreak at line 5\n" ∧
      (attached false).trace.flatMap Exchange.sent =
        Message.clientInit.bytes ++ Message.resume.bytes ∧
      (attached false).value = some (.error (.plain "stdin closed while stopped at line 5")) := by
  intro host site input w attached
  have hlines : linesOf input =
      [Message.serverInit none none, .breakAt 3, .breakAt 5, .finish].map Message.bytes :=
    Message.linesOf_bytes _
  have hbreaks : Client.stops ((Client.travel 5).run.run Client.World.answer
      (w.aroundClient (.ofBytes input) .willing)).trace.tail = [3, 5] := by decide +kernel
  have hvalue : ((Client.travel 5).run.run Client.World.answer
      (w.aroundClient (.ofBytes input) .willing)).value = .ok ⟨[3, 5], true⟩ := by decide +kernel
  have hconnect : w.network.connect "localhost" 4711 = .ok () := rfl
  have hpeer : w.peer = some (.ofBytes input, .willing) := rfl
  have hbound : (linesOf input).length < 5 := by
    rw [hlines]
    decide
  obtain ⟨⟨-, -, -, hok, -⟩, huser⟩ := attach_agrees site hconnect hpeer
    Receiver.willing_obliging (Source.brings_ofBytes input) hbound
  obtain ⟨-, habandons⟩ := huser ['g', 'o'] (Source.brings_ofBytes _)
  rw [hbreaks] at hok habandons
  obtain ⟨-, hprinted⟩ := hok _ hvalue
  obtain ⟨hended, hsent, hstopped⟩ := habandons 5 rfl
  refine ⟨?_, ?_, ?_, hended⟩
  · rw [show (attached true).trace.flatMap _ = _ from hprinted]
    decide +kernel
  · rw [show (attached false).trace.flatMap _ = _ from hstopped]
    decide +kernel
  · rw [show (attached false).trace.flatMap _ = _ from hsent]
    decide +kernel

end Program

end Lockstep
