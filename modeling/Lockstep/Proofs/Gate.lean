import Lockstep.Controller.World
import Lockstep.Proofs.Shape
import Lockstep.Script.Execution

/-!
# The client holds the gate

A script advances only when its client lets it. Every break waits for its answer before anything
else is sent and before any command runs, and one answer that does not let the target go on is the
last thing that happens. None of this depends on who answers: the statements here are about the
trace of a session with a client that may send anything, on a host that may do anything.

The history of a session is in one of three states. It is *fresh* before the client's greeting,
*even* while every break is answered, and *pending* between a break and its answer. Each request
takes one state to another, and an answer that does not let the target go on takes a pending
history to one that is *settled*, where only the journal is written. The state is a property of
the history alone, so the loops of a script carry it as their invariant.
-/

namespace Lockstep

namespace Controller

/-! ## What a history shows -/

namespace Exchange

/-- A break is sent, at this line. -/
def breakLine? : Exchange → Option UInt32
  | ⟨.send (.breakAt line), _⟩ => some line
  | _ => none

/-- A break is sent. -/
def isBreak (x : Exchange) : Bool := x.breakLine?.isSome

/-- A line of the client is consumed. -/
def isReceive : Exchange → Bool
  | ⟨.receive, _⟩ => true
  | _ => false

/-- A line is consumed that lets the target go on. -/
def isResume : Exchange → Bool
  | ⟨.receive, reply⟩ =>
    match hear reply with
    | .ok .resume => true
    | _ => false
  | _ => false

/-- A command was run, and this came of it. -/
def execution? : Exchange → Option (Invocation × Except SystemError Completion)
  | ⟨.invoke invocation, reply⟩ => some (invocation, reply)
  | _ => none

/-- The session moves on: a break, the last message, or a command. -/
def isAdvance : Exchange → Bool
  | ⟨.send (.breakAt _), _⟩ | ⟨.send .finish, _⟩ | ⟨.invoke _, _⟩ => true
  | _ => false

end Exchange

/-- How many breaks were sent. -/
def breaks (t : List Exchange) : Nat := t.countP Exchange.isBreak

/-- The lines of the client that were consumed. -/
def consumed (t : List Exchange) : List Exchange := t.filter Exchange.isReceive

/-- The commands that were run, with what became of each. -/
def executed (t : List Exchange) : List (Invocation × Except SystemError Completion) :=
  t.filterMap Exchange.execution?

/-- The lines that were consumed in answer to breaks: the first one answers the opening. -/
def answers (t : List Exchange) : List Exchange := (consumed t).tail

/-- How many answers let the target go on. -/
def resumes (t : List Exchange) : Nat := (answers t).countP Exchange.isResume

/-- The last break was for this line, and its answer let the target go on. -/
def Acknowledged (t : List Exchange) (line : UInt32) : Prop :=
  ∃ before asked answer after, t = before ++ asked :: answer :: after ∧
    asked.breakLine? = some line ∧ answer.isResume = true ∧ ∀ x ∈ after, x.isBreak = false

/-- A script was read, and it has these statements. -/
def Loaded (t : List Exchange) (script : List Statement) : Prop :=
  ∃ path text, (⟨.load path, .ok text⟩ : Exchange) ∈ t ∧ Script.parse text = .ok script

/-- What may come after a history, where commands run under this shell. -/
structure Gated (shell : String) (t : List Exchange) (x : Exchange) : Prop where
  /-- At most one break waits for its answer. -/
  balance : breaks (t ++ [x]) = resumes (t ++ [x]) ∨ breaks (t ++ [x]) = resumes (t ++ [x]) + 1
  /-- Nothing advances while a break waits for its answer. -/
  gate : x.isAdvance = true → breaks t = resumes t
  /-- A command is that of a statement whose line the client has let go. -/
  command : ∀ i, x.request = .invoke i →
    Acknowledged t i.line ∧ ∃ script, Loaded t script ∧ ∃ s ∈ script, i = ⟨s.line, shell, s.command⟩
  /-- After an answer that does not let the target go on, only the journal is written. -/
  silence : (∃ y ∈ answers t, y.isResume = false) → ∃ record, x.request = .note record

/-! ## One more exchange -/

variable {t : List Exchange} {x : Exchange} {shell : String}

theorem breaks_append (t : List Exchange) (x : Exchange) :
    breaks (t ++ [x]) = breaks t + if x.isBreak then 1 else 0 := by
  rw [breaks, breaks, List.countP_append, List.countP_singleton]

theorem consumed_append (t : List Exchange) (x : Exchange) :
    consumed (t ++ [x]) = consumed t ++ if x.isReceive then [x] else [] := by
  rw [consumed, List.filter_append, List.filter_cons, List.filter_nil]
  rfl

/-- A client that was heard stays heard. -/
theorem consumed_append_ne_nil (h : consumed t ≠ []) : consumed (t ++ [x]) ≠ [] := by
  rw [consumed_append]
  exact List.append_ne_nil_of_left_ne_nil h _

theorem answers_append (hx : x.isReceive = false) : answers (t ++ [x]) = answers t := by
  rw [answers, consumed_append, hx, if_neg Bool.false_ne_true, List.append_nil]
  rfl

theorem answers_append_first (h : consumed t = []) : answers (t ++ [x]) = [] := by
  rw [answers, consumed_append, h]
  split <;> rfl

theorem answers_append_receive (h : consumed t ≠ []) (hx : x.isReceive = true) :
    answers (t ++ [x]) = answers t ++ [x] := by
  rw [answers, consumed_append, if_pos hx]
  exact List.tail_append_of_ne_nil h

theorem resumes_append (hx : x.isReceive = false) : resumes (t ++ [x]) = resumes t := by
  rw [resumes, resumes, answers_append hx]

/-- No break and no answer: the exchange leaves every state as it is. -/
def Exchange.isStill (x : Exchange) : Bool := !x.isBreak && !x.isReceive

theorem Exchange.isStill_iff : x.isStill = true ↔ x.isBreak = false ∧ x.isReceive = false := by
  rw [isStill, Bool.and_eq_true, Bool.not_eq_true', Bool.not_eq_true']

theorem Loaded.append {script : List Statement} (t : List Exchange) (x : Exchange)
    (h : Loaded t script) : Loaded (t ++ [x]) script := by
  obtain ⟨path, text, hmem, hparse⟩ := h
  exact ⟨path, text, List.mem_append_left _ hmem, hparse⟩

theorem Acknowledged.append {line : UInt32} (h : Acknowledged t line) (hx : x.isBreak = false) :
    Acknowledged (t ++ [x]) line := by
  obtain ⟨before, asked, answer, after, rfl, hasked, hanswer, hafter⟩ := h
  refine ⟨before, asked, answer, after ++ [x], by simp, hasked, hanswer, ?_⟩
  intro y hy
  rcases List.mem_append.mp hy with hy | hy
  · exact hafter y hy
  · rw [List.mem_singleton.mp hy]
    exact hx

/-! ## The states of a history -/

/-- The client has not been heard. -/
structure Fresh (t : List Exchange) : Prop where
  unasked : breaks t = 0
  unheard : consumed t = []

/-- Every break is answered, and every answer let the target go on. -/
structure Even (t : List Exchange) : Prop where
  even : breaks t = resumes t
  heard : consumed t ≠ []
  clean : ∀ y ∈ answers t, y.isResume = true

/-- The break at this line has just been sent. -/
structure Pending (t : List Exchange) (line : UInt32) : Prop where
  owed : breaks t = resumes t + 1
  heard : consumed t ≠ []
  clean : ∀ y ∈ answers t, y.isResume = true
  asked : ∃ before x, t = before ++ [x] ∧ x.breakLine? = some line

/-- Nothing more is to come. -/
def Settled (t : List Exchange) : Prop := breaks t = resumes t ∨ breaks t = resumes t + 1

/-- No break waits, and no answer was bad. -/
structure Calm (t : List Exchange) : Prop where
  even : breaks t = resumes t
  clean : ∀ y ∈ answers t, y.isResume = true

theorem Fresh.nil : Fresh [] := ⟨rfl, rfl⟩

theorem Fresh.calm (h : Fresh t) : Calm t := by
  have hnone : answers t = [] := by rw [answers, h.unheard]; rfl
  refine ⟨?_, ?_⟩
  · rw [h.unasked, resumes, hnone]
    rfl
  · rw [hnone]
    exact fun y hy => absurd hy List.not_mem_nil

theorem Even.calm (h : Even t) : Calm t := ⟨h.even, h.clean⟩

theorem Calm.settled (h : Calm t) : Settled t := .inl h.even

theorem Pending.settled {line : UInt32} (h : Pending t line) : Settled t := .inr h.owed

section Still

variable (hx : x.isStill = true)
include hx

theorem breaks_append_still : breaks (t ++ [x]) = breaks t := by
  rw [breaks_append, (Exchange.isStill_iff.mp hx).1]
  rfl

theorem answers_append_still : answers (t ++ [x]) = answers t :=
  answers_append (Exchange.isStill_iff.mp hx).2

theorem resumes_append_still : resumes (t ++ [x]) = resumes t :=
  resumes_append (Exchange.isStill_iff.mp hx).2

theorem Fresh.append (h : Fresh t) : Fresh (t ++ [x]) := by
  refine ⟨(breaks_append_still hx).trans h.unasked, ?_⟩
  rw [consumed_append, h.unheard, (Exchange.isStill_iff.mp hx).2]
  rfl

theorem Even.append (h : Even t) : Even (t ++ [x]) where
  even := by
    rw [breaks_append_still hx, resumes_append_still hx]
    exact h.even
  heard := consumed_append_ne_nil h.heard
  clean := by
    rw [answers_append_still hx]
    exact h.clean

theorem Settled.append (h : Settled t) : Settled (t ++ [x]) := by
  rw [Settled, breaks_append_still hx, resumes_append_still hx]
  exact h

end Still

/-! ## What may come in each state -/

theorem not_spoiled (h : ∀ y ∈ answers t, y.isResume = true) :
    ¬ ∃ y ∈ answers t, y.isResume = false := by
  rintro ⟨y, hy, hbad⟩
  rw [h y hy] at hbad
  exact nomatch hbad

/-- A request that sends no break, consumes no line and runs no command. -/
def Request.isQuiet : Request → Bool
  | .send (.breakAt _) | .receive | .invoke _ => false
  | _ => true

theorem Request.isQuiet_isStill {r : Request} (h : r.isQuiet = true) (reply : Reply r) :
    Exchange.isStill ⟨r, reply⟩ = true ∧ ∀ i, r ≠ .invoke i := by
  cases r with
  | send m => cases m <;> first | exact ⟨rfl, nofun⟩ | exact nomatch h
  | receive => exact nomatch h
  | invoke i => exact nomatch h
  | _ => exact ⟨rfl, nofun⟩

theorem Calm.gated (h : Calm t) (hx : x.isStill = true) (hi : ∀ i, x.request ≠ .invoke i) :
    Gated shell t x where
  balance := h.settled.append hx
  gate := fun _ => h.even
  command := fun i e => absurd e (hi i)
  silence := fun hbad => absurd hbad (not_spoiled h.clean)

theorem Settled.gated_note (h : Settled t) (record : Journal.Record) :
    Gated shell t ⟨.note record, ()⟩ where
  balance := h.append rfl
  gate := nofun
  command := nofun
  silence := fun _ => ⟨record, rfl⟩

theorem Fresh.receive (h : Fresh t) (reply : Except SystemError Bytes) :
    Gated shell t ⟨.receive, reply⟩ ∧ Even (t ++ [⟨.receive, reply⟩]) := by
  have hanswers : answers (t ++ [⟨.receive, reply⟩]) = [] := answers_append_first h.unheard
  have heven : breaks (t ++ [⟨.receive, reply⟩]) = resumes (t ++ [⟨.receive, reply⟩]) := by
    rw [breaks_append, h.unasked, resumes, hanswers]
    rfl
  refine ⟨⟨.inl heven, nofun, nofun, ?_⟩, heven, ?_, ?_⟩
  · exact fun hbad => absurd hbad (not_spoiled h.calm.clean)
  · -- the first line that is consumed answers the opening, so it is no answer to a break
    rw [consumed_append, h.unheard]
    exact List.cons_ne_nil _ _
  · rw [hanswers]
    exact fun y hy => absurd hy List.not_mem_nil

theorem Even.break (h : Even t) (line : UInt32) (d : Delivery) :
    Gated shell t ⟨.send (.breakAt line), d⟩ ∧
      Pending (t ++ [⟨.send (.breakAt line), d⟩]) line := by
  have howed : breaks (t ++ [⟨.send (.breakAt line), d⟩]) =
      resumes (t ++ [⟨.send (.breakAt line), d⟩]) + 1 := by
    rw [breaks_append, resumes_append rfl, h.even]
    rfl
  refine ⟨⟨.inr howed, fun _ => h.even, nofun, ?_⟩, howed, ?_, ?_, ⟨t, _, rfl, rfl⟩⟩
  · exact fun hbad => absurd hbad (not_spoiled h.clean)
  · exact consumed_append_ne_nil h.heard
  · rw [answers_append rfl]
    exact h.clean

theorem Exchange.isResume_receive (reply : Except SystemError Bytes) :
    Exchange.isResume ⟨.receive, reply⟩ = true ↔ resumeResult (hear reply) = .ok () := by
  rw [isResume]
  cases hear reply with
  | error failure => exact ⟨nofun, nofun⟩
  | ok m => cases m <;> first | exact ⟨fun _ => rfl, fun _ => rfl⟩ | exact ⟨nofun, nofun⟩

/-- The answer to a break ends the waiting, or the session. -/
theorem Pending.receive {line : UInt32} (h : Pending t line) (reply : Except SystemError Bytes) :
    Gated shell t ⟨.receive, reply⟩ ∧ Settled (t ++ [⟨.receive, reply⟩]) ∧
      (resumeResult (hear reply) = .ok () →
        Even (t ++ [⟨.receive, reply⟩]) ∧ Acknowledged (t ++ [⟨.receive, reply⟩]) line) := by
  have hanswers : answers (t ++ [⟨.receive, reply⟩]) = answers t ++ [⟨.receive, reply⟩] :=
    answers_append_receive h.heard rfl
  have hbreaks : breaks (t ++ [⟨.receive, reply⟩]) = breaks t := breaks_append t _
  have hresumes : resumes (t ++ [⟨.receive, reply⟩]) =
      resumes t + if Exchange.isResume ⟨.receive, reply⟩ then 1 else 0 := by
    rw [resumes, hanswers, List.countP_append, List.countP_singleton]
    rfl
  have hsettled : Settled (t ++ [⟨.receive, reply⟩]) := by
    rw [Settled, hbreaks, hresumes, h.owed]
    split
    · exact .inl rfl
    · exact .inr rfl
  refine ⟨⟨hsettled, nofun, nofun, ?_⟩, hsettled, ?_⟩
  · exact fun hbad => absurd hbad (not_spoiled h.clean)
  · intro hreply
    have hresume := (Exchange.isResume_receive reply).mpr hreply
    -- the break is the last exchange before this one, so no other break stands between the two
    obtain ⟨before, asked, rfl, hasked⟩ := h.asked
    refine ⟨⟨?_, ?_, ?_⟩, before, asked, ⟨.receive, reply⟩, [], by simp, hasked, hresume, nofun⟩
    · rw [hbreaks, hresumes, h.owed, if_pos hresume]
    · exact consumed_append_ne_nil h.heard
    · rw [hanswers]
      intro y hy
      rcases List.mem_append.mp hy with hy | hy
      · exact h.clean y hy
      · rw [List.mem_singleton.mp hy]
        exact hresume

/-- A command of a line that the client has let go leaves the history even. -/
theorem Even.invoke (h : Even t) {s : Statement} {script : List Statement}
    (hline : Acknowledged t s.line) (hscript : Loaded t script) (hs : s ∈ script)
    (reply : Except SystemError Completion) :
    Gated shell t ⟨.invoke ⟨s.line, shell, s.command⟩, reply⟩ where
  balance := h.calm.settled.append rfl
  gate := fun _ => h.even
  command := by
    rintro i ⟨⟩
    exact ⟨hline, script, hscript, s, hs, rfl⟩
  silence := fun hbad => absurd hbad (not_spoiled h.clean)

end Controller

end Lockstep
