import Lockstep.Proofs.Gate
import Lockstep.Proofs.Obedience
import Lockstep.Proofs.ReplaySession

/-!
# What the client was sent, and what it has answered

Writes may fail at any byte here, and reads may fail. What is known of every reply is that a message
whose delivery did not fail got to the client whole, and that a flush adds nothing (`Fair`). From
this the bytes that were sent are known at each point of a session that goes on: the opening, and a
break for each answer that let the target go on.

A history is *greeted* before a target is looked for, *stepped* while every break was answered by
leave to go on, and *refused* when the last break was not.
-/

namespace Lockstep.Controller

open Session (breakBytes)

/-- The reply can come from surroundings in which nothing but what was written gets to the client. -/
def Exchange.Fair : Exchange → Prop
  | ⟨.send m, d⟩ => d.Conveys m.bytes
  | ⟨.flush, d⟩ => d.Conveys []
  | _ => True

theorem answer_fair {η : Type} (host : Host η) (r : Request) (w : World η) :
    Exchange.Fair ⟨r, (World.answer host r w).1⟩ := by
  cases r with
  | send m => exact w.sink.deliver_one_conveys m.bytes
  | flush => exact Sink.deliver_conveys w.sink []
  | _ => trivial

/-! ## Requests -/

/-- A request that sends nothing and waits for no line. -/
def Request.isSilent : Request → Bool
  | .send _ | .flush | .receive => false
  | _ => true

/-- A request by which a target is found or run. -/
def Request.isEngine : Request → Bool
  | .resolve _ | .load _ | .invoke _ | .relay _ _ | .mark _ => true
  | _ => false

/-- A request by which a target is run. -/
def Request.isRunning : Request → Bool
  | .load _ | .invoke _ | .relay _ _ | .mark (.reached _) | .mark (.faulted _ _) => true
  | _ => false

variable {e : Endpoint} {row : List UInt32} {t : List Exchange} {x : Exchange}

theorem sent_append (t : List Exchange) (x : Exchange) : sent (t ++ [x]) = sent t ++ x.sent := by
  rw [sent, sent, List.flatMap_append, List.flatMap_singleton]

theorem sent_of_silent (h : x.request.isSilent = true) : x.sent = [] := by
  obtain ⟨r, reply⟩ := x
  cases r with
  | send | flush | receive => exact nomatch h
  | _ => rfl

theorem still_of_silent (h : x.request.isSilent = true) : x.isStill = true := by
  obtain ⟨r, reply⟩ := x
  cases r with
  | send | flush | receive => exact nomatch h
  | _ => rfl

theorem consumed_of_silent (h : x.request.isSilent = true) : consumed (t ++ [x]) = consumed t := by
  rw [consumed_append, (Exchange.isStill_iff.mp (still_of_silent h)).2]
  exact List.append_nil _

/-! ## The states of a history -/

/-- The client was sent the opening and breaks at these lines, and nothing else. -/
def Told (e : Endpoint) (row : List UInt32) (t : List Exchange) : Prop :=
  sent t = e.opening.bytes ++ breakBytes row

/-- The client was sent the opening, and answered it if there is one. -/
structure Greeted (e : Endpoint) (t : List Exchange) : Prop where
  told : Told e [] t
  heard : (consumed t).length = if e.hasPeer then 1 else 0

/-- Every break was answered by leave to go on. -/
def Stepped (e : Endpoint) (t : List Exchange) : Prop :=
  ∃ row, Told e row t ∧ (e.hasPeer = true → consumed t ≠ [] ∧ row.length = resumes t)

/-- The last break was not answered by leave to go on, and all others were. -/
def Refused (e : Endpoint) (t : List Exchange) : Prop :=
  ∃ row, Told e row t ∧ row.length = resumes t + 1

/-- The client was sent the farewell, after the opening and breaks. -/
def Dismissed (e : Endpoint) (t : List Exchange) : Prop :=
  ∃ row, sent t = e.opening.bytes ++ breakBytes row ++ Message.finish.bytes

/-- No target was looked for. -/
def Idle (t : List Exchange) : Prop := ∀ x ∈ t, x.request.isEngine = false

/-- No target was run. -/
def Unrun (t : List Exchange) : Prop := ∀ x ∈ t, x.request.isRunning = false

theorem Idle.append (h : Idle t) (hx : x.request.isEngine = false) : Idle (t ++ [x]) :=
  List.forall_mem_append.mpr ⟨h, List.forall_mem_singleton.mpr hx⟩

theorem Unrun.append (h : Unrun t) (hx : x.request.isRunning = false) : Unrun (t ++ [x]) :=
  List.forall_mem_append.mpr ⟨h, List.forall_mem_singleton.mpr hx⟩

theorem Idle.unrun (h : Idle t) : Unrun t := by
  intro x hx
  have hidle := h x hx
  obtain ⟨r, reply⟩ := x
  cases r with
  | load | invoke | relay | mark => exact nomatch hidle
  | _ => rfl

/-- A break gets to the client whole, or its delivery fails. -/
theorem Told.break (h : Told e row t) (line : UInt32) {d : Delivery}
    (hd : d.Conveys (Message.breakAt line).bytes) (hok : d.outcome = .ok ()) :
    Told e (row ++ [line]) (t ++ [⟨.send (.breakAt line), d⟩]) := by
  rw [Told, sent_append, h, breakBytes, breakBytes, List.flatMap_append, List.flatMap_singleton,
    List.append_assoc]
  exact congrArg _ (congrArg _ (hd.whole hok))

theorem Greeted.stepped (h : Greeted e t) : Stepped e t := by
  refine ⟨[], h.told, ?_⟩
  intro he
  have hone : (consumed t).length = 1 := by rw [h.heard, if_pos he]
  obtain ⟨y, hy⟩ := List.length_eq_one_iff.mp hone
  -- the one line that was consumed answers the opening, and no break
  exact ⟨by rw [hy]; simp, by rw [resumes, answers, hy]; rfl⟩

/-- No silent exchange ends it. -/
def Steady (P : List Exchange → Prop) : Prop :=
  ∀ t x, x.request.isSilent = true → P t → P (t ++ [x])

theorem Steady.told : Steady (Told e row) := by
  intro t x hx h
  rw [Told, sent_append, sent_of_silent hx, List.append_nil]
  exact h

theorem Steady.greeted : Steady (Greeted e) := by
  intro t x hx h
  refine ⟨Steady.told t x hx h.told, ?_⟩
  rw [consumed_of_silent hx]
  exact h.heard

theorem Steady.stepped : Steady (Stepped e) := by
  rintro t x hx ⟨row, htold, hpeer⟩
  refine ⟨row, Steady.told t x hx htold, ?_⟩
  rw [consumed_of_silent hx, resumes_append_still (still_of_silent hx)]
  exact hpeer

theorem Steady.refused : Steady (Refused e) := by
  rintro t x hx ⟨row, htold, hrow⟩
  refine ⟨row, Steady.told t x hx htold, ?_⟩
  rw [resumes_append_still (still_of_silent hx)]
  exact hrow

theorem Steady.dismissed : Steady (Dismissed e) := by
  rintro t x hx ⟨row, hsent⟩
  exact ⟨row, by rw [sent_append, sent_of_silent hx, List.append_nil, hsent]⟩

/-- A silent request leaves what is steady, whatever it is answered with. -/
theorem Steady.ask {P : List Exchange → Prop} (hP : Steady P) {α : Type} {r : Request}
    {next : Reply r → Talk α} {post : α → List Exchange → Prop} (hr : r.isSilent = true) (h : P t)
    (hnext : ∀ reply t, P t → (next reply).Ends Exchange.Fair post t) :
    (Dialogue.ask r next : Talk α).Ends Exchange.Fair post t :=
  .ask fun reply _ => hnext reply _ (hP t ⟨r, reply⟩ hr h)

/-! ## Answers -/

/-- An answer that lets the target go on makes the history stepped again. -/
theorem Told.resume {line : UInt32} (h : Told e (row ++ [line]) t) (hheard : consumed t ≠ [])
    (hrow : row.length = resumes t) {reply : Except SystemError Bytes}
    (hreply : resumeResult (hear reply) = .ok ()) : Stepped e (t ++ [⟨.receive, reply⟩]) := by
  refine ⟨row ++ [line], ?_, fun _ => ⟨consumed_append_ne_nil hheard, ?_⟩⟩
  · rw [Told, sent_append, h]
    exact List.append_nil _
  · rw [resumes, answers_append_receive hheard rfl, List.countP_append, List.countP_singleton,
      if_pos ((Exchange.isResume_receive reply).mpr hreply), List.length_append, hrow]
    rfl

/-- Any other answer leaves the history refused. -/
theorem Told.refuse {line : UInt32} (h : Told e (row ++ [line]) t) (hheard : consumed t ≠ [])
    (hrow : row.length = resumes t) {reply : Except SystemError Bytes} {failure : SessionError}
    (hreply : resumeResult (hear reply) = .error failure) :
    Refused e (t ++ [⟨.receive, reply⟩]) := by
  have hno : Exchange.isResume ⟨.receive, reply⟩ = false := by
    rw [← Bool.not_eq_true, Exchange.isResume_receive, hreply]
    simp
  refine ⟨row ++ [line], ?_, ?_⟩
  · rw [Told, sent_append, h]
    exact List.append_nil _
  · rw [resumes, answers_append_receive hheard rfl, List.countP_append, List.countP_singleton, hno,
      List.length_append, hrow]
    rfl

/-! ## Whole lines -/

theorem Message.bytes_inj {m m' : Message} : m.bytes = m'.bytes ↔ m = m' := by
  constructor
  · intro h
    have hheard := hear_bytes m
    rw [h, hear_bytes] at hheard
    exact (Except.ok.inj hheard).symm
  · exact congrArg Message.bytes

open Source (linesOf)

/-- An opening, breaks, and perhaps more messages are read line by line. -/
theorem linesOf_told (e : Endpoint) (row : List UInt32) (more : List Message) :
    linesOf (e.opening.bytes ++ breakBytes row ++ more.flatMap Message.bytes) =
      (e.opening :: (row.map Message.breakAt ++ more)).map Message.bytes := by
  rw [← Message.linesOf_bytes]
  refine congrArg linesOf ?_
  rw [List.flatMap_cons, List.flatMap_append, List.flatMap_map, List.append_assoc]
  rfl

/-- The farewell is neither an opening nor a break, and its line shows this. -/
theorem finish_not_mem (e : Endpoint) (row : List UInt32) :
    Message.finish.bytes ∉ (e.opening :: row.map Message.breakAt).map Message.bytes := by
  intro hmem
  obtain ⟨m, hm, hbytes⟩ := List.mem_map.mp hmem
  rw [Message.bytes_inj.mp hbytes] at hm
  rcases List.mem_cons.mp hm with h | h
  · cases e <;> exact nomatch h
  · obtain ⟨line, -, h⟩ := List.mem_map.mp h
    exact nomatch h

/-- No line that the client was sent is the farewell. -/
theorem Told.unfinished (h : Told e row t) : Message.finish.bytes ∉ linesOf (sent t) := by
  have hlines := linesOf_told e row []
  rw [List.flatMap_nil, List.append_nil, List.append_nil] at hlines
  rw [h, hlines]
  exact finish_not_mem e row

/-- The farewell is a line of its own, and the only one. -/
theorem Dismissed.count (h : Dismissed e t) :
    (linesOf (sent t)).count Message.finish.bytes = 1 := by
  obtain ⟨row, hsent⟩ := h
  have hlines := linesOf_told e row [.finish]
  rw [List.flatMap_singleton, ← List.cons_append] at hlines
  rw [hsent, hlines, List.map_append, List.count_append,
    List.count_eq_zero.mpr (finish_not_mem e row), List.map_singleton, List.count_singleton_self]

end Lockstep.Controller
