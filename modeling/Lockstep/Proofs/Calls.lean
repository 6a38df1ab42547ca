import Lockstep.Controller.World
import Lockstep.Proofs.Delivery

/-!
# The calls of a receiver

A delivery makes writes until everything is taken, and a flush. `calls` lists them with what the
receiver answered to each. A sink counts its calls, and the list is as long as its counters say
(`count_calls`), so none is left out. A delivery that succeeds has no failed call, and in one that
fails the failed call is the last (`deliver_calls`).
-/

namespace Lockstep

/-- A call of a receiver with its answer. -/
inductive Call where
  | write (taken : Except SystemError Nat)
  | flush (result : Except SystemError Unit)

namespace Call

/-- A write that takes nothing of some bytes has failed too. -/
def failed : Call → Bool
  | .write (.error _) | .write (.ok 0) | .flush (.error _) => true
  | _ => false

def isWrite : Call → Bool
  | .write _ => true
  | .flush _ => false

/-- Calls of which none failed, or only the last. -/
def Stop (calls : List Call) : Except SystemError Unit → Prop
  | .ok () => ∀ c ∈ calls, c.failed = false
  | .error _ => ∃ before c, calls = before ++ [c] ∧ (∀ b ∈ before, b.failed = false) ∧
      c.failed = true

theorem Stop.append {calls later : List Call} {result : Except SystemError Unit}
    (h : Stop calls (.ok ())) (hlater : Stop later result) : Stop (calls ++ later) result := by
  cases result with
  | ok u => exact List.forall_mem_append.mpr ⟨h, hlater⟩
  | error cause =>
      obtain ⟨before, c, rfl, hbefore, hc⟩ := hlater
      exact ⟨calls ++ before, c, by simp, List.forall_mem_append.mpr ⟨h, hbefore⟩, hc⟩

/-- One failed call and nothing after it. -/
theorem Stop.failed {c : Call} (h : c.failed = true) (cause : SystemError) :
    Stop [c] (.error cause) := ⟨[], c, rfl, nofun, h⟩

/-- A failed call is the last one. -/
theorem Stop.last {calls : List Call} {result : Except SystemError Unit} (h : Stop calls result)
    {before after : List Call} {c : Call} (hcalls : calls = before ++ c :: after)
    (hc : c.failed = true) : after = [] := by
  cases result with
  | ok u =>
      have := h c (by rw [hcalls]; simp)
      rw [hc] at this
      exact nomatch this
  | error cause =>
      obtain ⟨good, bad, rfl, hgood, -⟩ := h
      cases hafter : after.reverse with
      | nil => simpa using hafter
      | cons d rest =>
          -- then the call would be one of those before the last
          obtain rfl : after = rest.reverse ++ [d] := by
            rw [← List.reverse_reverse after, hafter, List.reverse_cons]
          rw [← List.cons_append, ← List.append_assoc] at hcalls
          obtain ⟨hbefore, -⟩ := List.append_inj' hcalls rfl
          have := hgood c (by rw [hbefore]; simp)
          rw [hc] at this
          exact nomatch this

end Call

namespace Sink

/-- The writes of a buffer. -/
def writeCalls (s : Sink) (bytes : Bytes) : List Call :=
  match bytes with
  | [] => []
  | b :: rest =>
    match s.receiver.write s.calls s.taken (b :: rest).length with
    | .error cause => [.write (.error cause)]
    | .ok 0 => [.write (.ok 0)]
    | .ok (n + 1) =>
      .write (.ok (n + 1)) ::
        writeCalls { s with calls := s.calls + 1, taken := s.taken + (b :: rest.take n).length }
          (rest.drop n)
termination_by bytes.length

/-- The writes of buffers, one after another until one fails. -/
def writeEachCalls (s : Sink) : List Bytes → List Call
  | [] => []
  | buffer :: buffers =>
    match (s.writeAll buffer).1.outcome with
    | .error _ => s.writeCalls buffer
    | .ok () => s.writeCalls buffer ++ (s.writeAll buffer).2.writeEachCalls buffers

/-- The calls of a delivery. -/
def deliverCalls (s : Sink) (buffers : List Bytes) : List Call :=
  let written := (s.writeEach buffers).2
  match (s.writeEach buffers).1.outcome with
  | .error _ => s.writeEachCalls buffers
  | .ok () =>
    s.writeEachCalls buffers ++ [.flush (written.receiver.flush written.flushes written.taken)]

/-- The sink has counted the calls: from `s` they have led to `s'`. -/
structure Counted (s : Sink) (calls : List Call) (s' : Sink) : Prop where
  writes : s'.calls = s.calls + calls.countP Call.isWrite
  flushes : s'.flushes = s.flushes + calls.countP fun c => !c.isWrite

theorem Counted.append {s s' s'' : Sink} {calls later : List Call} (h : Counted s calls s')
    (hlater : Counted s' later s'') : Counted s (calls ++ later) s'' where
  writes := by rw [hlater.writes, h.writes, List.countP_append, Nat.add_assoc]
  flushes := by rw [hlater.flushes, h.flushes, List.countP_append, Nat.add_assoc]

theorem writeAll_calls (s : Sink) (bytes : Bytes) :
    Call.Stop (s.writeCalls bytes) (s.writeAll bytes).1.outcome ∧
      Counted s (s.writeCalls bytes) (s.writeAll bytes).2 := by
  fun_induction writeAll s bytes with
  | case1 s =>
      rw [writeCalls]
      exact ⟨List.forall_mem_nil _, rfl, rfl⟩
  | case2 s b rest offered cause hw =>
      rw [writeCalls, hw]
      exact ⟨.failed rfl cause, rfl, rfl⟩
  | case3 s b rest offered hw =>
      rw [writeCalls, hw]
      exact ⟨.failed rfl _, rfl, rfl⟩
  | case4 s b rest offered n hw piece delivery s' hrec ih =>
      rw [hrec] at ih
      rw [writeCalls, hw]
      -- this write, and then those of what is left
      have hone : Call.Stop [.write (.ok (n + 1))] (.ok ()) := by
        intro c hc
        rw [List.mem_singleton.mp hc]
        rfl
      have hcounted : Counted s [.write (.ok (n + 1))]
          { s with calls := s.calls + 1, taken := s.taken + piece.length } := ⟨rfl, rfl⟩
      exact ⟨hone.append ih.1, hcounted.append ih.2⟩

theorem writeEach_calls (s : Sink) (buffers : List Bytes) :
    Call.Stop (s.writeEachCalls buffers) (s.writeEach buffers).1.outcome ∧
      Counted s (s.writeEachCalls buffers) (s.writeEach buffers).2 := by
  induction buffers generalizing s with
  | nil => exact ⟨List.forall_mem_nil _, rfl, rfl⟩
  | cons buffer buffers ih =>
      obtain ⟨hstop, hcounted⟩ := writeAll_calls s buffer
      rw [writeEach, writeEachCalls]
      generalize s.writeAll buffer = r at hstop hcounted ⊢
      obtain ⟨⟨accepted, outcome⟩, s1⟩ := r
      cases outcome with
      | error cause => exact ⟨hstop, hcounted⟩
      | ok u =>
          obtain ⟨hstop', hcounted'⟩ := ih s1
          exact ⟨hstop.append hstop', hcounted.append hcounted'⟩

/-- **Of the calls of a delivery only the last can have failed,** and the sink has counted them. -/
theorem deliver_calls (s : Sink) (buffers : List Bytes) :
    Call.Stop (s.deliverCalls buffers) (s.deliver buffers).1.outcome ∧
      Counted s (s.deliverCalls buffers) (s.deliver buffers).2 := by
  obtain ⟨hstop, hcounted⟩ := writeEach_calls s buffers
  rw [deliver, deliverCalls]
  generalize s.writeEach buffers = r at hstop hcounted ⊢
  obtain ⟨⟨accepted, outcome⟩, s1⟩ := r
  cases outcome with
  | error cause => exact ⟨hstop, hcounted⟩
  | ok u =>
      dsimp only at hstop hcounted ⊢
      refine ⟨?_, hcounted.append ⟨rfl, rfl⟩⟩
      cases hflush : s1.receiver.flush s1.flushes s1.taken with
      | error cause => exact hstop.append (.failed rfl cause)
      | ok u =>
          have hone : Call.Stop [.flush (.ok ())] (.ok ()) := by
            intro c hc
            rw [List.mem_singleton.mp hc]
            rfl
          exact hstop.append hone

end Sink

/-! ## The calls of a run -/

namespace Controller

/-- The calls by which the client was sent what a trace sends, from this sink on. -/
def calls (s : Sink) : List Exchange → List Call
  | [] => []
  | ⟨.send m, _⟩ :: rest => s.deliverCalls [m.bytes] ++ calls (s.deliver [m.bytes]).2 rest
  | ⟨.flush, _⟩ :: rest => s.deliverCalls [] ++ calls (s.deliver []).2 rest
  | _ :: rest => calls s rest

/-- **The calls of a run are all that its sink has counted.** -/
theorem count_calls {η α : Type} (host : Host η) (d : Talk α) (w : World η) :
    Sink.Counted w.sink (calls w.sink (d.run (World.answer host) w).trace)
      (d.run (World.answer host) w).state.sink := by
  induction d generalizing w with
  | done a => exact ⟨rfl, rfl⟩
  | ask r next ih =>
      rw [Dialogue.run_ask]
      dsimp only
      have hrest := ih (World.answer host r w).1 (World.answer host r w).2
      cases r with
      | send m => exact (w.sink.deliver_calls [m.bytes]).2.append hrest
      | flush => exact (w.sink.deliver_calls []).2.append hrest
      | _ => exact hrest

end Controller

end Lockstep
