import Lockstep.Wire.Sink

/-!
# What a delivery gets to its receiver

Any receiver gets what was to be delivered up to where it failed, and everything if it did not
fail. A receiver that takes at least one byte of whatever it is offered gets everything in the end,
in pieces that may be as short as it likes. What it was given in all is what was delivered, and it
stays a receiver of this kind.
-/

namespace Lockstep

/-- The receiver got some of the bytes, from the first one on, and all if nothing failed. -/
structure Delivery.Conveys (d : Delivery) (bytes : Bytes) : Prop where
  part : d.accepted.flatten <+: bytes
  whole : d.outcome = .ok () → d.accepted.flatten = bytes

namespace Sink

theorem writeAll_conveys (s : Sink) (bytes : Bytes) : (s.writeAll bytes).1.Conveys bytes := by
  fun_induction writeAll s bytes with
  | case1 s => exact ⟨List.nil_prefix, fun _ => rfl⟩
  | case2 s b rest offered cause hw => exact ⟨List.nil_prefix, nofun⟩
  | case3 s b rest offered hw => exact ⟨List.nil_prefix, nofun⟩
  | case4 s b rest offered n hw piece delivery s' hrec ih =>
      have hsplit : b :: rest = piece ++ rest.drop n :=
        congrArg (b :: ·) (List.take_append_drop n rest).symm
      rw [hrec] at ih
      rw [hsplit]
      refine ⟨?_, ?_⟩
      · exact (List.prefix_append_right_inj piece).mpr ih.part
      · intro hok
        exact congrArg (piece ++ ·) (ih.whole hok)

theorem writeEach_conveys (s : Sink) (buffers : List Bytes) :
    (s.writeEach buffers).1.Conveys buffers.flatten := by
  induction buffers generalizing s with
  | nil => exact ⟨List.nil_prefix, fun _ => rfl⟩
  | cons buffer buffers ih =>
      have h1 := writeAll_conveys s buffer
      rw [writeEach, List.flatten_cons]
      generalize s.writeAll buffer = r at h1
      obtain ⟨⟨accepted, outcome⟩, s1⟩ := r
      cases outcome with
      | error cause => exact ⟨h1.part.trans (List.prefix_append _ _), nofun⟩
      | ok u =>
          have hbuffer : accepted.flatten = buffer := h1.whole rfl
          have h2 := ih s1
          refine ⟨?_, ?_⟩
          · show (accepted ++ _).flatten <+: _
            rw [List.flatten_append, hbuffer]
            exact (List.prefix_append_right_inj buffer).mpr h2.part
          · intro hok
            show (accepted ++ _).flatten = _
            rw [List.flatten_append, hbuffer, h2.whole hok]

/-- **A delivery never gets other bytes to its receiver** than those that were to be delivered. -/
theorem deliver_conveys (s : Sink) (buffers : List Bytes) :
    (s.deliver buffers).1.Conveys buffers.flatten := by
  have h := writeEach_conveys s buffers
  rw [deliver]
  generalize s.writeEach buffers = r at h
  obtain ⟨⟨accepted, outcome⟩, s1⟩ := r
  cases outcome with
  | error cause => exact ⟨h.part, nofun⟩
  | ok u => exact ⟨h.part, fun _ => h.whole rfl⟩

/-- The delivery of a single buffer, as a message is sent. -/
theorem deliver_one_conveys (s : Sink) (bytes : Bytes) : (s.deliver [bytes]).1.Conveys bytes := by
  have h := deliver_conveys s [bytes]
  rwa [List.flatten_singleton] at h

end Sink

/-! ## Receivers that never fail -/

/-- A receiver that always takes something and never fails. -/
structure Receiver.Obliging (r : Receiver) : Prop where
  write : ∀ calls taken offered, 0 < offered →
    ∃ n, n < offered ∧ r.write calls taken offered = .ok (n + 1)
  flush : ∀ flushes taken, r.flush flushes taken = .ok ()

theorem Receiver.willing_obliging : Receiver.willing.Obliging where
  write := by
    intro calls taken offered h
    exact ⟨offered - 1, by omega, by rw [Nat.sub_add_cancel h]; rfl⟩
  flush := fun _ _ => rfl

namespace Sink

/-- Everything was delivered, and the receiver is the one it was. -/
structure Took (s : Sink) (bytes : Bytes) (r : Delivery × Sink) : Prop where
  outcome : r.1.outcome = .ok ()
  accepted : r.1.accepted.flatten = bytes
  receiver : r.2.receiver = s.receiver

theorem writeAll_obliging {s : Sink} (h : s.receiver.Obliging) (bytes : Bytes) :
    Took s bytes (s.writeAll bytes) := by
  -- the two failures of a write cannot come, and a write of some bytes leaves fewer to write
  fun_induction writeAll s bytes with
  | case1 s => exact ⟨rfl, rfl, rfl⟩
  | case2 s b rest offered cause hw =>
      obtain ⟨n, _, hn⟩ := h.write s.calls s.taken offered (Nat.succ_pos _)
      rw [hn] at hw
      exact absurd hw (by simp)
  | case3 s b rest offered hw =>
      obtain ⟨n, _, hn⟩ := h.write s.calls s.taken offered (Nat.succ_pos _)
      rw [hn] at hw
      exact absurd hw (by simp)
  | case4 s b rest offered n hw piece delivery s' hrec ih =>
      have hrest := ih h
      rw [hrec] at hrest
      refine ⟨hrest.outcome, ?_, hrest.receiver⟩
      show piece ++ delivery.accepted.flatten = b :: rest
      rw [hrest.accepted]
      show b :: (rest.take n ++ rest.drop n) = b :: rest
      rw [List.take_append_drop]

theorem writeEach_obliging {s : Sink} (h : s.receiver.Obliging) (buffers : List Bytes) :
    Took s buffers.flatten (s.writeEach buffers) := by
  induction buffers generalizing s with
  | nil => exact ⟨rfl, rfl, rfl⟩
  | cons buffer buffers ih =>
      have h1 := writeAll_obliging h buffer
      rw [writeEach]
      generalize s.writeAll buffer = r at h1
      obtain ⟨⟨accepted, outcome⟩, s1⟩ := r
      obtain ⟨rfl, haccepted, hreceiver⟩ := h1
      have h2 := ih (s := s1) (by rw [hreceiver]; exact h)
      refine ⟨h2.outcome, ?_, h2.receiver.trans hreceiver⟩
      show (accepted ++ _).flatten = _
      rw [List.flatten_append, haccepted, h2.accepted, List.flatten_cons]

/-- **Delivering to such a receiver succeeds** and gets all the bytes to it. -/
theorem deliver_obliging {s : Sink} (h : s.receiver.Obliging) (buffers : List Bytes) :
    Took s buffers.flatten (s.deliver buffers) := by
  have h1 := writeEach_obliging h buffers
  rw [deliver]
  generalize s.writeEach buffers = r at h1
  obtain ⟨⟨accepted, outcome⟩, s1⟩ := r
  obtain ⟨rfl, haccepted, hreceiver⟩ := h1
  refine ⟨?_, haccepted, hreceiver⟩
  show s1.receiver.flush s1.flushes s1.taken = .ok ()
  rw [hreceiver]
  exact h.flush _ _

end Sink

end Lockstep
