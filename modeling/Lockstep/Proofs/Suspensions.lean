import Lockstep.Proofs.Framing
import Lockstep.Proofs.Reply

/-!
# A row of suspensions

At each stop the target waits for one line of the client, and goes on to the next stop if that
line says so. `walk` is this and nothing else: stops and a source in, the suspensions that come
about and their result out. What a whole session does is later stated through it, so everything
that depends on which reply is the first bad one is proved here, about `walk`.
-/

namespace Lockstep

/-- One suspension of the target. -/
structure Suspension where
  line : UInt32
  /-- What the wait for the client's answer ended with. -/
  reply : Except SystemError Bytes

/-- What comes of a row of suspensions. -/
structure Walk where
  suspensions : List Suspension
  result : Except SessionError Unit
  /-- What the client sent and nobody read. -/
  source : Source

/-- Suspends the target at stops, one after another, until a reply does not let it go on. -/
def walk : List UInt32 → Source → Walk
  | [], s => ⟨[], .ok (), s⟩
  | line :: rest, s =>
    let reply := (s.readLine).1
    match resumeResult (hear reply) with
    | .ok () =>
      let later := walk rest (s.readLine).2
      ⟨⟨line, reply⟩ :: later.suspensions, later.result, later.source⟩
    | .error failure => ⟨[⟨line, reply⟩], .error failure, (s.readLine).2⟩

theorem walk_cons_ok {line : UInt32} {rest : List UInt32} {s : Source}
    (h : resumeResult (hear (s.readLine).1) = .ok ()) :
    walk (line :: rest) s =
      ⟨⟨line, (s.readLine).1⟩ :: (walk rest (s.readLine).2).suspensions,
        (walk rest (s.readLine).2).result, (walk rest (s.readLine).2).source⟩ := by
  rw [walk]
  dsimp only
  rw [h]

theorem walk_cons_error {line : UInt32} {rest : List UInt32} {s : Source} {failure : SessionError}
    (h : resumeResult (hear (s.readLine).1) = .error failure) :
    walk (line :: rest) s =
      ⟨[⟨line, (s.readLine).1⟩], .error failure, (s.readLine).2⟩ := by
  rw [walk]
  dsimp only
  rw [h]

open Line (Says FailsResume)
open Source (lineAt lineAt_tail)

/-! ## Which replies come from the lines that arrive -/

/-- **All stops are passed if and only if** each of the next lines says so. -/
theorem walk_eq_ok (row : List UInt32) {s : Source} {lines : List Bytes}
    (hs : s.Supplies lines) :
    (walk row s).result = .ok () ↔ ∀ k, k < row.length → Says (lineAt lines k) .resume := by
  induction row generalizing s lines with
  | nil => exact ⟨fun _ k hk => absurd hk (Nat.not_lt_zero k), fun _ => rfl⟩
  | cons line rest ih =>
      obtain ⟨hread, hrest⟩ := hs.readLine
      cases hfirst : resumeResult (hear (s.readLine).1) with
      | error failure =>
          have hno : ¬ Says (lineAt lines 0) .resume := by
            rw [← resumeResult_eq_ok, ← hread, hfirst]
            simp
          rw [walk_cons_error hfirst]
          exact ⟨fun h => absurd h (by simp), fun h => absurd (h 0 (Nat.succ_pos _)) hno⟩
      | ok u =>
          have hyes : Says (lineAt lines 0) .resume := by
            rw [← resumeResult_eq_ok, ← hread, hfirst]
          rw [walk_cons_ok hfirst]
          -- the later stops are answered by the later lines, one place further on
          refine (ih hrest).trans ⟨?_, ?_⟩
          · intro h k hk
            cases k with
            | zero => exact hyes
            | succ k =>
                rw [← lineAt_tail]
                exact h k (Nat.lt_of_succ_lt_succ hk)
          · intro h k hk
            rw [lineAt_tail]
            exact h (k + 1) (Nat.succ_lt_succ hk)

/-- A walk that passes all stops was suspended at each of them. -/
theorem walk_lines {row : List UInt32} {s : Source} (h : (walk row s).result = .ok ()) :
    (walk row s).suspensions.map (·.line) = row := by
  induction row generalizing s with
  | nil => rfl
  | cons line rest ih =>
      cases hfirst : resumeResult (hear (s.readLine).1) with
      | error failure =>
          rw [walk_cons_error hfirst] at h
          exact absurd h (by simp)
      | ok u =>
          rw [walk_cons_ok hfirst] at h ⊢
          exact congrArg (line :: ·) (ih h)

/-- **The first line that does not say so ends the walk** at its stop. -/
theorem walk_refused {row : List UInt32} {s : Source} {lines : List Bytes} {k : Nat}
    (hs : s.Supplies lines) (hk : k < row.length)
    (hbefore : ∀ j, j < k → Says (lineAt lines j) .resume) (h : ¬ Says (lineAt lines k) .resume) :
    ∃ failure, FailsResume (lineAt lines k) failure ∧ (walk row s).result = .error failure ∧
      (walk row s).suspensions.map (·.line) = row.take (k + 1) := by
  induction row generalizing s lines k with
  | nil => exact absurd hk (Nat.not_lt_zero k)
  | cons line rest ih =>
      obtain ⟨hread, hrest⟩ := hs.readLine
      -- the refusal is the answer to this stop, or to one of those after it
      cases k with
      | zero =>
          cases hfirst : resumeResult (hear (s.readLine).1) with
          | ok u =>
              rw [hread] at hfirst
              exact absurd (resumeResult_eq_ok.mp hfirst) h
          | error failure =>
              rw [walk_cons_error hfirst]
              rw [hread] at hfirst
              exact ⟨failure, failsResume_of_error hfirst, rfl, rfl⟩
      | succ k =>
          have hfirst : resumeResult (hear (s.readLine).1) = .ok () := by
            rw [hread, resumeResult_eq_ok]
            exact hbefore 0 (Nat.succ_pos k)
          rw [← lineAt_tail] at h ⊢
          obtain ⟨failure, hfailure, hresult, hlines⟩ :=
            ih hrest (Nat.lt_of_succ_lt_succ hk) (fun j hj => by
              rw [lineAt_tail]
              exact hbefore (j + 1) (Nat.succ_lt_succ hj)) h
          rw [walk_cons_ok hfirst]
          exact ⟨failure, hfailure, hresult, congrArg (line :: ·) hlines⟩

end Lockstep
