import Lockstep.Proofs.MessageText
import Lockstep.Proofs.Shape

/-!
# Replies

A line of the client either says a message or does not, and then there is one reason for it: the
line is not whole, it is not text, or its text is no message. These are relations between lines
and what the session makes of them, and `hear` is their function.
-/

namespace Lockstep

/-- The line is whole, and its text spells this message. -/
def Line.Says (line : Bytes) (m : Message) : Prop :=
  line.getLast? = some lineFeed ∧ ∃ text, Utf8.decode line = .ok text ∧ Message.decode text = .ok m

/-- The line says nothing, and this is why. -/
inductive Line.Fails (line : Bytes) : SessionError → Prop
  | unfinished : line.getLast? ≠ some lineFeed → Fails line .closed
  | notText {flaw : Utf8.Flaw} : line.getLast? = some lineFeed → Utf8.decode line = .error flaw →
      Fails line (.malformedLine (Utf8.decodeLossy line) flaw.message)
  | noMessage {text : List Char} {shown reason : String} : line.getLast? = some lineFeed →
      Utf8.decode line = .ok text → Message.decode text = .error (.malformed shown reason) →
      Fails line (.malformed shown reason)

namespace Message

/-- A text that spells no message is malformed, and nothing else. -/
theorem decode_error {text : List Char} {failure : SessionError}
    (h : decode text = .error failure) : ∃ shown reason, failure = .malformed shown reason := by
  unfold decode at h
  dsimp only at h
  split at h
  · exact absurd h (by simp)
  · cases h
    exact ⟨_, _, rfl⟩

end Message

open Line (Says Fails)

theorem hear_spoken {line : Bytes} {m : Message} (h : Says line m) : hear (.ok line) = .ok m := by
  obtain ⟨hwhole, text, htext, hm⟩ := h
  rw [hear, Line.ofBytes, if_pos hwhole, htext]
  exact hm

theorem hear_fails {line : Bytes} {failure : SessionError} (h : Fails line failure) :
    hear (.ok line) = .error failure := by
  cases h with
  | unfinished h =>
      rw [hear, Line.ofBytes, if_neg h]
      rfl
  | notText h htext =>
      rw [hear, Line.ofBytes, if_pos h, htext]
      rfl
  | noMessage h htext hm =>
      rw [hear, Line.ofBytes, if_pos h, htext]
      exact hm

/-- **Every line says one message or fails for one reason.** -/
theorem says_or_fails (line : Bytes) :
    (∃ m, Says line m) ∨ ∃ failure, Fails line failure := by
  -- the tests come in the order in which a line is read, so one reason excludes the later ones
  by_cases hwhole : line.getLast? = some lineFeed
  · cases htext : Utf8.decode line with
    | error flaw => exact .inr ⟨_, .notText hwhole htext⟩
    | ok text =>
        cases hm : Message.decode text with
        | ok m => exact .inl ⟨m, hwhole, text, htext, hm⟩
        | error failure =>
            obtain ⟨shown, reason, rfl⟩ := Message.decode_error hm
            exact .inr ⟨_, .noMessage hwhole htext hm⟩
  · exact .inr ⟨_, .unfinished hwhole⟩

theorem hear_eq_ok {line : Bytes} {m : Message} : hear (.ok line) = .ok m ↔ Says line m := by
  refine ⟨?_, hear_spoken⟩
  intro h
  rcases says_or_fails line with ⟨m', hm'⟩ | ⟨failure, hf⟩
  · rw [hear_spoken hm'] at h
    cases h
    exact hm'
  · rw [hear_fails hf] at h
    exact absurd h (by simp)

/-- A line says one message at most. -/
theorem says_iff {line : Bytes} {m m' : Message} (h : Says line m) : Says line m' ↔ m = m' := by
  constructor
  · intro h'
    have := (hear_spoken h).symm.trans (hear_spoken h')
    exact Except.ok.inj this
  · intro e
    rw [← e]
    exact h

/-- The bytes of a message say it. -/
theorem Message.says_bytes (m : Message) : Says m.bytes m :=
  ⟨m.getLast?_bytes, m.encode, Utf8.decode_encode _, m.decode_encode⟩

theorem hear_bytes (m : Message) : hear (.ok m.bytes) = .ok m := hear_spoken m.says_bytes

/-! ## The greeting and the answer to a break -/

/-- How a first line that is no greeting ends the session. -/
inductive Line.FailsGreeting (line : Bytes) : SessionError → Prop
  | nothing {failure : SessionError} :
      Fails line failure → FailsGreeting line (.handshakeFailed failure.message)
  | other {m : Message} : Says line m → m ≠ .clientInit →
      FailsGreeting line (.handshakeFailed s!"expected 'clientinit', received '{m.kind.name}'")

/-- How a reply to a break that does not let the target go on ends the session. -/
inductive Line.FailsResume (line : Bytes) : SessionError → Prop
  | nothing {failure : SessionError} : Fails line failure → FailsResume line failure
  | other {m : Message} : Says line m → m ≠ .resume →
      FailsResume line (.violation .resume m.kind.name)

open Line (FailsGreeting FailsResume)

/-- Only the wanted message lets the session go on. -/
theorem heed_eq_ok {wanted : Message} {other : Message.Kind → SessionError}
    {nothing : SessionError → SessionError} {line : Bytes} :
    heed wanted other nothing (hear (.ok line)) = .ok () ↔ Says line wanted := by
  rcases says_or_fails line with ⟨m, hm⟩ | ⟨cause, hf⟩
  · rw [hear_spoken hm, says_iff hm, heed]
    by_cases h : m = wanted
    · rw [if_pos h]
      exact ⟨fun _ => h, fun _ => rfl⟩
    · rw [if_neg h]
      exact ⟨nofun, fun e => absurd e h⟩
  · -- a line that fails says no message, so not the wanted one either
    rw [hear_fails hf, ← hear_eq_ok, hear_fails hf, heed]
    simp

theorem heed_eq_error {wanted : Message} {other : Message.Kind → SessionError}
    {nothing : SessionError → SessionError} {line : Bytes} {failure : SessionError}
    (h : heed wanted other nothing (hear (.ok line)) = .error failure) :
    (∃ cause, Fails line cause ∧ failure = nothing cause) ∨
      ∃ m, Says line m ∧ m ≠ wanted ∧ failure = other m.kind := by
  rcases says_or_fails line with ⟨m, hm⟩ | ⟨cause, hf⟩
  · rw [hear_spoken hm, heed] at h
    split at h
    · exact absurd h (by simp)
    · rename_i hne
      cases h
      exact .inr ⟨m, hm, hne, rfl⟩
  · rw [hear_fails hf, heed] at h
    cases h
    exact .inl ⟨cause, hf, rfl⟩

theorem greetingResult_eq_ok {line : Bytes} :
    greetingResult (hear (.ok line)) = .ok () ↔ Says line .clientInit := heed_eq_ok

theorem resumeResult_eq_ok {line : Bytes} :
    resumeResult (hear (.ok line)) = .ok () ↔ Says line .resume := heed_eq_ok

theorem failsGreeting_of_error {line : Bytes} {failure : SessionError}
    (h : greetingResult (hear (.ok line)) = .error failure) : FailsGreeting line failure := by
  rcases heed_eq_error h with ⟨cause, hf, rfl⟩ | ⟨m, hm, hne, rfl⟩
  · exact .nothing hf
  · exact .other hm hne

theorem failsResume_of_error {line : Bytes} {failure : SessionError}
    (h : resumeResult (hear (.ok line)) = .error failure) : FailsResume line failure := by
  rcases heed_eq_error h with ⟨cause, hf, rfl⟩ | ⟨m, hm, hne, rfl⟩
  · exact .nothing hf
  · exact .other hm hne

end Lockstep
