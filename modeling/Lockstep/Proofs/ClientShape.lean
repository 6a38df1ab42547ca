import Lockstep.Client.Steps
import Lockstep.Proofs.MessageText

/-!
# The shape of a client

What each action of a client asks for, and how it goes on with the reply, written out as a tree of
requests.
-/

namespace Lockstep.Client

open Dialogue (done_bind ask_bind ask_congr)

/-- What the client makes of the reply to a wait for a line. -/
def hearing : Except SystemError Bytes → Except ClientError Message
  | .error cause => .error (.io cause)
  | .ok bytes => readMessage bytes

theorem hearing_bytes (m : Message) : hearing (.ok m.bytes) = .ok m := m.readMessage_bytes

theorem send_run (m : Message) :
    (send m).run = .ask (.send m) fun d => .done (d.outcome.mapError .io) := by
  unfold send
  refine ask_congr ?_
  intro d
  show ExceptT.run (orFail d.outcome) = _
  cases d.outcome <;> rfl

theorem receive_run : receive.run = .ask .receive fun reply => .done (hearing reply) := by
  unfold receive
  refine ask_congr ?_
  intro reply
  show ExceptT.run (orFail reply >>= fun bytes => MonadExcept.ofExcept (readMessage bytes)) = _
  cases reply with
  | error cause => rfl
  | ok bytes =>
      show ExceptT.run (MonadExcept.ofExcept (readMessage bytes)) = _
      rw [hearing]
      cases readMessage bytes <;> rfl

/-- A client that is greeted answers, and anything else ends it. -/
theorem greet_run :
    greet.run = .ask .receive fun reply =>
      match hearing reply with
      | .ok (.serverInit _ _) => (send .clientInit).run
      | .ok other => .done (.error (.unexpected "serverinit" other.kind))
      | .error failure => .done (.error failure) := by
  unfold greet
  rw [ExceptT.run_bind, receive_run, ask_bind]
  refine ask_congr ?_
  intro reply
  rw [done_bind]
  cases hearing reply with
  | error failure => rfl
  | ok m => cases m <;> rfl

/-- What a client does with what came of the rest of its journey, when it went on from a line. -/
def arrive (line : UInt32) :
    Except ClientError Journey → Talk (Except ClientError Journey)
  | .ok journey => .done (.ok { journey with lines := line :: journey.lines })
  | .error failure => .done (.error failure)

/-- A client that goes on resumes at a break, is done at the end, and gives up at anything else. -/
theorem runToFinish_run (bound : Nat) :
    (runToFinish (bound + 1)).run = .ask .receive fun reply =>
      match hearing reply with
      | .ok (.breakAt line) => .ask (.send .resume) fun d =>
        match d.outcome with
        | .ok () => (runToFinish bound).run >>= arrive line
        | .error cause => .done (.error (.io cause))
      | .ok .finish => .done (.ok ⟨[], true⟩)
      | .ok other => .done (.error (.unexpected "break or finish" other.kind))
      | .error failure => .done (.error failure) := by
  rw [runToFinish, ExceptT.run_bind, nextEvent, ExceptT.run_bind, receive_run, ask_bind, ask_bind]
  refine ask_congr ?_
  intro reply
  rw [done_bind]
  cases hearing reply with
  | error failure => rfl
  | ok m =>
      cases m with
      | breakAt line =>
          show ExceptT.run (resume >>= fun _ => runToFinish bound >>= _) = _
          rw [ExceptT.run_bind, resume, send_run, ask_bind]
          refine ask_congr ?_
          intro d
          rw [done_bind]
          cases d.outcome with
          | error cause => rfl
          | ok u =>
              show ExceptT.run (runToFinish bound >>= _) = _
              rw [ExceptT.run_bind]
              refine bind_congr ?_
              intro result
              cases result <;> rfl
      | _ => rfl

/-! ## Before the eyes of a user -/

/-- What the user is shown of a break. -/
def stopText (line : UInt32) : String := s!"break at line {line.toNat}"

/-- What the user is shown of the end. -/
def endText : String := "finished"

/-- What the user's next line does to a client that is stopped. -/
def consent (line : UInt32) : Except SystemError Bytes → Except ClientError Unit
  | .error cause => .error (.io cause)
  | .ok [] => .error (.unattended line)
  | .ok (b :: bytes) => if (Utf8.decode? (b :: bytes)).isSome then .ok () else .error .notText

theorem awaitUser_run (line : UInt32) :
    (awaitUser line).run = .ask .prompt fun reply => .done (consent line reply) := by
  unfold awaitUser
  refine ask_congr ?_
  intro reply
  cases reply with
  | error cause => rfl
  | ok bytes =>
      cases bytes with
      | nil => rfl
      | cons b bytes =>
          have hline : (b :: bytes).isEmpty = false := rfl
          show ExceptT.run (if (b :: bytes).isEmpty then throw (ClientError.unattended line) else
            if (Utf8.decode? (b :: bytes)).isNone then throw ClientError.notText else pure ()) = _
          rw [consent, hline, if_neg Bool.false_ne_true]
          cases Utf8.decode? (b :: bytes) <;> rfl

/-- A break is answered, and then the client goes on. -/
def goOn (auto : Bool) (bound : Nat) : Talk (Except ClientError Unit) :=
  .ask (.send .resume) fun d =>
    match d.outcome with
    | .ok () => (present auto bound).run
    | .error cause => .done (.error (.io cause))

/-- What the client does at a break that the user has been shown. -/
def stand (auto : Bool) (bound : Nat) (line : UInt32) : Talk (Except ClientError Unit) :=
  if auto then goOn auto bound
  else .ask .prompt fun reply =>
    match consent line reply with
    | .ok () => goOn auto bound
    | .error failure => .done (.error failure)

theorem resume_present_run (auto : Bool) (bound : Nat) :
    (do resume; present auto bound : Action Unit).run = goOn auto bound := by
  rw [ExceptT.run_bind, resume, send_run, ask_bind]
  refine ask_congr ?_
  intro d
  rw [done_bind]
  cases d.outcome <;> rfl

/-- **The user is shown each break and the end,** and goes on from a break unless that is done for
them. -/
theorem present_run (auto : Bool) (bound : Nat) :
    (present auto (bound + 1)).run = .ask .receive fun reply =>
      match hearing reply with
      | .ok (.breakAt line) => .ask (.print (stopText line)) fun _ => stand auto bound line
      | .ok .finish => .ask (.print endText) fun _ => .done (.ok ())
      | .ok other => .done (.error (.unexpected "break or finish" other.kind))
      | .error failure => .done (.error failure) := by
  rw [present, ExceptT.run_bind, nextEvent, ExceptT.run_bind, receive_run, ask_bind, ask_bind]
  refine ask_congr ?_
  intro reply
  rw [done_bind]
  cases hearing reply with
  | error failure => rfl
  | ok m =>
      cases m with
      | breakAt line =>
          refine ask_congr ?_
          intro _
          rw [stand]
          cases auto with
          | true => exact resume_present_run true bound
          | false =>
              show ExceptT.run (awaitUser line >>= fun _ => _) = _
              rw [ExceptT.run_bind, awaitUser_run, ask_bind]
              refine ask_congr ?_
              intro reply
              rw [done_bind]
              cases consent line reply with
              | error failure => rfl
              | ok u => exact resume_present_run false bound
      | _ => rfl

end Lockstep.Client
