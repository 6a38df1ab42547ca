import Lockstep.Proofs.Delivery
import Lockstep.Proofs.Reading

/-!
# Operations keep to the lines

An endpoint is used in operations: sending, waiting for a line, greeting, suspending, closing. An
operation that fails says so, and the endpoint may be used again. Whatever is done with it, and
whatever fails, its input is consumed line by line: each operation waits for one line or for none,
and what comes of it depends on that line alone. So an operation never finds the end of a line that
another one had begun.

This holds of every reply that can come, and is proved of the operations before there is any input
(`Operation.act_ends`). The input comes in with `run_supplies`, which holds of any dialogue: the
lines it waits for are the first lines of the input, in order.
-/

namespace Lockstep

open Controller
open Source (linesOf lineAt lineAt_tail)

variable {η α : Type}

/-- One use of an endpoint. -/
inductive Operation where
  | send (m : Message)
  | receive
  | greet
  | suspend (delay : Option Nat) (line : UInt32)
  | close
  deriving Repr, DecidableEq

namespace Controller

/-- A message was delivered. -/
def Exchange.isDelivered : Exchange → Bool
  | ⟨.send _, d⟩ => d.outcome.isOk
  | _ => false

/-- **Any run consumes the first lines of its input,** one after another, and no part of another. -/
theorem run_supplies (host : Host η) (d : Talk α) {w : World η} {lines : List Bytes}
    (hw : w.source.Supplies lines) :
    let o := d.run (World.answer host) w
    o.state.source.Supplies (lines.drop (consumed o.trace).length) ∧
      ∀ (k : Nat) (x : Exchange), (consumed o.trace)[k]? = some x →
        x = ⟨.receive, .ok (lineAt lines k)⟩ := by
  induction d generalizing w lines with
  | done a => exact ⟨hw, nofun⟩
  | ask r next ih =>
      rw [Dialogue.run_ask]
      dsimp only
      by_cases hr : r = .receive
      · subst hr
        obtain ⟨hread, hleft⟩ := hw.readLine
        obtain ⟨hsupplies, hlines⟩ :=
          ih (World.answer host .receive w).1 (w := (World.answer host .receive w).2) hleft
        rw [consumed, List.filter_cons_of_pos rfl, List.length_cons, ← List.drop_tail]
        refine ⟨hsupplies, ?_⟩
        intro k x hx
        cases k with
        | zero =>
            obtain rfl := Option.some.inj hx
            exact congrArg _ hread
        | succ k =>
            rw [← lineAt_tail]
            exact hlines k x hx
      · obtain ⟨hsource, -⟩ := answer_source host w w.source hr
        have hnone : Exchange.isReceive ⟨r, (World.answer host r w).1⟩ = false := by
          cases r <;> first | rfl | exact absurd rfl hr
        rw [consumed, List.filter_cons_of_neg (by rw [hnone]; decide)]
        refine ih _ (w := (World.answer host r w).2) ?_
        rw [hsource]
        exact hw

end Controller

/-! ## One operation -/

namespace Operation

/-- What an operation gives when it succeeds: a line that is waited for, or nothing. -/
abbrev Result : Operation → Type
  | .receive => List Char
  | .send _ | .greet | .suspend _ _ | .close => Unit

/-- An operation at an endpoint. -/
def act (e : Endpoint) : (op : Operation) → Talk (Except SessionError op.Result)
  | .send m => (Endpoint.send m).run
  | .receive => e.receive.run
  | .greet => e.greet.run
  | .suspend delay line => (e.suspend delay line).run
  | .close => e.close.run

/-- Whether an operation with this trace consumes a line: a wait for a line does, and a greeting or
a suspension does if its message was delivered. -/
def consumes (t : List Exchange) : Operation → Bool
  | .receive => true
  | .greet | .suspend _ _ => t.any Exchange.isDelivered
  | .send _ | .close => false

/-- What an operation makes of the reply to its wait for a line. -/
def onReply : (op : Operation) → Except SystemError Bytes → Except SessionError op.Result
  | .receive, .ok line => Line.ofBytes line
  | .receive, .error cause => .error (.io cause)
  | .greet, reply => greetingResult (hear reply)
  | .suspend _ _, reply => resumeResult (hear reply)
  | .send _, _ | .close, _ => .ok ()

/-- An operation waits for one line, on which its result depends, or for none. -/
structure Took (op : Operation) (result : Except SessionError op.Result) (t : List Exchange) :
    Prop where
  line : op.consumes t = true →
    ∃ reply, consumed t = [⟨.receive, reply⟩] ∧ result = op.onReply reply
  nothing : op.consumes t = false → consumed t = []

theorem Took.of_line {op : Operation} {result : Except SessionError op.Result}
    {t : List Exchange} {reply : Except SystemError Bytes} (hop : op.consumes t = true)
    (ht : consumed t = [⟨.receive, reply⟩]) (hresult : result = op.onReply reply) :
    op.Took result t :=
  ⟨fun _ => ⟨reply, ht, hresult⟩, fun h => absurd (hop.symm.trans h) (by decide)⟩

theorem Took.of_nothing {op : Operation} {result : Except SessionError op.Result}
    {t : List Exchange} (hop : op.consumes t = false) (ht : consumed t = []) :
    op.Took result t :=
  ⟨fun h => absurd (hop.symm.trans h) (by decide), fun _ => ht⟩

end Operation

variable {e : Endpoint}

theorem Endpoint.receive_run (he : e.hasPeer = true) :
    e.receive.run =
      .ask .receive fun reply => .done (Operation.onReply .receive reply) := by
  unfold receive
  rw [if_pos he]
  simp only [ExceptT.run_bind, ExceptT.run_liftM, Controller.ask, Dialogue.map_ask,
    Dialogue.map_done, Dialogue.ask_bind, Dialogue.done_bind, run_orFail, run_ofExcept]
  refine Dialogue.ask_congr ?_
  intro reply
  cases reply <;> rfl

namespace Operation

/-- **Whatever it is answered with, an operation waits for one line or for none,** and if it waits
for one, its result is what it makes of that line. -/
theorem act_ends (he : e.hasPeer = true) (op : Operation) :
    (op.act e).Ends (fun _ => True) op.Took [] := by
  cases op with
  | send m =>
      show (Endpoint.send m).run.Ends _ _ _
      rw [Endpoint.send_run]
      exact .ask fun _ _ => .of_nothing rfl rfl
  | receive =>
      show e.receive.run.Ends _ _ _
      rw [Endpoint.receive_run he]
      exact .ask fun _ _ => .of_line rfl rfl rfl
  | greet =>
      show e.greet.run.Ends _ _ _
      rw [Endpoint.greet_run he]
      refine .ask ?_
      rintro ⟨accepted, outcome⟩ -
      cases outcome with
      | error cause => exact .of_nothing rfl rfl
      | ok u =>
          dsimp only
          rw [Endpoint.awaitGreeting_run he]
          refine .ask fun reply _ => ?_
          cases hreply : greetingResult (hear reply) with
          | ok u => exact .ask fun _ _ => .of_line rfl rfl hreply.symm
          | error failure => exact .of_line rfl rfl hreply.symm
  | suspend delay line =>
      show (e.suspend delay line).run.Ends _ _ _
      rw [Endpoint.suspend_run he]
      refine .ask fun _ _ => .ask ?_
      rintro ⟨accepted, outcome⟩ -
      cases outcome with
      | error cause => exact .of_nothing rfl rfl
      | ok u =>
          refine .ask fun reply _ => ?_
          cases hreply : resumeResult (hear reply) with
          | error failure => exact .of_line rfl rfl hreply.symm
          | ok u =>
              cases delay with
              | none => exact .ask fun _ _ => .of_line rfl rfl hreply.symm
              | some milliseconds =>
                  exact .ask fun _ _ => .ask fun _ _ => .of_line rfl rfl hreply.symm
  | close =>
      show e.close.run.Ends _ _ _
      rw [Endpoint.close_run]
      refine .ask ?_
      rintro ⟨accepted, outcome⟩ -
      cases outcome with
      | error cause => exact .of_nothing rfl rfl
      | ok u =>
          cases e with
          | socket host port => exact .ask fun _ _ => .of_nothing rfl rfl
          | _ => exact .of_nothing rfl rfl

end Operation

/-! ## Operations one after another -/

/-- An operation with what came of it. -/
structure Round (η : Type) where
  op : Operation
  outcome : Dialogue.Outcome Controller.interface (World η) (Except SessionError op.Result)

namespace Round

/-- Whether the operation consumed a line. -/
def consumes (x : Round η) : Bool := x.op.consumes x.outcome.trace

/-- The line that an operation takes off the input, or none. -/
def width (x : Round η) : Nat := if x.consumes then 1 else 0

end Round

/-- The operation was done when `m` lines of the input had been consumed. -/
structure InStep (lines : List Bytes) (m : Nat) (x : Round η) : Prop where
  left : x.outcome.state.source.Supplies (lines.drop (m + x.width))
  result : x.consumes = true → x.outcome.value = x.op.onReply (.ok (lineAt lines m))

/-- Lines that were consumed before count too. -/
theorem InStep.shift {lines : List Bytes} {k m : Nat} {x : Round η}
    (h : InStep (lines.drop k) m x) : InStep lines (k + m) x := by
  refine ⟨?_, ?_⟩
  · rw [Nat.add_assoc, ← List.drop_drop]
    exact h.left
  · intro hx
    rw [h.result hx, lineAt, lineAt, List.getD_eq_getElem?_getD, List.getD_eq_getElem?_getD,
      List.getElem?_drop]

namespace Operation

/-- An operation in some surroundings. -/
def round (host : Host η) (e : Endpoint) (w : World η) (op : Operation) : Round η :=
  ⟨op, (op.act e).run (World.answer host) w⟩

/-- Operations one after another; one that fails does not keep the later ones from being done. -/
def rounds (host : Host η) (e : Endpoint) : World η → List Operation → List (Round η)
  | _, [] => []
  | w, op :: rest =>
    let first := op.round host e w
    first :: rounds host e first.outcome.state rest

/-- An operation takes the next line off the input if it consumes one, and nothing else. -/
theorem round_inStep (he : e.hasPeer = true) (host : Host η) {w : World η} {lines : List Bytes}
    (hw : w.source.Supplies lines) (op : Operation) : InStep lines 0 (op.round host e w) := by
  have htook := (act_ends he op).run (h := World.answer host) (fun _ _ => trivial) w
  obtain ⟨hsupplies, hlines⟩ := run_supplies host (op.act e) hw
  rw [List.nil_append] at htook
  cases hx : (op.round host e w).consumes with
  | false =>
      rw [htook.nothing hx] at hsupplies
      refine ⟨?_, fun h => absurd (hx.symm.trans h) Bool.false_ne_true⟩
      rw [Round.width, hx]
      exact hsupplies
  | true =>
      obtain ⟨reply, hconsumed, hvalue⟩ := htook.line hx
      rw [hconsumed] at hsupplies hlines
      -- the line that it waited for is the first one of the input
      have hreply := hlines 0 _ rfl
      injection hreply with _ hreply
      refine ⟨?_, fun _ => ?_⟩
      · rw [Round.width, hx]
        exact hsupplies
      · rw [← hreply]
        exact hvalue

/-- Each operation is done when so many lines are consumed as the operations before it took. -/
theorem rounds_inStep (he : e.hasPeer = true) (host : Host η) (ops : List Operation)
    {w : World η} {lines : List Bytes} (hw : w.source.Supplies lines) {before : List (Round η)}
    {x : Round η} {after : List (Round η)} (h : rounds host e w ops = before ++ x :: after) :
    InStep lines (before.countP (·.consumes)) x := by
  induction ops generalizing w lines before with
  | nil => exact absurd h.symm (by simp [rounds])
  | cons op rest ih =>
      have hfirst := round_inStep he host hw op
      cases before with
      | nil =>
          obtain ⟨rfl, -⟩ := List.cons.inj h
          exact hfirst
      | cons y before =>
          -- the lines that are left by the first operation are those of the later ones
          obtain ⟨rfl, hrest⟩ := List.cons.inj h
          have hleft := hfirst.left
          rw [Nat.zero_add] at hleft
          rw [List.countP_cons, Nat.add_comm]
          exact (ih hleft hrest).shift

theorem map_op_rounds (host : Host η) (e : Endpoint) (w : World η) (ops : List Operation) :
    (rounds host e w ops).map (·.op) = ops := by
  induction ops generalizing w with
  | nil => rfl
  | cons op rest ih => exact congrArg (op :: ·) (ih _)

/--
**No use of an endpoint comes between a line and its end.** The input may be any bytes, the writer
may do anything, and operations go on after those that failed. Each of them is done, and what is
left of the input after it is the input without its first lines: one for each wait for a line, and
one for each greeting and each suspension whose message was delivered. What comes of an operation
that consumes a line depends on that line alone, and it is the next line of the input.
-/
theorem rounds_keep_lines (he : e.hasPeer = true) (host : Host η) (ops : List Operation)
    {w : World η} {input : Bytes} (hinput : w.source.Brings input) :
    (rounds host e w ops).map (·.op) = ops ∧
      ∀ before x after, rounds host e w ops = before ++ x :: after →
        let m := before.countP (·.consumes)
        x.outcome.state.source.Brings ((linesOf input).drop (m + x.width)).flatten ∧
          (x.consumes = true →
            x.outcome.value = x.op.onReply (.ok (lineAt (linesOf input) m))) := by
  refine ⟨map_op_rounds host e w ops, ?_⟩
  intro before x after h m
  have hstep := rounds_inStep he host ops hinput.supplies h
  exact ⟨hstep.left.brings, hstep.result⟩

/-- A line that is no text, a greeting that is none, and a line without its end: each is consumed,
and the next operation finds the line after it. -/
theorem rounds_keep_bad_lines :
    let host : Host Unit :=
      ⟨fun _ => .ok, fun _ _ => .ok [], fun _ _ => (.ok ⟨[], [], .exited 0⟩, ())⟩
    let input : Bytes := [255, 10, 123, 10, 97]
    let w : World Unit := ⟨Source.ofBytes input, .willing, .willing, .ok (), ()⟩
    ∃ x y z : Round Unit, rounds host .stream w [.receive, .greet, .receive] = [x, y, z] ∧
      x.outcome.state.source.Brings [123, 10, 97] ∧
      y.outcome.state.source.Brings [97] ∧
      z.outcome.value = z.op.onReply (.ok [97]) ∧ z.outcome.state.source.Brings [] := by
  intro host input w
  let x := Operation.receive.round host .stream w
  let y := Operation.greet.round host .stream x.outcome.state
  let z := Operation.receive.round host .stream y.outcome.state
  have hgreet : y.consumes = true := by
    have hdelivered := Sink.deliver_obliging (s := w.sink) Receiver.willing_obliging
      [Endpoint.stream.opening.bytes]
    show List.any (Endpoint.stream.greet.run.run (World.answer host) x.outcome.state).trace
      Exchange.isDelivered = true
    rw [Endpoint.greet_run rfl, Dialogue.run_ask, List.any_cons, Bool.or_eq_true]
    refine .inl ?_
    show (w.sink.deliver _).1.outcome.isOk = true
    rw [hdelivered.outcome]
    rfl
  obtain ⟨-, hrounds⟩ := rounds_keep_lines (e := .stream) rfl host [.receive, .greet, .receive]
    (w := w) (Source.brings_ofBytes input)
  obtain ⟨hx, -⟩ := hrounds [] x [y, z] rfl
  obtain ⟨hy, -⟩ := hrounds [x] y [z] rfl
  obtain ⟨hz, hvalue⟩ := hrounds [x, y] z [] rfl
  have hcount : [x, y].countP (·.consumes) = 2 := by
    rw [List.countP_cons, List.countP_singleton, hgreet]
    rfl
  have hwidth : y.width = 1 := by
    rw [Round.width, hgreet]
    rfl
  rw [hwidth] at hy
  rw [hcount] at hz hvalue
  exact ⟨x, y, z, rfl, hx, hy, hvalue rfl, hz⟩

end Operation

end Lockstep
