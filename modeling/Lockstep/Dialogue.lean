/-!
# Dialogues

A program that talks to its surroundings is a tree: at each node it asks for something and goes
on with the reply, at a leaf it is done. The tree says what the program does whatever the replies
are, so the same program can be run against a model of its surroundings, against the real ones, or
step by step beside another program.

`run` answers the requests by a handler that has a state. It gives the value of the leaf, the
final state, and the trace: every request that was made, with its reply, in order. Main
statement: a dialogue that goes on after another one makes the requests of the first and then its
own (`run_bind`).
-/

namespace Lockstep

/-- What can be asked for, and what kind of reply each request gets. -/
structure Interface where
  Request : Type
  Reply : Request → Type

/-- A program that asks its surroundings. -/
inductive Dialogue (I : Interface) (α : Type) where
  | done (value : α)
  | ask (request : I.Request) (next : I.Reply request → Dialogue I α)

namespace Dialogue

variable {I : Interface} {α β σ : Type}

/-- Goes on with a second dialogue where the first is done. -/
def bind (d : Dialogue I α) (f : α → Dialogue I β) : Dialogue I β :=
  match d with
  | .done a => f a
  | .ask r next => .ask r fun reply => (next reply).bind f

/-- Dialogues follow one another. -/
instance : Monad (Dialogue I) where
  pure := .done
  bind := bind

@[simp] theorem pure_eq (a : α) : (pure a : Dialogue I α) = .done a := rfl

@[simp] theorem done_bind (a : α) (f : α → Dialogue I β) : (Dialogue.done a >>= f) = f a := rfl

@[simp] theorem ask_bind (r : I.Request) (next : I.Reply r → Dialogue I α)
    (f : α → Dialogue I β) :
    (Dialogue.ask r next >>= f) = .ask r fun reply => next reply >>= f := rfl

theorem map_done (f : α → β) (a : α) : f <$> (.done a : Dialogue I α) = .done (f a) := rfl

theorem map_ask (f : α → β) (r : I.Request) (next : I.Reply r → Dialogue I α) :
    f <$> Dialogue.ask r next = .ask r fun reply => f <$> next reply := rfl

/-- Dialogues that ask the same are equal if they go on in the same way with each reply. -/
theorem ask_congr {r : I.Request} {f g : I.Reply r → Dialogue I α}
    (h : ∀ reply, f reply = g reply) : Dialogue.ask r f = .ask r g := by
  rw [funext h]

/-- Going on with nothing changes nothing. -/
theorem bind_done (d : Dialogue I α) : (d >>= .done) = d := by
  induction d with
  | done a => rfl
  | ask r next ih => exact congrArg (Dialogue.ask r) (funext ih)

/-- Three dialogues may be joined from either side. -/
theorem bind_assoc {γ : Type} (d : Dialogue I α) (f : α → Dialogue I β)
    (g : β → Dialogue I γ) : (d >>= f >>= g) = (d >>= fun a => f a >>= g) := by
  induction d with
  | done a => rfl
  | ask r next ih => exact congrArg (Dialogue.ask r) (funext ih)

/-- Dialogues obey the laws of a monad. -/
instance : LawfulMonad (Dialogue I) :=
  LawfulMonad.mk' _ bind_done (fun _ _ => rfl) bind_assoc

/-- A request with its reply. -/
structure Exchange (I : Interface) where
  request : I.Request
  reply : I.Reply request

/-- Answers requests; its state remembers what the replies depend on. -/
abbrev Handler (I : Interface) (σ : Type) := (r : I.Request) → σ → I.Reply r × σ

/-- What a run gives. -/
structure Outcome (I : Interface) (σ α : Type) where
  value : α
  trace : List (Exchange I)
  state : σ

/-- Runs a dialogue to its end. -/
def run (h : Handler I σ) : Dialogue I α → σ → Outcome I σ α
  | .done a, s => ⟨a, [], s⟩
  | .ask r next, s =>
    let (reply, s) := h r s
    let rest := (next reply).run h s
    ⟨rest.value, ⟨r, reply⟩ :: rest.trace, rest.state⟩

theorem run_ask (h : Handler I σ) (r : I.Request) (next : I.Reply r → Dialogue I α) (s : σ) :
    (Dialogue.ask r next).run h s =
      let rest := (next (h r s).1).run h (h r s).2
      ⟨rest.value, ⟨r, (h r s).1⟩ :: rest.trace, rest.state⟩ := rfl

/-- A joined run is the run of the first part and then, from where it stopped, of the second. -/
theorem run_bind (h : Handler I σ) (d : Dialogue I α) (f : α → Dialogue I β) (s : σ) :
    (d >>= f).run h s =
      let first := d.run h s
      let second := (f first.value).run h first.state
      ⟨second.value, first.trace ++ second.trace, second.state⟩ := by
  induction d generalizing s with
  | done a => rfl
  | ask r next ih => simp [run, ih]

end Dialogue

end Lockstep
