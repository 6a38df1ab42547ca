import Lockstep.Dialogue

/-!
# The ways through a dialogue

A dialogue is a tree, and a run of it takes one way from the root to a leaf. `Unfolds` says that a
row of exchanges is such a way, whoever answers and whatever the answers depend on. A statement
about all ways through a program is a statement about all its runs (`run_unfolds`), and needs
neither a handler nor a state. Ways through a joined dialogue are taken apart where it was joined
(`unfolds_bind_iff`), and on no way is there a request that is nowhere in the tree (`Asks`).
-/

namespace Lockstep.Dialogue

variable {I : Interface} {α β σ : Type}

/-- These exchanges lead through the dialogue to a leaf with this value. -/
inductive Unfolds : Dialogue I α → List (Exchange I) → α → Prop
  | done {a : α} : Unfolds (.done a) [] a
  | ask {r : I.Request} {next : I.Reply r → Dialogue I α} {reply : I.Reply r}
      {t : List (Exchange I)} {a : α} :
      Unfolds (next reply) t a → Unfolds (.ask r next) (⟨r, reply⟩ :: t) a

/-- **A run takes a way through the dialogue.** -/
theorem run_unfolds (h : Handler I σ) (d : Dialogue I α) (s : σ) :
    Unfolds d (d.run h s).trace (d.run h s).value := by
  induction d generalizing s with
  | done a => exact .done
  | ask r next ih => exact .ask (ih (h r s).1 (h r s).2)

variable {d : Dialogue I α} {f : α → Dialogue I β} {t u : List (Exchange I)} {a a' : α} {b : β}

theorem unfolds_done_iff : Unfolds (.done a' : Dialogue I α) t a ↔ t = [] ∧ a = a' := by
  constructor
  · intro h
    cases h with
    | done => exact ⟨rfl, rfl⟩
  · intro ⟨ht, ha⟩
    rw [ht, ha]
    exact .done

theorem unfolds_ask_iff {r : I.Request} {next : I.Reply r → Dialogue I α} :
    Unfolds (.ask r next) t a ↔ ∃ reply u, t = ⟨r, reply⟩ :: u ∧ Unfolds (next reply) u a := by
  constructor
  · intro h
    cases h with
    | ask hnext => exact ⟨_, _, rfl, hnext⟩
  · intro ⟨reply, u, ht, hnext⟩
    rw [ht]
    exact .ask hnext

theorem Unfolds.bind (h : Unfolds d t a) (hf : Unfolds (f a) u b) :
    Unfolds (d >>= f) (t ++ u) b := by
  induction h with
  | done => exact hf
  | ask _ ih => exact .ask (ih hf)

/-- A way through a joined dialogue leads through the first part and then through the second. -/
theorem unfolds_bind_iff {v : List (Exchange I)} :
    Unfolds (d >>= f) v b ↔ ∃ a t u, v = t ++ u ∧ Unfolds d t a ∧ Unfolds (f a) u b := by
  constructor
  · intro h
    induction d generalizing v with
    | done a => exact ⟨a, [], v, rfl, .done, h⟩
    | ask r next ih =>
        obtain ⟨reply, rest, rfl, hrest⟩ := unfolds_ask_iff.mp h
        obtain ⟨a, t, u, rfl, ht, hu⟩ := ih reply hrest
        exact ⟨a, ⟨r, reply⟩ :: t, u, rfl, .ask ht, hu⟩
  · intro ⟨a, t, u, hv, ht, hu⟩
    rw [hv]
    exact ht.bind hu

/-! ## What is asked for on all ways -/

/-- Only such requests are made, whatever they are answered with. -/
def Asks (P : I.Request → Prop) : Dialogue I α → Prop
  | .done _ => True
  | .ask r next => P r ∧ ∀ reply, (next reply).Asks P

namespace Asks

variable {P : I.Request → Prop}

theorem done (a : α) : (.done a : Dialogue I α).Asks P := trivial

theorem ask {r : I.Request} {next : I.Reply r → Dialogue I α} (hr : P r)
    (hnext : ∀ reply, (next reply).Asks P) : (Dialogue.ask r next).Asks P := ⟨hr, hnext⟩

/-- One dialogue after another. -/
theorem bind (hd : d.Asks P) (hf : ∀ a, (f a).Asks P) : (d >>= f).Asks P := by
  induction d with
  | done a => exact hf a
  | ask r next ih => exact ⟨hd.1, fun reply => ih reply (hd.2 reply)⟩

/-- What is allowed may be weakened. -/
theorem mono {Q : I.Request → Prop} (hd : d.Asks P) (h : ∀ r, P r → Q r) : d.Asks Q := by
  induction d with
  | done a => exact .done a
  | ask r next ih => exact ⟨h r hd.1, fun reply => ih reply (hd.2 reply)⟩

theorem unfolds (h : Unfolds d t a) (hd : d.Asks P) : ∀ x ∈ t, P x.request := by
  induction h with
  | done => exact List.forall_mem_nil _
  | ask _ ih => exact List.forall_mem_cons.mpr ⟨hd.1, ih (hd.2 _)⟩

end Asks

end Lockstep.Dialogue
