import Lockstep.Dialogue

/-!
# What a dialogue may do next

A rule says of a history and one more exchange whether that exchange may come. A dialogue obeys a
rule after a history if every request it makes may come whatever it is answered with, and the same
holds of how it goes on. This is proved along the tree, part by part, with a condition on the
history where one part ends and the next begins; `Obeys.run` then says what it means for a run:
every exchange of the trace may come after those before it, whoever answers.

Where only the end matters, and only replies of some kind can come, `Ends` says what holds of the
history when the dialogue is done.
-/

namespace Lockstep.Dialogue

variable {I : Interface} {α β σ : Type}

/-- The exchanges so far, in order. -/
abbrev History (I : Interface) := List (Exchange I)

/-- Every exchange that can come keeps the rule, and at the end the history meets `post`. -/
def Obeys (rule : History I → Exchange I → Prop) (post : α → History I → Prop) :
    Dialogue I α → History I → Prop
  | .done a, t => post a t
  | .ask r next, t => ∀ reply, rule t ⟨r, reply⟩ ∧ (next reply).Obeys rule post (t ++ [⟨r, reply⟩])

namespace Obeys

variable {rule : History I → Exchange I → Prop} {post : α → History I → Prop}
  {post' : β → History I → Prop}

theorem ask {r : I.Request} {next : I.Reply r → Dialogue I α} {t : History I}
    (h : ∀ reply, rule t ⟨r, reply⟩ ∧ (next reply).Obeys rule post (t ++ [⟨r, reply⟩])) :
    (Dialogue.ask r next).Obeys rule post t := h

/-- One part after another. -/
theorem bind {d : Dialogue I α} {f : α → Dialogue I β} {t : History I} (hd : d.Obeys rule post t)
    (hf : ∀ a t, post a t → (f a).Obeys rule post' t) : (d >>= f).Obeys rule post' t := by
  -- each exchange of the first part lengthens the history that the second one starts from
  induction d generalizing t with
  | done a => exact hf a t hd
  | ask r next ih => exact fun reply => ⟨(hd reply).1, ih reply (hd reply).2⟩

/-- What holds at the end may be weakened. -/
theorem mono {d : Dialogue I α} {post₁ : α → History I → Prop} {t : History I}
    (hd : d.Obeys rule post t) (h : ∀ a t, post a t → post₁ a t) : d.Obeys rule post₁ t := by
  induction d generalizing t with
  | done a => exact h a t hd
  | ask r next ih => exact fun reply => ⟨(hd reply).1, ih reply (hd reply).2⟩

/-- What no exchange can undo holds at the end if it holds at the start. -/
theorem keep {d : Dialogue I α} {t : History I} {P : History I → Prop}
    (hP : ∀ t x, P t → P (t ++ [x])) (h : P t) (hd : d.Obeys rule post t) :
    d.Obeys rule (fun a t => post a t ∧ P t) t := by
  induction d generalizing t with
  | done a => exact ⟨hd, h⟩
  | ask r next ih => exact fun reply => ⟨(hd reply).1, ih reply (hP t _ h) (hd reply).2⟩

/-- **Whoever answers, each exchange of the trace may come after those before it.** -/
theorem run {d : Dialogue I α} {t : History I} (hd : d.Obeys rule post t) (h : Handler I σ)
    (s : σ) :
    (∀ before x later, (d.run h s).trace = before ++ x :: later → rule (t ++ before) x) ∧
      post (d.run h s).value (t ++ (d.run h s).trace) := by
  induction d generalizing t s with
  | done a =>
      constructor
      · intro before x later e
        exact absurd e.symm (by simp [Dialogue.run])
      · rw [Dialogue.run, List.append_nil]
        exact hd
  | ask r next ih =>
      obtain ⟨hrule, hnext⟩ := hd (h r s).1
      obtain ⟨hlater, hpost⟩ := ih (h r s).1 hnext (h r s).2
      simp only [List.append_assoc, List.singleton_append] at hlater hpost
      refine ⟨?_, hpost⟩
      intro before x later e
      cases before with
      | nil =>
          -- the first exchange: it keeps the rule because the dialogue does
          obtain ⟨rfl, -⟩ := List.cons.inj e
          rw [List.append_nil]
          exact hrule
      | cons y before =>
          obtain ⟨rfl, etail⟩ := List.cons.inj e
          exact hlater before x later etail

end Obeys

/-- If only fair replies come, the history meets `post` at the end. -/
def Ends (fair : Exchange I → Prop) (post : α → History I → Prop) :
    Dialogue I α → History I → Prop
  | .done a, t => post a t
  | .ask r next, t => ∀ reply, fair ⟨r, reply⟩ → (next reply).Ends fair post (t ++ [⟨r, reply⟩])

namespace Ends

variable {fair : Exchange I → Prop} {post : α → History I → Prop} {post' : β → History I → Prop}

theorem ask {r : I.Request} {next : I.Reply r → Dialogue I α} {t : History I}
    (h : ∀ reply, fair ⟨r, reply⟩ → (next reply).Ends fair post (t ++ [⟨r, reply⟩])) :
    (Dialogue.ask r next).Ends fair post t := h

/-- One part after another. -/
theorem bind {d : Dialogue I α} {f : α → Dialogue I β} {t : History I} (hd : d.Ends fair post t)
    (hf : ∀ a t, post a t → (f a).Ends fair post' t) : (d >>= f).Ends fair post' t := by
  induction d generalizing t with
  | done a => exact hf a t hd
  | ask r next ih => exact fun reply hfair => ih reply (hd reply hfair)

/-- What holds at the end may be weakened. -/
theorem mono {d : Dialogue I α} {post₁ : α → History I → Prop} {t : History I}
    (hd : d.Ends fair post t) (h : ∀ a t, post a t → post₁ a t) : d.Ends fair post₁ t := by
  induction d generalizing t with
  | done a => exact h a t hd
  | ask r next ih => exact fun reply hfair => ih reply (hd reply hfair)

/-- **A run with fair replies ends so.** -/
theorem run {d : Dialogue I α} {t : History I} (hd : d.Ends fair post t) {h : Handler I σ}
    (hfair : ∀ r s, fair ⟨r, (h r s).1⟩) (s : σ) :
    post (d.run h s).value (t ++ (d.run h s).trace) := by
  induction d generalizing t s with
  | done a =>
      rw [Dialogue.run, List.append_nil]
      exact hd
  | ask r next ih =>
      have hnext := ih (h r s).1 (hd (h r s).1 (hfair r s)) (h r s).2
      rwa [List.append_assoc, List.singleton_append] at hnext

end Ends

end Lockstep.Dialogue
