import Lockstep.Proofs.Framing
import Lockstep.Proofs.Gate
import Lockstep.Proofs.Obedience

/-!
# What a run reads

A dialogue waits for one line after another, and what it does with a line is all that it can do
with what arrives. So a run reads a part of its input, line by line, and leaves the rest
(`run_reads`), and if more arrives after the input nothing changes as long as every line that is
read was whole: `run_prolonged` compares a run with the run on a longer input. The two are the same
exchange by exchange, up to a line whose end is missing in the shorter input.
-/

namespace Lockstep

/-- The line ends in its only line feed. -/
def Line.IsWhole (line : Bytes) : Prop := ∃ body, lineFeed ∉ body ∧ line = body ++ [lineFeed]

/-- The end of the line is missing. -/
def Line.IsCut (line : Bytes) : Prop := line.getLast? ≠ some lineFeed

namespace Line

theorem IsWhole.getLast? {line : Bytes} (h : IsWhole line) : line.getLast? = some lineFeed := by
  obtain ⟨body, -, rfl⟩ := h
  exact List.getLast?_concat

theorem isCut_of_not_mem {line : Bytes} (h : lineFeed ∉ line) : IsCut line :=
  fun hlast => h (List.mem_of_getLast? hlast)

end Line

open Line (IsWhole IsCut isCut_of_not_mem)

namespace Source

/-- A reader takes a whole line, or all that is left and has no line feed. -/
theorem Brings.readLine {s : Source} {bytes : Bytes} (h : s.Brings bytes) :
    ∃ line left, s.readLine.1 = .ok line ∧ bytes = line ++ left ∧ s.readLine.2.Brings left ∧
      (IsWhole line ∨ IsCut line) := by
  rcases readLineFrom_brings h [] with ⟨line, left, s', hcut, hs', hread⟩ | ⟨hcut, hread⟩
  · obtain ⟨body, hbody, hline, hbytes⟩ := cutLine_eq_some hcut
    rw [Source.readLine, hread]
    exact ⟨line, left, rfl, hbytes, hs', .inl ⟨body, hbody, hline⟩⟩
  · rw [Source.readLine, hread]
    exact ⟨bytes, [], rfl, (List.append_nil _).symm, .done,
      .inr (isCut_of_not_mem (cutLine_eq_none.mp hcut))⟩

/-- If more arrives later, the next line is the same, unless it was not whole. -/
theorem Brings.readLine_prolonged {s s' : Source} {input more : Bytes} (h : s.Brings input)
    (h' : s'.Brings (input ++ more)) :
    (∃ left, s'.readLine.1 = s.readLine.1 ∧ s.readLine.2.Brings left ∧
        s'.readLine.2.Brings (left ++ more)) ∨
      more ≠ [] ∧ lineFeed ∉ input ∧ s.readLine.1 = .ok input := by
  rcases readLineFrom_brings h [] with ⟨line, left, t, hcut, ht, hread⟩ | ⟨hcut, hread⟩
  · -- the line is whole in the input, so it is the first line of what arrives in the end
    rcases readLineFrom_brings h' [] with ⟨line', left', t', hcut', ht', hread'⟩ | ⟨hcut', -⟩
    · rw [cutLine_append hcut more] at hcut'
      obtain ⟨rfl, rfl⟩ := Prod.mk.inj (Option.some.inj hcut')
      rw [Source.readLine, Source.readLine, hread, hread']
      exact .inl ⟨left, rfl, ht, ht'⟩
    · rw [cutLine_append hcut more] at hcut'
      cases hcut'
  · by_cases hmore : more = []
    · rw [hmore, List.append_nil] at h'
      rcases readLineFrom_brings h' [] with ⟨_, _, _, hcut', -⟩ | ⟨-, hread'⟩
      · rw [hcut] at hcut'
        cases hcut'
      · rw [Source.readLine, Source.readLine, hread, hread', hmore]
        exact .inl ⟨[], rfl, .done, .done⟩
    · exact .inr ⟨hmore, cutLine_eq_none.mp hcut, congrArg Prod.fst hread⟩

/-- Whole lines are the first lines of the bytes that they begin. -/
theorem linesOf_of_whole {lines : List Bytes} (h : ∀ line ∈ lines, IsWhole line) (left : Bytes) :
    linesOf (lines.flatten ++ left) = lines ++ linesOf left := by
  induction lines with
  | nil => rfl
  | cons line rest ih =>
      obtain ⟨⟨body, hbody, rfl⟩, hrest⟩ := List.forall_mem_cons.mp h
      have hcut : cutLine ((body ++ [lineFeed]) ++ (rest.flatten ++ left)) =
          some (body ++ [lineFeed], rest.flatten ++ left) := by
        rw [List.append_assoc]
        exact cutLine_body hbody _
      rw [List.flatten_cons, List.append_assoc, linesOf_of_cutLine hcut, ih hrest]
      rfl

end Source

namespace Controller

variable {η α β : Type}

/-! ## The lines of a run -/

/-- The line that was read. -/
def Exchange.line? : Exchange → Option Bytes
  | ⟨.receive, .ok line⟩ => some line
  | _ => none

/-- The lines that were read, in order. -/
def heard (t : List Exchange) : List Bytes := t.filterMap Exchange.line?

/-- The input ran out before the end of a line. -/
def Severed (t : List Exchange) : Prop := ∃ line ∈ heard t, IsCut line

theorem heard_append (t t' : List Exchange) : heard (t ++ t') = heard t ++ heard t' :=
  List.filterMap_append

/-- Only waiting for a line changes what is left of the input. -/
theorem answer_source (host : Host η) (w : World η) (s : Source) {r : Request}
    (hr : r ≠ .receive) :
    (World.answer host r w).2.source = w.source ∧
      World.answer host r { w with source := s } =
        ((World.answer host r w).1, { (World.answer host r w).2 with source := s }) := by
  cases r with
  | receive => exact absurd rfl hr
  | _ => exact ⟨rfl, rfl⟩

theorem Exchange.line?_eq_none {x : Exchange} (hx : x.request ≠ .receive) : x.line? = none := by
  obtain ⟨r, reply⟩ := x
  cases r with
  | receive => exact absurd rfl hx
  | _ => rfl

/-- **A run reads a part of its input, line by line,** and leaves the rest. -/
theorem run_reads (host : Host η) (d : Talk α) {w : World η} {input : Bytes}
    (hw : w.source.Brings input) :
    let o := d.run (World.answer host) w
    (∃ left, input = (heard o.trace).flatten ++ left ∧ o.state.source.Brings left) ∧
      ∀ line ∈ heard o.trace, IsWhole line ∨ IsCut line := by
  induction d generalizing w input with
  | done a => exact ⟨⟨input, rfl, hw⟩, nofun⟩
  | ask r next ih =>
      rw [Dialogue.run_ask]
      dsimp only
      by_cases hr : r = .receive
      · subst hr
        obtain ⟨line, later, hline, hinput, hlater, hkind⟩ := hw.readLine
        obtain ⟨⟨left, hleft, hsource⟩, hlines⟩ :=
          ih (World.answer host .receive w).1 (w := (World.answer host .receive w).2) hlater
        rw [heard, List.filterMap_cons_some (b := line)
          (by rw [show (World.answer host .receive w).1 = .ok line from hline]; rfl)]
        refine ⟨⟨left, ?_, hsource⟩, List.forall_mem_cons.mpr ⟨hkind, hlines⟩⟩
        rw [hinput, hleft, List.flatten_cons, List.append_assoc]
        rfl
      · obtain ⟨hsource, -⟩ := answer_source host w w.source hr
        rw [heard, List.filterMap_cons_none (Exchange.line?_eq_none hr)]
        refine ih _ (w := (World.answer host r w).2) ?_
        rw [hsource]
        exact hw

/-- The second run goes on where the first one had a line without its end, or is the same. -/
inductive Prolongs (more : Bytes) (o o' : Dialogue.Outcome interface (World η) α) : Prop
  | same : o.value = o'.value → o.trace = o'.trace → Prolongs more o o'
  | cut (before : List Exchange) (line : Bytes) (after after' : List Exchange) : more ≠ [] →
      IsCut line → o.trace = before ++ ⟨.receive, .ok line⟩ :: after →
      o'.trace = before ++ after' → Prolongs more o o'

/-- After the same exchange the two runs are as they were before it. -/
theorem Prolongs.cons {more : Bytes} {o o' : Dialogue.Outcome interface (World η) α}
    (h : Prolongs more o o') (x : Exchange) (w w' : World η) :
    Prolongs more ⟨o.value, x :: o.trace, w⟩ ⟨o'.value, x :: o'.trace, w'⟩ := by
  cases h with
  | same hvalue htrace => exact .same hvalue (congrArg (x :: ·) htrace)
  | cut before line after after' hmore hline ho ho' =>
      refine .cut (x :: before) line after after' hmore hline ?_ ?_
      · exact congrArg (x :: ·) ho
      · exact congrArg (x :: ·) ho'

/-- **If more arrives, a run goes on where it had stopped for want of it,** and until then it
does the same. -/
theorem run_prolonged (host : Host η) (d : Talk α) {w : World η} {s : Source} {input more : Bytes}
    (hw : w.source.Brings input) (hs : s.Brings (input ++ more)) :
    Prolongs more (d.run (World.answer host) w)
      (d.run (World.answer host) { w with source := s }) := by
  induction d generalizing w s input with
  | done a => exact .same rfl rfl
  | ask r next ih =>
      rw [Dialogue.run_ask, Dialogue.run_ask]
      dsimp only
      by_cases hr : r = .receive
      · subst hr
        rcases hw.readLine_prolonged hs with ⟨left, hread, hleft, hleft'⟩ | ⟨hmore, hline, hread⟩
        · have hreply : (World.answer host .receive { w with source := s }).1 =
              (World.answer host .receive w).1 := hread
          rw [hreply]
          exact (ih _ (w := (World.answer host .receive w).2) hleft hleft').cons _ _ _
        · -- all that is left of the input has no line feed
          have hreply : (World.answer host .receive w).1 = .ok input := hread
          rw [hreply]
          exact .cut [] input _ _ hmore (isCut_of_not_mem hline) rfl rfl
      · obtain ⟨hsource, hanswer⟩ := answer_source host w s hr
        rw [hanswer]
        refine (ih _ (w := (World.answer host r w).2) ?_ hs).cons _ _ _
        rw [hsource]
        exact hw

/-! ## Dialogues that read nothing -/

/-- A wait for a line, whether there is a client or not. -/
def Request.isWait : Request → Bool
  | .receive | .mark .unanswered => true
  | _ => false

theorem Request.isWait_eq_false_iff {r : Request} :
    r.isWait = false ↔ r ≠ .receive ∧ r ≠ .mark .unanswered := by
  constructor
  · intro h
    refine ⟨?_, ?_⟩
    · rintro rfl
      exact nomatch h
    · rintro rfl
      exact nomatch h
  · intro ⟨hreceive, hmark⟩
    unfold isWait
    split
    · exact absurd rfl hreceive
    · exact absurd rfl hmark
    · rfl

/-- No line is waited for, and the value is one of these. -/
def Deaf (good : α → Prop) : Talk α → Prop
  | .done a => good a
  | .ask r next => r.isWait = false ∧ ∀ reply, Deaf good (next reply)

namespace Deaf

variable {good : α → Prop} {good' : β → Prop}

theorem done {a : α} (h : good a) : Deaf good (.done a) := h

theorem ask {r : Request} {next : Reply r → Talk α} (hr : r.isWait = false)
    (hnext : ∀ reply, Deaf good (next reply)) : Deaf good (.ask r next) := ⟨hr, hnext⟩

/-- One dialogue after another. -/
theorem bind {d : Talk α} {f : α → Talk β} (hd : Deaf good d)
    (hf : ∀ a, good a → Deaf good' (f a)) : Deaf good' (d >>= f) := by
  induction d with
  | done a => exact hf a hd
  | ask r next ih => exact ⟨hd.1, fun reply => ih reply (hd.2 reply)⟩

/-- What is known of the value may be weakened. -/
theorem mono {d : Talk α} {good₁ : α → Prop} (hd : Deaf good d) (h : ∀ a, good a → good₁ a) :
    Deaf good₁ d := by
  induction d with
  | done a => exact h a hd
  | ask r next ih => exact ⟨hd.1, fun reply => ih reply (hd.2 reply)⟩

/-- Whoever answers, nothing is read. -/
theorem run {d : Talk α} (hd : Deaf good d) {σ : Type} (h : Dialogue.Handler interface σ) (s : σ) :
    (∀ x ∈ (d.run h s).trace, x.request.isWait = false) ∧ good (d.run h s).value := by
  induction d generalizing s with
  | done a => exact ⟨nofun, hd⟩
  | ask r next ih =>
      obtain ⟨htrace, hvalue⟩ := ih _ (hd.2 (h r s).1) (h r s).2
      exact ⟨List.forall_mem_cons.mpr ⟨hd.1, htrace⟩, hvalue⟩

/-- A rule is obeyed that everything keeps but a line that is read. -/
theorem obeys {rule : List Exchange → Exchange → Prop} {P : List Exchange → Prop}
    (hP : ∀ t x, x.request ≠ .receive → P t → rule t x ∧ P (t ++ [x])) {d : Talk α}
    (hd : Deaf good d) {t : List Exchange} (ht : P t) :
    Dialogue.Obeys rule (fun a t => good a ∧ P t) d t := by
  induction d generalizing t with
  | done a => exact ⟨hd, ht⟩
  | ask r next ih =>
      refine .ask fun reply => ?_
      obtain ⟨hrule, hnext⟩ := hP t ⟨r, reply⟩ (Request.isWait_eq_false_iff.mp hd.1).1 ht
      exact ⟨hrule, ih reply (hd.2 reply) hnext⟩

end Deaf

end Controller

end Lockstep
