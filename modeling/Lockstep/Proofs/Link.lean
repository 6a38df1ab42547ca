import Lockstep.Dialogue
import Lockstep.Proofs.Framing
import Mathlib.Logic.Relation

/-!
# Two parties and two channels

Two dialogues that are joined by a channel in each direction make a system whose steps are the
steps of either one, in any order. What a party writes is in flight until the other one fetches it,
in pieces of any size, and a party that waits for a line goes on when a whole one has arrived, or
when the other one is gone and has left nothing else.

A state is `Safe` if a condition holds in it and all its successors are safe. This is defined from
the end backwards, so a safe state is at once one from which every run stops. Safety is shown by
rules for the few situations in which parties that take turns can be: one works while the other
one waits (`Rests.quiet`), one says something and then waits (`Rests.tell`), one says its last
words (`Rests.farewell`). In each of these only one party can move, or it does not matter which
one does.
-/

namespace Lockstep

/-! ## Channels -/

namespace Source

/-- The bytes that have arrived. -/
def bytes : Source → Bytes
  | [] => []
  | .bytes piece :: rest => piece ++ bytes rest
  | .interrupted :: rest => bytes rest
  | .failed _ :: rest => bytes rest

theorem Brings.bytes_eq {s : Source} {b : Bytes} (h : s.Brings b) : s.bytes = b := by
  induction h with
  | done => rfl
  | bytes piece _ ih => rw [Source.bytes, ih]
  | interrupted _ ih => exact ih

end Source

/-- One direction of a connection. -/
structure Channel where
  /-- What was written and has not arrived. -/
  inFlight : Bytes
  /-- What has arrived and was not read. -/
  arrived : Source
  /-- Nothing more will be written. -/
  closed : Bool

namespace Channel

/-- A channel that has not been used. -/
def empty : Channel := ⟨[], [], false⟩

/-- Writes some bytes. -/
def put (c : Channel) (bytes : Bytes) : Channel := { c with inFlight := c.inFlight ++ bytes }

/-- How many whole lines are in the channel. -/
def lines (c : Channel) : Nat := (c.arrived.bytes ++ c.inFlight).count lineFeed

/-- What is in the channel, whether it has arrived or not. -/
def Carries (c : Channel) (bytes : Bytes) : Prop :=
  ∃ a, c.arrived.Brings a ∧ a ++ c.inFlight = bytes

/-- Nothing is in the channel, and more may come. -/
structure Idle (c : Channel) : Prop where
  carries : c.Carries []
  closed : c.closed = false

theorem Idle.empty : Idle empty := ⟨⟨[], .done, rfl⟩, rfl⟩

theorem Carries.put {c : Channel} {bytes : Bytes} (h : c.Carries bytes) (more : Bytes) :
    (c.put more).Carries (bytes ++ more) := by
  obtain ⟨a, ha, rfl⟩ := h
  exact ⟨a, ha, (List.append_assoc _ _ _).symm⟩

theorem Carries.lines_eq {c : Channel} {bytes : Bytes} (h : c.Carries bytes) :
    c.lines = bytes.count lineFeed := by
  obtain ⟨a, ha, rfl⟩ := h
  rw [lines, ha.bytes_eq]

end Channel

/-! ## Moves -/

/-- What an exchange does to the connection. -/
inductive Act where
  | write (bytes : Bytes)
  | read (line : Except SystemError Bytes)
  | hangUp

/-- How the requests of a party are answered: which replies there are, and what each one does. -/
abbrev Conduct (I : Interface) := (r : I.Request) → I.Reply r → Act → Prop

/-- A party that has come to its end. -/
def Dialogue.IsDone {I : Interface} {α : Type} : Dialogue I α → Prop
  | .done _ => True
  | .ask _ _ => False

theorem Dialogue.IsDone.exists {I : Interface} {α : Type} {d : Dialogue I α} (h : d.IsDone) :
    ∃ a, d = .done a := by
  cases d with
  | done a => exact ⟨a, rfl⟩
  | ask r next => exact h.elim

variable {I J : Interface} {α β : Type}

/-- The request writes these bytes and nothing else. -/
structure Writes (c : Conduct I) (r : I.Request) (bytes : Bytes) : Prop where
  some : ∃ reply, c r reply (.write bytes)
  only : ∀ reply act, c r reply act → act = .write bytes

/-- The request waits for a line, and takes any. -/
structure Reads (c : Conduct I) (r : I.Request) : Prop where
  some : ∀ line, ∃ reply, c r reply (.read line)
  only : ∀ reply act, c r reply act → ∃ line, act = .read line

/--
One step of a party, from its dialogue, what comes to it and what goes from it. The other party
being `gone` means that nothing more will come.
-/
inductive Move (c : Conduct I) (gone : Prop) :
    Dialogue I α → Channel → Channel → Dialogue I α → Channel → Channel → Prop where
  | write {r : I.Request} {next : I.Reply r → Dialogue I α} {reply : I.Reply r} {bytes : Bytes}
      {inbox outbox : Channel} :
      c r reply (.write bytes) →
      Move c gone (.ask r next) inbox outbox (next reply) inbox (outbox.put bytes)
  | hangUp {r : I.Request} {next : I.Reply r → Dialogue I α} {reply : I.Reply r}
      {inbox outbox : Channel} :
      c r reply .hangUp →
      Move c gone (.ask r next) inbox outbox (next reply) inbox { outbox with closed := true }
  /-- Some of what is in flight arrives at a party that waits. -/
  | fetch {r : I.Request} {next : I.Reply r → Dialogue I α} {reply : I.Reply r}
      {line : Except SystemError Bytes} {inbox outbox : Channel} {piece rest : Bytes} :
      c r reply (.read line) → piece ≠ [] → inbox.inFlight = piece ++ rest →
      Move c gone (.ask r next) inbox outbox (.ask r next)
        ⟨rest, inbox.arrived ++ [.bytes piece], inbox.closed⟩ outbox
  /-- A whole line has arrived. -/
  | read {r : I.Request} {next : I.Reply r → Dialogue I α} {reply : I.Reply r} {line : Bytes}
      {inbox outbox : Channel} {left : Source} :
      c r reply (.read (.ok line)) → inbox.arrived.readLine = (.ok line, left) →
      line.getLast? = some lineFeed →
      Move c gone (.ask r next) inbox outbox (next reply) { inbox with arrived := left } outbox
  /-- The other party is gone, and everything has arrived. -/
  | last {r : I.Request} {next : I.Reply r → Dialogue I α} {reply : I.Reply r}
      {line : Except SystemError Bytes} {inbox outbox : Channel} {left : Source} :
      c r reply (.read line) → gone → inbox.inFlight = [] →
      inbox.arrived.readLine = (line, left) →
      Move c gone (.ask r next) inbox outbox (next reply) { inbox with arrived := left } outbox

namespace Move

variable {c : Conduct I} {gone : Prop} {r : I.Request} {next : I.Reply r → Dialogue I α}
  {d : Dialogue I α} {inbox outbox inbox' outbox' : Channel}

theorem not_of_done {a : α} : ¬ Move c gone (.done a) inbox outbox d inbox' outbox' := nofun

/-- A party that only writes goes on with one of the replies. -/
theorem of_writes {bytes : Bytes} (hr : Writes c r bytes)
    (h : Move c gone (.ask r next) inbox outbox d inbox' outbox') :
    ∃ reply, c r reply (.write bytes) ∧ d = next reply ∧ inbox' = inbox ∧
      outbox' = outbox.put bytes := by
  cases h with
  | write hc =>
      cases hr.only _ _ hc
      exact ⟨_, hc, rfl, rfl, rfl⟩
  | hangUp hc => exact nomatch hr.only _ _ hc
  | fetch hc _ _ => exact nomatch hr.only _ _ hc
  | read hc _ _ => exact nomatch hr.only _ _ hc
  | last hc _ _ _ => exact nomatch hr.only _ _ hc

/-- A party that waits does nothing while nothing comes. -/
theorem not_of_idle (hr : Reads c r) (hi : inbox.Carries []) (hgone : ¬ gone) :
    ¬ Move c gone (.ask r next) inbox outbox d inbox' outbox' := by
  obtain ⟨a, ha, hnil⟩ := hi
  obtain ⟨rfl, hflight⟩ := List.append_eq_nil_iff.mp hnil
  intro h
  cases h with
  | write hc => exact nomatch hr.only _ _ hc
  | hangUp hc => exact nomatch hr.only _ _ hc
  | fetch _ hpiece hsplit =>
      rw [hflight] at hsplit
      exact hpiece (List.append_eq_nil_iff.mp hsplit.symm).1
  | read _ hread hwhole =>
      -- a reader of nothing gets the empty line, which is not whole
      obtain ⟨hline, -⟩ := ha.supplies.readLine
      rw [hread] at hline
      cases hline
      exact nomatch hwhole
  | last _ hg _ _ => exact hgone hg

end Move

/-! ## One line on its way -/

section OneLine

variable {c : Conduct I} {gone : Prop} {r : I.Request} {next : I.Reply r → Dialogue I α}
  {d : Dialogue I α} {inbox outbox inbox' outbox' : Channel} {body : Bytes}

/-- Where one line is all that a channel carries, a reader gets all of it or nothing. -/
theorem Channel.Carries.readLine (hbody : lineFeed ∉ body)
    (hc : inbox.Carries (body ++ [lineFeed])) {result : Except SystemError Bytes} {left : Source}
    (hread : inbox.arrived.readLine = (result, left))
    (hwhole : inbox.inFlight = [] ∨ ∃ line, result = .ok line ∧ line.getLast? = some lineFeed) :
    result = .ok (body ++ [lineFeed]) ∧ left.Brings [] ∧ inbox.inFlight = [] := by
  obtain ⟨a, ha, hsplit⟩ := hc
  have hcut : Source.cutLine (a ++ inbox.inFlight) = some (body ++ [lineFeed], []) := by
    rw [hsplit]
    exact Source.cutLine_body hbody []
  rcases Source.readLineFrom_brings ha [] with ⟨line, later, s', hcuta, hs', hr⟩ | ⟨hcuta, hr⟩
  · rw [Source.readLine, hr] at hread
    cases hread
    rw [Source.cutLine_append hcuta] at hcut
    obtain ⟨rfl, hnil⟩ := Prod.mk.inj (Option.some.inj hcut)
    obtain ⟨rfl, hflight⟩ := List.append_eq_nil_iff.mp hnil
    exact ⟨rfl, hs', hflight⟩
  · -- no line feed has arrived, so nothing whole can be read
    rw [Source.readLine, hr] at hread
    cases hread
    have hnone := Source.cutLine_eq_none.mp hcuta
    rcases hwhole with hflight | ⟨line, hline, hlast⟩
    · rw [hflight, List.append_nil] at hsplit
      rw [hsplit] at hnone
      exact absurd (List.mem_append_right _ List.mem_cons_self) hnone
    · cases hline
      exact absurd (List.mem_of_getLast? hlast) hnone

/-- Each step of a reader brings the line nearer or gives it to the reader. -/
theorem Move.of_line (hr : Reads c r) (hbody : lineFeed ∉ body)
    (hc : inbox.Carries (body ++ [lineFeed]))
    (h : Move c gone (.ask r next) inbox outbox d inbox' outbox') :
    outbox' = outbox ∧ inbox'.closed = inbox.closed ∧
      (d = .ask r next ∧ inbox'.Carries (body ++ [lineFeed]) ∧
          inbox'.inFlight.length < inbox.inFlight.length ∨
        ∃ reply, c r reply (.read (.ok (body ++ [lineFeed]))) ∧ d = next reply ∧
          inbox'.Carries []) := by
  cases h with
  | write hc => exact nomatch hr.only _ _ hc
  | hangUp hc => exact nomatch hr.only _ _ hc
  | @fetch _ _ _ _ _ _ piece rest _ hpiece hsplit =>
      obtain ⟨a, ha, hall⟩ := hc
      refine ⟨rfl, rfl, .inl ⟨rfl, ⟨a ++ piece, ha.append (Source.brings_ofBytes piece), ?_⟩, ?_⟩⟩
      · rw [← hall, hsplit, List.append_assoc]
      · have := List.length_pos_iff.mpr hpiece
        rw [hsplit, List.length_append]
        show rest.length < _
        omega
  | read hreply hread hwhole =>
      obtain ⟨hline, hleft, hflight⟩ := hc.readLine hbody hread (.inr ⟨_, rfl, hwhole⟩)
      cases hline
      exact ⟨rfl, rfl, .inr ⟨_, hreply, rfl, [], hleft, hflight⟩⟩
  | last hreply _ hflight hread =>
      obtain ⟨rfl, hleft, _⟩ := hc.readLine hbody hread (.inl hflight)
      exact ⟨rfl, rfl, .inr ⟨_, hreply, rfl, [], hleft, hflight⟩⟩

/-- While the line is on its way, the reader can move. -/
theorem Move.exists_of_line (gone : Prop) (next : I.Reply r → Dialogue I α) (outbox : Channel)
    (hr : Reads c r) (hbody : lineFeed ∉ body) (hc : inbox.Carries (body ++ [lineFeed])) :
    ∃ d inbox', Move c gone (.ask r next) inbox outbox d inbox' outbox := by
  by_cases hflight : inbox.inFlight = []
  · cases hread : inbox.arrived.readLine with
    | mk result left =>
        obtain ⟨rfl, -, -⟩ := hc.readLine hbody hread (.inl hflight)
        obtain ⟨reply, hreply⟩ := hr.some (.ok (body ++ [lineFeed]))
        exact ⟨_, _, .read hreply hread (by rw [List.getLast?_append]; rfl)⟩
  · obtain ⟨reply, hreply⟩ := hr.some (.ok [])
    exact ⟨_, _, .fetch hreply hflight (List.append_nil _).symm⟩

end OneLine

/-! ## The system -/

/-- Two parties and what is between them. -/
structure Joint (I J : Interface) (α β : Type) where
  left : Dialogue I α
  right : Dialogue J β
  toLeft : Channel
  toRight : Channel

/-- One step of either party. -/
inductive Step (c : Conduct I) (d : Conduct J) : Joint I J α β → Joint I J α β → Prop where
  | left {s : Joint I J α β} {l : Dialogue I α} {inbox outbox : Channel} :
      Move c (s.right.IsDone ∨ s.toLeft.closed = true) s.left s.toLeft s.toRight l inbox outbox →
      Step c d s ⟨l, s.right, inbox, outbox⟩
  | right {s : Joint I J α β} {r : Dialogue J β} {inbox outbox : Channel} :
      Move d (s.left.IsDone ∨ s.toRight.closed = true) s.right s.toRight s.toLeft r inbox outbox →
      Step c d s ⟨s.left, r, outbox, inbox⟩

/-- What holds of a system at every moment, where `agree` is what two results have to meet. -/
structure Sound (c : Conduct I) (d : Conduct J) (agree : α → β → Prop) (s : Joint I J α β) :
    Prop where
  /-- There is at most one whole line in the two channels. -/
  lines : s.toLeft.lines + s.toRight.lines ≤ 1
  /-- Somebody can move until both are done. -/
  live : ¬ (s.left.IsDone ∧ s.right.IsDone) → ∃ s', Step c d s s'
  agree : ∀ a b, s.left = .done a → s.right = .done b → agree a b

/-- The system is sound now and after all steps, however they are chosen. -/
inductive Safe (c : Conduct I) (d : Conduct J) (agree : α → β → Prop) : Joint I J α β → Prop where
  | intro {s : Joint I J α β} : Sound c d agree s → (∀ s', Step c d s s' → Safe c d agree s') →
      Safe c d agree s

variable {c : Conduct I} {d : Conduct J} {agree : α → β → Prop}

theorem Safe.sound {s : Joint I J α β} (h : Safe c d agree s) : Sound c d agree s := by
  cases h with
  | intro hs _ => exact hs

/-- **A safe system stays sound,** whatever the order of the steps. -/
theorem Safe.reachable {s s' : Joint I J α β} (h : Safe c d agree s)
    (hr : Relation.ReflTransGen (Step c d) s s') : Safe c d agree s' := by
  induction hr with
  | refl => exact h
  | tail _ hstep ih =>
      cases ih with
      | intro _ hnext => exact hnext _ hstep

/-- **A safe system stops:** it cannot go on for ever, in whatever order. -/
theorem Safe.stops {s : Joint I J α β} (h : Safe c d agree s) :
    Acc (fun s' s => Step c d s s') s := by
  induction h with
  | intro _ _ ih => exact ⟨_, ih⟩

/-- From a safe state both parties can come to their ends. -/
theorem Safe.finishes {s : Joint I J α β} (h : Safe c d agree s) :
    ∃ s', Relation.ReflTransGen (Step c d) s s' ∧ s'.left.IsDone ∧ s'.right.IsDone := by
  induction h with
  | @intro s hs _ ih =>
      by_cases hdone : s.left.IsDone ∧ s.right.IsDone
      · exact ⟨s, .refl, hdone⟩
      · obtain ⟨s', hstep⟩ := hs.live hdone
        obtain ⟨s'', hreach, hend⟩ := ih s' hstep
        exact ⟨s'', .head hstep hreach, hend⟩

/-! ## From the other side -/

/-- The same system with its sides exchanged. -/
def Joint.swap (s : Joint I J α β) : Joint J I β α := ⟨s.right, s.left, s.toRight, s.toLeft⟩

theorem Step.swap {s s' : Joint I J α β} (h : Step c d s s') : Step d c s.swap s'.swap := by
  cases h with
  | left h => exact .right h
  | right h => exact .left h

theorem Safe.swap {s : Joint I J α β} (h : Safe c d agree s) :
    Safe d c (fun b a => agree a b) s.swap := by
  induction h with
  | @intro s hs _ ih =>
      refine .intro ⟨?_, ?_, ?_⟩ ?_
      · rw [Nat.add_comm]
        exact hs.lines
      · intro hdone
        obtain ⟨s', hstep⟩ := hs.live fun h => hdone h.symm
        exact ⟨s'.swap, hstep.swap⟩
      · intro b a hb ha
        exact hs.agree a b ha hb
      · intro s' hstep
        exact ih s'.swap hstep.swap

/-! ## Parties that take turns -/

/-- Safe whenever nothing is between the two parties. -/
def Rests (c : Conduct I) (d : Conduct J) (agree : α → β → Prop) (l : Dialogue I α)
    (r : Dialogue J β) : Prop :=
  ∀ toLeft toRight : Channel, toLeft.Idle → toRight.Idle → Safe c d agree ⟨l, r, toLeft, toRight⟩

theorem Rests.swap {l : Dialogue I α} {r : Dialogue J β} (h : Rests c d agree l r) :
    Rests d c (fun b a => agree a b) r l :=
  fun toRight toLeft hright hleft => (h toLeft toRight hleft hright).swap

/-- A party that waits for a line. -/
def Waits (c : Conduct I) (l : Dialogue I α) : Prop := ∃ r next, l = .ask r next ∧ Reads c r

variable {l : Dialogue I α} {r : I.Request} {next : I.Reply r → Dialogue I α} {q : J.Request}
  {answer : J.Reply q → Dialogue J β} {toLeft toRight : Channel} {body : Bytes}

/-- A party that waits for a line leaves all steps to the other one. -/
theorem Step.of_waits {right : Dialogue J β} {s : Joint I J α β} (hw : Waits d right)
    (hi : toRight.Idle) (hl : ¬ l.IsDone) (h : Step c d ⟨l, right, toLeft, toRight⟩ s) :
    ∃ l' inbox outbox, s = ⟨l', right, inbox, outbox⟩ ∧
      Move c (right.IsDone ∨ toLeft.closed = true) l toLeft toRight l' inbox outbox := by
  obtain ⟨q, answer, rfl, hq⟩ := hw
  cases h with
  | left h => exact ⟨_, _, _, rfl, h⟩
  | right h =>
      -- its channel is empty, and the other party is neither done nor has it hung up
      refine absurd h (Move.not_of_idle hq hi.carries ?_)
      rintro (hdone | hclosed)
      · exact hl hdone
      · exact absurd hclosed (by rw [hi.closed]; decide)

/-- While nothing is between the parties and one of them can write, the system is sound. -/
theorem Sound.of_writes {right : Dialogue J β} {bytes : Bytes} (hr : Writes c r bytes)
    (next : I.Reply r → Dialogue I α) (hleft : toLeft.Carries []) (hright : toRight.Carries []) :
    Sound c d agree ⟨.ask r next, right, toLeft, toRight⟩ := by
  refine ⟨?_, ?_, nofun⟩
  · rw [hleft.lines_eq, hright.lines_eq]
    decide
  · intro _
    obtain ⟨reply, hreply⟩ := hr.some
    exact ⟨_, .left (.write hreply)⟩

/-- Where one party writes and the other one waits, what was written is all that comes about. -/
theorem Rests.of_writes {right : Dialogue J β} {bytes : Bytes} (hr : Writes c r bytes)
    (hw : Waits d right)
    (h : ∀ reply toLeft toRight, c r reply (.write bytes) → toLeft.Idle →
      toRight.Carries bytes → toRight.closed = false →
      Safe c d agree ⟨next reply, right, toLeft, toRight⟩) :
    Rests c d agree (.ask r next) right := by
  intro toLeft toRight hleft hright
  refine .intro (Sound.of_writes hr next hleft.carries hright.carries) ?_
  intro s hstep
  obtain ⟨l', inbox, outbox, rfl, hmove⟩ := hstep.of_waits hw hright id
  obtain ⟨reply, hreply, rfl, rfl, rfl⟩ := hmove.of_writes hr
  exact h reply _ _ hreply hleft (hright.carries.put bytes) hright.closed

/-- **One party works on its own** while the other one waits. -/
theorem Rests.quiet {right : Dialogue J β} (hr : Writes c r []) (hw : Waits d right)
    (h : ∀ reply, c r reply (.write []) → Rests c d agree (next reply) right) :
    Rests c d agree (.ask r next) right := by
  refine Rests.of_writes hr hw ?_
  intro reply toLeft toRight hreply hleft hcarries hopen
  exact h reply hreply _ _ hleft ⟨hcarries, hopen⟩

/-- While one line is on its way to a party, the system is sound. -/
theorem Sound.of_line (hbody : lineFeed ∉ body) (hq : Reads d q) (hleft : toLeft.Carries [])
    (c : Conduct I) (agree : α → β → Prop) (l : Dialogue I α)
    (hright : toRight.Carries (body ++ [lineFeed])) :
    Sound c d agree ⟨l, .ask q answer, toLeft, toRight⟩ := by
  refine ⟨?_, ?_, nofun⟩
  · rw [hleft.lines_eq, hright.lines_eq, List.count_append, List.count_eq_zero_of_not_mem hbody]
    decide
  · intro _
    obtain ⟨r', inbox, hmove⟩ := Move.exists_of_line _ answer toLeft hq hbody hright
    exact ⟨_, .right hmove⟩

/-- While a line is on its way to one party, the other one waits. -/
theorem Safe.deliver (hbody : lineFeed ∉ body) (hw : Waits c l) (hq : Reads d q)
    (hleft : toLeft.Idle) (hright : toRight.Carries (body ++ [lineFeed]))
    (hopen : toRight.closed = false)
    (h : ∀ reply, d q reply (.read (.ok (body ++ [lineFeed]))) →
      Rests c d agree l (answer reply)) :
    Safe c d agree ⟨l, .ask q answer, toLeft, toRight⟩ := by
  obtain ⟨r, next, rfl, hr⟩ := hw
  -- each fetch brings some of what is in flight, until the reader has the whole line
  induction hn : toRight.inFlight.length using Nat.strongRecOn generalizing toRight with
  | ind n ih =>
      refine .intro (Sound.of_line hbody hq hleft.carries c agree _ hright) ?_
      intro s hstep
      cases hstep with
      | left hmove =>
          refine absurd hmove (Move.not_of_idle hr hleft.carries ?_)
          rintro (hdone | hclosed)
          · exact hdone
          · exact absurd hclosed (by rw [hleft.closed]; decide)
      | right hmove =>
          obtain ⟨rfl, hclosed, hmoved⟩ := hmove.of_line hq hbody hright
          rcases hmoved with ⟨rfl, hcarries, hlt⟩ | ⟨reply, hreply, rfl, hcarries⟩
          · exact ih _ (hn ▸ hlt) hcarries (hclosed.trans hopen) rfl
          · exact h reply hreply _ _ hleft ⟨hcarries, hclosed.trans hopen⟩

/-- **One party says a line and waits,** and the other one goes on with the line. -/
theorem Rests.tell (hbody : lineFeed ∉ body) (hr : Writes c r (body ++ [lineFeed]))
    (hq : Reads d q) (hw : ∀ reply, c r reply (.write (body ++ [lineFeed])) → Waits c (next reply))
    (h : ∀ reply told, c r reply (.write (body ++ [lineFeed])) →
      d q told (.read (.ok (body ++ [lineFeed]))) →
      Rests c d agree (next reply) (answer told)) :
    Rests c d agree (.ask r next) (.ask q answer) := by
  refine Rests.of_writes hr ⟨q, answer, rfl, hq⟩ ?_
  intro reply toLeft toRight hreply hleft hcarries hopen
  refine Safe.deliver hbody (hw reply hreply) hq hleft hcarries hopen ?_
  intro told htold
  exact h reply told hreply htold

/-! ## The end -/

/-- A party that only has to finish, with a result that meets `Q`. -/
inductive Tail (c : Conduct I) (Q : α → Prop) : Dialogue I α → Prop where
  | done {a : α} : Q a → Tail c Q (.done a)
  | ask {r : I.Request} {next : I.Reply r → Dialogue I α} :
      (∃ reply act, c r reply act) →
      (∀ reply act, c r reply act → act = .write [] ∨ act = .hangUp) →
      (∀ reply act, c r reply act → Tail c Q (next reply)) → Tail c Q (.ask r next)

/-- A party that finishes changes nothing of what is on its way. -/
theorem Move.of_tail {gone : Prop} {l : Dialogue I α} {inbox outbox inbox' outbox' : Channel}
    (hact : ∀ reply act, c r reply act → act = .write [] ∨ act = .hangUp)
    (h : Move c gone (.ask r next) inbox outbox l inbox' outbox') :
    ∃ reply act, c r reply act ∧ l = next reply ∧ inbox' = inbox ∧
      outbox'.inFlight = outbox.inFlight ∧ outbox'.arrived = outbox.arrived := by
  cases h with
  | write hc =>
      rcases hact _ _ hc with hnil | hhang
      · cases hnil
        exact ⟨_, _, hc, rfl, rfl, List.append_nil _, rfl⟩
      · exact nomatch hhang
  | hangUp hc => exact ⟨_, _, hc, rfl, rfl, rfl, rfl⟩
  | fetch hc _ _ => exact (hact _ _ hc).elim nofun nofun
  | read hc _ _ => exact (hact _ _ hc).elim nofun nofun
  | last hc _ _ _ => exact (hact _ _ hc).elim nofun nofun

theorem Move.exists_of_tail (gone : Prop) (inbox outbox : Channel)
    (next : I.Reply r → Dialogue I α) (hsome : ∃ reply act, c r reply act)
    (hact : ∀ reply act, c r reply act → act = .write [] ∨ act = .hangUp) :
    ∃ l outbox', Move c gone (.ask r next) inbox outbox l inbox outbox' := by
  obtain ⟨reply, act, hc⟩ := hsome
  rcases hact reply act hc with rfl | rfl
  · exact ⟨_, _, .write hc⟩
  · exact ⟨_, _, .hangUp hc⟩

theorem Channel.Carries.congr {a b : Channel} {bytes : Bytes} (h : a.Carries bytes)
    (hflight : b.inFlight = a.inFlight) (harrived : b.arrived = a.arrived) : b.Carries bytes := by
  obtain ⟨brought, hb, hall⟩ := h
  exact ⟨brought, harrived ▸ hb, hflight ▸ hall⟩

/-- One party is done, and the other one finishes. -/
theorem Safe.tail_done {Q : α → Prop} {b : β} (ht : Tail c Q l) (hQ : ∀ a, Q a → agree a b)
    (hleft : toLeft.Carries []) (hright : toRight.Carries []) :
    Safe c d agree ⟨l, .done b, toLeft, toRight⟩ := by
  have hlines : ∀ toRight : Channel, toRight.Carries [] → toLeft.lines + toRight.lines ≤ 1 := by
    intro toRight hright
    rw [hleft.lines_eq, hright.lines_eq]
    decide
  induction ht generalizing toRight with
  | @done a ha =>
      refine .intro ⟨hlines _ hright, fun h => absurd ⟨trivial, trivial⟩ h, ?_⟩ ?_
      · rintro _ _ ⟨⟩ ⟨⟩
        exact hQ a ha
      · intro s hstep
        cases hstep with
        | left hmove => exact absurd hmove Move.not_of_done
        | right hmove => exact absurd hmove Move.not_of_done
  | ask hsome hact _ ih =>
      refine .intro ⟨hlines _ hright, ?_, nofun⟩ ?_
      · intro _
        obtain ⟨l', outbox, hmove⟩ := Move.exists_of_tail _ toLeft toRight _ hsome hact
        exact ⟨_, .left hmove⟩
      · intro s hstep
        cases hstep with
        | left hmove =>
            obtain ⟨reply, act, hc, rfl, rfl, hflight, harrived⟩ := hmove.of_tail hact
            exact ih reply act hc (hright.congr hflight harrived)
        | right hmove => exact absurd hmove Move.not_of_done

section LastLine

variable {Q : α → Prop} (hbody : lineFeed ∉ body) (hq : Reads d q) (hleft : toLeft.Carries [])
  (h : ∀ told, d q told (.read (.ok (body ++ [lineFeed]))) →
    ∃ b, answer told = .done b ∧ ∀ a, Q a → agree a b)
include hbody hq hleft h

/-- A step of the party that is still to get the last line brings the line nearer, or ends it. -/
theorem Safe.tail_of_move {gone : Prop} {r' : Dialogue J β} {inbox outbox : Channel}
    (ht : Tail c Q l) (hright : toRight.Carries (body ++ [lineFeed]))
    (hmove : Move d gone (.ask q answer) toRight toLeft r' inbox outbox)
    (ih : ∀ nearer : Channel, nearer.Carries (body ++ [lineFeed]) →
      nearer.inFlight.length < toRight.inFlight.length →
      Safe c d agree ⟨l, .ask q answer, toLeft, nearer⟩) :
    Safe c d agree ⟨l, r', outbox, inbox⟩ := by
  obtain ⟨rfl, -, hmoved⟩ := hmove.of_line hq hbody hright
  rcases hmoved with ⟨rfl, hcarries, hlt⟩ | ⟨told, htold, rfl, hcarries⟩
  · exact ih _ hcarries hlt
  · obtain ⟨b, hb, hagree⟩ := h told htold
    rw [hb]
    exact .tail_done ht hagree hleft hcarries

/-- One party finishes while its last line is on its way. -/
theorem Safe.tail (ht : Tail c Q l) (hright : toRight.Carries (body ++ [lineFeed])) :
    Safe c d agree ⟨l, .ask q answer, toLeft, toRight⟩ := by
  -- a step of the one makes its tail shorter, a step of the other brings the line nearer
  induction ht generalizing toRight with
  | @done a ha =>
      induction hn : toRight.inFlight.length using Nat.strongRecOn generalizing toRight with
      | ind n nearer =>
          refine .intro (Sound.of_line hbody hq hleft c agree _ hright) ?_
          intro s hstep
          cases hstep with
          | left hmove => exact absurd hmove Move.not_of_done
          | right hmove =>
              exact Safe.tail_of_move hbody hq hleft h (.done ha) hright hmove
                fun _ hcarries hlt => nearer _ (hn ▸ hlt) hcarries rfl
  | @ask r next hsome hact hnext ih =>
      induction hn : toRight.inFlight.length using Nat.strongRecOn generalizing toRight with
      | ind n nearer =>
          refine .intro (Sound.of_line hbody hq hleft c agree _ hright) ?_
          intro s hstep
          cases hstep with
          | left hmove =>
              obtain ⟨reply, act, hc, rfl, rfl, hflight, harrived⟩ := hmove.of_tail hact
              exact ih reply act hc (hright.congr hflight harrived)
          | right hmove =>
              exact Safe.tail_of_move hbody hq hleft h (.ask hsome hact hnext) hright hmove
                fun _ hcarries hlt => nearer _ (hn ▸ hlt) hcarries rfl

end LastLine

/-- **One party says its last line,** and both come to their ends in any order. -/
theorem Rests.farewell {Q : α → Prop} (hbody : lineFeed ∉ body)
    (hr : Writes c r (body ++ [lineFeed])) (hq : Reads d q)
    (ht : ∀ reply, c r reply (.write (body ++ [lineFeed])) → Tail c Q (next reply))
    (h : ∀ told, d q told (.read (.ok (body ++ [lineFeed]))) →
      ∃ b, answer told = .done b ∧ ∀ a, Q a → agree a b) :
    Rests c d agree (.ask r next) (.ask q answer) := by
  refine Rests.of_writes hr ⟨q, answer, rfl, hq⟩ ?_
  intro reply toLeft toRight hreply hleft hcarries _
  exact Safe.tail hbody hq hleft.carries h (ht reply hreply) hcarries

end Lockstep
