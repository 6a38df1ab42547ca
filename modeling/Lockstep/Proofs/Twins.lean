import Lockstep.Proofs.Course
import Lockstep.Proofs.Delivery

/-!
# Runs that cannot be told apart

Two sessions may differ in what their commands print, in how those fail that do not succeed, and in
what becomes of their files once the first command has run. `Matched` says this of two surroundings.
What can be seen of a run from outside is its exposed exchanges: all of them but the commands, their
output, the faults, and the journal. Two dialogues are *twins* if in matched surroundings their runs
are `Indistinct`: their exposed exchanges are the same, with the same replies, and they run the same
commands, of which the same succeed.

Twins need not ask for the same things. A note, output that is passed on, or a fault that is
reported on one side only is left out of the comparison (`Twins.left`, `Twins.right`), and where
both run a command they go on with replies that agree in nothing but its success (`Twins.invoke`).
Files are read early, before any command, and the rules keep track of this.
-/

namespace Lockstep

open Script (succeeded)

namespace Controller

variable {η η' α α' β β' : Type}

/-! ## What is exposed -/

/-- A request that has to do with the client alone, or with the journal. -/
def Request.isPlain : Request → Bool
  | .resolve _ | .load _ | .invoke _ | .relay _ _ | .mark (.faulted _ _) => false
  | _ => true

/-- A request that only the output, the engine's caller or the journal hears of. -/
def Request.isPrivate : Request → Bool
  | .relay _ _ | .mark (.faulted _ _) | .note _ => true
  | _ => false

/-- An exchange that can be seen from outside; a command cannot, for its reply is its own. -/
def Exchange.isExposed : Exchange → Bool
  | ⟨.invoke _, _⟩ => false
  | ⟨r, _⟩ => !r.isPrivate

/-- What can be seen of a run from outside. -/
def exposed (t : List Exchange) : List Exchange := t.filter Exchange.isExposed

/-- The commands that were run, and which of them succeeded. -/
def attempts (t : List Exchange) : List (Invocation × Bool) :=
  (executed t).map fun x => (x.1, succeeded x.2)

/-- The line that the target came to. -/
def Exchange.event? : Exchange → Option LineEvent
  | ⟨.mark (.reached event), _⟩ => some event
  | _ => none

/-- The lines that the target came to, in order. -/
def reached (t : List Exchange) : List LineEvent := t.filterMap Exchange.event?

theorem exposed_append (t u : List Exchange) : exposed (t ++ u) = exposed t ++ exposed u :=
  List.filter_append ..

theorem attempts_append (t u : List Exchange) : attempts (t ++ u) = attempts t ++ attempts u := by
  rw [attempts, executed, List.filterMap_append, List.map_append]
  rfl

/-- Nothing is sent, no line is consumed and none is reached but in exposed exchanges. -/
theorem Exchange.hidden {x : Exchange} (hx : x.isExposed = false) :
    x.sent = [] ∧ x.isReceive = false ∧ x.event? = none := by
  obtain ⟨r, reply⟩ := x
  cases r with
  | invoke | relay | note => exact ⟨rfl, rfl, rfl⟩
  | mark m => cases m <;> first | exact ⟨rfl, rfl, rfl⟩ | exact nomatch hx
  | _ => exact nomatch hx

theorem sent_exposed (t : List Exchange) : sent (exposed t) = sent t := by
  induction t with
  | nil => rfl
  | cons x rest ih =>
      rw [exposed, List.filter_cons, sent, sent, List.flatMap_cons]
      cases hx : x.isExposed with
      | true => exact congrArg (x.sent ++ ·) ih
      | false =>
          rw [(Exchange.hidden hx).1]
          exact ih

theorem consumed_exposed (t : List Exchange) : consumed (exposed t) = consumed t := by
  rw [consumed, exposed, List.filter_filter]
  refine List.filter_congr fun x _ => ?_
  cases hx : x.isExposed with
  | true => exact Bool.and_true _
  | false =>
      rw [(Exchange.hidden hx).2.1]
      rfl

theorem reached_exposed (t : List Exchange) : reached (exposed t) = reached t := by
  rw [reached, exposed, List.filterMap_filter]
  refine List.filterMap_congr fun x _ => ?_
  cases hx : x.isExposed with
  | true => rfl
  | false =>
      rw [(Exchange.hidden hx).2.2]
      rfl

/-! ## Matched surroundings -/

/-- Surroundings that differ in the outcomes of their commands, but for which of them succeed, and
in their files, but not before the first command. -/
structure Matched (early : Bool) (host : Host η) (host' : Host η') (w : World η) (w' : World η') :
    Prop where
  source : w.source = w'.source
  sink : w.sink = w'.sink
  hangUp : w.hangUp = w'.hangUp
  outputs : w.output.receiver.Obliging ∧ w'.output.receiver.Obliging
  commands : ∀ is, (host.results w.host is).map (succeeded ·.2) =
    (host'.results w'.host is).map (succeeded ·.2)
  files : early = true →
    host.resolve w.host = host'.resolve w'.host ∧ host.load w.host = host'.load w'.host

variable {host : Host η} {host' : Host η'} {early late : Bool} {w : World η} {w' : World η'}

namespace Matched

theorem symm (hw : Matched early host host' w w') : Matched early host' host w' w where
  source := hw.source.symm
  sink := hw.sink.symm
  hangUp := hw.hangUp.symm
  outputs := hw.outputs.symm
  commands is := (hw.commands is).symm
  files h := ⟨(hw.files h).1.symm, (hw.files h).2.symm⟩

/-- Surroundings match themselves. -/
theorem refl (host : Host η) (hw : w.output.receiver.Obliging) : Matched early host host w w :=
  ⟨rfl, rfl, rfl, ⟨hw, hw⟩, fun _ => rfl, fun _ => ⟨rfl, rfl⟩⟩

/-- What is known of files may be forgotten. -/
theorem later (hw : Matched early host host' w w') : Matched false host host' w w' :=
  { hw with files := nofun }

/-- A plain request is answered alike. -/
theorem plain (hw : Matched early host host' w w') {r : Request} (hr : r.isPlain = true) :
    (World.answer host r w).1 = (World.answer host' r w').1 ∧
      Matched early host host' (World.answer host r w).2 (World.answer host' r w').2 := by
  have hdeliver : ∀ buffers, w.sink.deliver buffers = w'.sink.deliver buffers :=
    fun buffers => congrArg (Sink.deliver · buffers) hw.sink
  have hread : w.source.readLine = w'.source.readLine := congrArg Source.readLine hw.source
  cases r with
  | send m =>
      exact ⟨congrArg Prod.fst (hdeliver _), { hw with sink := congrArg Prod.snd (hdeliver _) }⟩
  | flush =>
      exact ⟨congrArg Prod.fst (hdeliver []), { hw with sink := congrArg Prod.snd (hdeliver []) }⟩
  | receive =>
      exact ⟨congrArg Prod.fst hread, { hw with source := congrArg Prod.snd hread }⟩
  | hangUp => exact ⟨hw.hangUp, hw⟩
  | pause | mark | note => exact ⟨rfl, hw⟩
  | _ => exact nomatch hr

/-- A command succeeds on both sides or on neither, and its files are its own. -/
theorem invoke (hw : Matched early host host' w w') (i : Invocation) :
    succeeded (World.answer host (.invoke i) w).1 =
        succeeded (World.answer host' (.invoke i) w').1 ∧
      Matched false host host' (World.answer host (.invoke i) w).2
        (World.answer host' (.invoke i) w').2 := by
  refine ⟨?_, { hw with commands := ?_, files := nofun }⟩
  · exact (List.cons.inj (hw.commands [i])).1
  · exact fun is => (List.cons.inj (hw.commands (i :: is))).2

end Matched

/-- The output was accepted. -/
def Exchange.Passed : Exchange → Prop
  | ⟨.relay _ _, d⟩ => d.outcome = .ok ()
  | _ => True

/-- A private request is no matter of the other side. -/
theorem Matched.hidden (hw : Matched early host host' w w') {r : Request}
    (hr : r.isPrivate = true) :
    Exchange.Passed ⟨r, (World.answer host r w).1⟩ ∧
      Matched early host host' (World.answer host r w).2 w' := by
  cases r with
  | relay out err =>
      obtain ⟨hok, -, hreceiver⟩ := Sink.deliver_obliging hw.outputs.1 [out, err]
      refine ⟨hok, { hw with outputs := ⟨?_, hw.outputs.2⟩ }⟩
      show (w.output.deliver [out, err]).2.receiver.Obliging
      rw [hreceiver]
      exact hw.outputs.1
  | mark | note => exact ⟨trivial, hw⟩
  | _ => exact nomatch hr

/-! ## Twins -/

/-- Runs that look the same from outside and whose values are related. -/
structure Indistinct (late : Bool) (host : Host η) (host' : Host η') (good : α → α' → Prop)
    (o : Dialogue.Outcome interface (World η) α) (o' : Dialogue.Outcome interface (World η') α') :
    Prop where
  value : good o.value o'.value
  exposed : exposed o.trace = exposed o'.trace
  attempts : attempts o.trace = attempts o'.trace
  state : Matched late host host' o.state o'.state

theorem Indistinct.symm {good : α → α' → Prop} {o : Dialogue.Outcome interface (World η) α}
    {o' : Dialogue.Outcome interface (World η') α'} (h : Indistinct late host host' good o o') :
    Indistinct late host' host (fun a a' => good a' a) o' o :=
  ⟨h.value, h.exposed.symm, h.attempts.symm, h.state.symm⟩

/-- In matched surroundings the two dialogues cannot be told apart. Files are compared at the start
only if it is `early`, and at the end only if it is not too `late` for that. -/
def Twins (host : Host η) (host' : Host η') (early late : Bool) (good : α → α' → Prop)
    (d : Talk α) (d' : Talk α') : Prop :=
  ∀ w w', Matched early host host' w w' →
    Indistinct late host host' good (d.run (World.answer host) w) (d'.run (World.answer host') w')

namespace Twins

variable {last : Bool} {good : α → α' → Prop} {good' : β → β' → Prop} {d : Talk α} {d' : Talk α'}

theorem symm (h : Twins host' host early late (fun a' a => good a a') d' d) :
    Twins host host' early late good d d' :=
  fun w w' hw => (h w' w hw.symm).symm

theorem done {a : α} {a' : α'} (h : good a a') :
    Twins host host' early early good (.done a) (.done a') :=
  fun _ _ hw => ⟨h, rfl, rfl, hw⟩

/-- One dialogue after another. -/
theorem bind {f : α → Talk β} {f' : α' → Talk β'} (hd : Twins host host' early late good d d')
    (hf : ∀ a a', good a a' → Twins host host' late last good' (f a) (f' a')) :
    Twins host host' early last good' (d >>= f) (d' >>= f') := by
  intro w w' hw
  have hfirst := hd w w' hw
  have hlater := hf _ _ hfirst.value _ _ hfirst.state
  rw [Dialogue.run_bind, Dialogue.run_bind]
  refine ⟨hlater.value, ?_, ?_, hlater.state⟩
  · dsimp only
    rw [exposed_append, exposed_append, hfirst.exposed, hlater.exposed]
  · dsimp only
    rw [attempts_append, attempts_append, hfirst.attempts, hlater.attempts]

/-- What does not need the files may be done early. -/
theorem of_late (h : Twins host host' false late good d d') :
    Twins host host' early late good d d' :=
  fun w w' hw => h w w' hw.later

/-- The same exchange on both sides. -/
theorem same {r : Request} {next : Reply r → Talk α} {next' : Reply r → Talk α'} {mid : Bool}
    (hr : ∀ w w', Matched early host host' w w' →
      (World.answer host r w).1 = (World.answer host' r w').1 ∧
        Matched mid host host' (World.answer host r w).2 (World.answer host' r w').2)
    (h : ∀ reply, Twins host host' mid late good (next reply) (next' reply)) :
    Twins host host' early late good (.ask r next) (.ask r next') := by
  intro w w' hw
  obtain ⟨hreply, hafter⟩ := hr w w' hw
  have hlater := h (World.answer host r w).1 _ _ hafter
  rw [Dialogue.run_ask, Dialogue.run_ask, ← hreply]
  refine ⟨hlater.value, ?_, ?_, hlater.state⟩
  · refine (exposed_append [_] _).trans ((congrArg (_ ++ ·) hlater.exposed).trans ?_)
    exact (exposed_append [_] _).symm
  · refine (attempts_append [_] _).trans ((congrArg (_ ++ ·) hlater.attempts).trans ?_)
    exact (attempts_append [_] _).symm

theorem ask {r : Request} {next : Reply r → Talk α} {next' : Reply r → Talk α'}
    (hr : r.isPlain = true)
    (h : ∀ reply, Twins host host' early late good (next reply) (next' reply)) :
    Twins host host' early late good (.ask r next) (.ask r next') :=
  same (fun _ _ hw => hw.plain hr) h

theorem resolve {path : String} {next : Except SystemError String → Talk α}
    {next' : Except SystemError String → Talk α'}
    (h : ∀ reply, Twins host host' true late good (next reply) (next' reply)) :
    Twins host host' true late good (.ask (.resolve path) next) (.ask (.resolve path) next') :=
  same (fun _ _ hw => ⟨congrFun (hw.files rfl).1 path, hw⟩) h

theorem load {path : String} {next : Except SystemError (List Char) → Talk α}
    {next' : Except SystemError (List Char) → Talk α'}
    (h : ∀ reply, Twins host host' true late good (next reply) (next' reply)) :
    Twins host host' true late good (.ask (.load path) next) (.ask (.load path) next') :=
  same (fun _ _ hw => ⟨congrFun (hw.files rfl).2 path, hw⟩) h

/-- The same command on both sides, of whose outcomes only this is known. -/
theorem invoke {i : Invocation} {next : Except SystemError Completion → Talk α}
    {next' : Except SystemError Completion → Talk α'}
    (h : ∀ r r', succeeded r = succeeded r' →
      Twins host host' false late good (next r) (next' r')) :
    Twins host host' early late good (.ask (.invoke i) next) (.ask (.invoke i) next') := by
  intro w w' hw
  obtain ⟨hreply, hafter⟩ := hw.invoke i
  have hlater := h _ _ hreply _ _ hafter
  rw [Dialogue.run_ask, Dialogue.run_ask]
  refine ⟨hlater.value, hlater.exposed, ?_, hlater.state⟩
  exact congrArg₂ (fun b rest => (i, b) :: rest) hreply hlater.attempts

/-- A private request on one side. -/
theorem left {r : Request} {next : Reply r → Talk α} (hr : r.isPrivate = true)
    (h : ∀ reply, Exchange.Passed ⟨r, reply⟩ →
      Twins host host' early late good (next reply) d') :
    Twins host host' early late good (.ask r next) d' := by
  intro w w' hw
  obtain ⟨hpassed, hafter⟩ := hw.hidden hr
  have hlater := h _ hpassed _ _ hafter
  have hhidden : exposed [⟨r, (World.answer host r w).1⟩] = [] ∧
      attempts [⟨r, (World.answer host r w).1⟩] = [] := by
    cases r with
    | relay | note => exact ⟨rfl, rfl⟩
    | mark m => cases m <;> first | exact ⟨rfl, rfl⟩ | exact nomatch hr
    | _ => exact nomatch hr
  rw [Dialogue.run_ask]
  refine ⟨hlater.value, ?_, ?_, hlater.state⟩
  · refine (exposed_append [_] _).trans ?_
    rw [hhidden.1]
    exact hlater.exposed
  · refine (attempts_append [_] _).trans ?_
    rw [hhidden.2]
    exact hlater.attempts

theorem right {r : Request} {next : Reply r → Talk α'} (hr : r.isPrivate = true)
    (h : ∀ reply, Exchange.Passed ⟨r, reply⟩ →
      Twins host host' early late good d (next reply)) :
    Twins host host' early late good d (.ask r next) :=
  .symm (.left hr fun reply hpassed => .symm (h reply hpassed))

end Twins

/-! ## Plain dialogues -/

/-- Only plain requests are made. -/
def Plain : Talk α → Prop
  | .done _ => True
  | .ask r next => r.isPlain = true ∧ ∀ reply, Plain (next reply)

namespace Plain

theorem done (a : α) : Plain (.done a : Talk α) := trivial

theorem ask {r : Request} {next : Reply r → Talk α} (hr : r.isPlain = true)
    (h : ∀ reply, Plain (next reply)) : Plain (.ask r next : Talk α) := ⟨hr, h⟩

/-- What comes after a delivery depends on whether it failed. -/
theorem onDelivery {next : Delivery → Talk α}
    (herror : ∀ accepted cause, Plain (next ⟨accepted, .error cause⟩))
    (hok : ∀ accepted, Plain (next ⟨accepted, .ok ()⟩)) (d : Delivery) : Plain (next d) := by
  obtain ⟨accepted, outcome⟩ := d
  cases outcome with
  | error cause => exact herror accepted cause
  | ok u => exact hok accepted

/-- One dialogue after another. -/
theorem bind {d : Talk α} {f : α → Talk β} (hd : Plain d) (hf : ∀ a, Plain (f a)) :
    Plain (d >>= f) := by
  induction d with
  | done a => exact hf a
  | ask r next ih => exact ⟨hd.1, fun reply => ih reply (hd.2 reply)⟩

/-- **A plain dialogue is its own twin.** -/
theorem twins {d : Talk α} (hd : Plain d) : Twins host host' early early Eq d d := by
  induction d with
  | done a => exact .done rfl
  | ask r next ih => exact .ask hd.1 fun reply => ih reply (hd.2 reply)

end Plain

end Controller

end Lockstep
