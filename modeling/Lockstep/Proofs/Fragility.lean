import Lockstep.Proofs.Calls
import Lockstep.Proofs.Gate

/-!
# What a failed delivery does to a dialogue

A dialogue is fragile if a failed delivery is the end of it: nothing but the journal is written
after it, and its value is one of those that say so. What becomes of a delivery that does not fail
must not depend on the pieces in which the client took it.

A run of such a dialogue is compared with the run in the same surroundings whose writes succeed.
Until the first failed delivery the two do the same; so a failure cuts the run short and does
nothing else to it (`Fragile.run`), and its failed call is its last (`Fragile.ceases`).
-/

namespace Lockstep.Controller

variable {α β η : Type}

/-- Only the journal is written, and the end is one of these. -/
def Halts (bad : α → Prop) : Talk α → Prop
  | .done a => bad a
  | .ask (.note _) next => Halts bad (next ())
  | .ask _ _ => False

/-- What comes after a delivery depends on its outcome only, and if it failed the dialogue halts. -/
structure Heeds (bad : α → Prop) (next : Delivery → Talk α) : Prop where
  same : ∀ d d' : Delivery, d.outcome = d'.outcome → next d = next d'
  fail : ∀ (d : Delivery) cause, d.outcome = .error cause → Halts bad (next d)

/-- Deliveries are the only requests whose replies have to be heeded. -/
def Minds (bad : α → Prop) : (r : Request) → (Reply r → Talk α) → Prop
  | .send _, next | .flush, next => Heeds bad next
  | _, _ => True

/-- A failed delivery is the end of the dialogue, and its value is one of these. -/
def Fragile (bad : α → Prop) : Talk α → Prop
  | .done _ => True
  | .ask r next => Minds bad r next ∧ ∀ reply, Fragile bad (next reply)

namespace Halts

variable {bad : α → Prop} {bad' : β → Prop}

theorem done {a : α} (h : bad a) : Halts bad (.done a) := h

theorem note {record : Journal.Record} {next : Unit → Talk α} (h : Halts bad (next ())) :
    Halts bad (.ask (.note record) next) := h

theorem bind {d : Talk α} {f : α → Talk β} (h : Halts bad d) (hf : ∀ a, bad a → Halts bad' (f a)) :
    Halts bad' (d >>= f) := by
  induction d with
  | done a => exact hf a h
  | ask r next ih =>
      cases r with
      | note record => exact ih () h
      | _ => exact h.elim

theorem fragile {d : Talk α} {P : α → Prop} (h : Halts bad d) : Fragile P d := by
  induction d with
  | done a => trivial
  | ask r next ih =>
      cases r with
      | note record => exact ⟨trivial, fun reply => ih reply h⟩
      | _ => exact h.elim

/-- The run of a dialogue that halts adds nothing but notes. -/
theorem run {d : Talk α} (h : Halts bad d) (host : Host η) (w : World η) :
    bad (d.run (World.answer host) w).value ∧
      ∀ x ∈ (d.run (World.answer host) w).trace, ∃ record, x.request = .note record := by
  induction d generalizing w with
  | done a => exact ⟨h, nofun⟩
  | ask r next ih =>
      cases r with
      | note record =>
          obtain ⟨hvalue, htrace⟩ := ih () h w
          exact ⟨hvalue, List.forall_mem_cons.mpr ⟨⟨record, rfl⟩, htrace⟩⟩
      | _ => exact h.elim

end Halts

/-- A delivery whose failure ends the dialogue. -/
theorem Heeds.fragile {bad : α → Prop} {next : Delivery → Talk α} (h : Heeds bad next)
    (hok : ∀ d : Delivery, d.outcome = .ok () → Fragile bad (next d)) (d : Delivery) :
    Fragile bad (next d) := by
  cases hd : d.outcome with
  | ok u => exact hok d hd
  | error cause => exact (h.fail d cause hd).fragile

theorem Heeds.bind {bad : α → Prop} {bad' : β → Prop} {next : Delivery → Talk α}
    {f : α → Talk β} (h : Heeds bad next) (hbad : ∀ a, bad a → Halts bad' (f a)) :
    Heeds bad' fun d => next d >>= f where
  same d d' hd := by rw [h.same d d' hd]
  fail d cause hd := (h.fail d cause hd).bind hbad

namespace Fragile

variable {bad : α → Prop} {bad' : β → Prop}

theorem done (a : α) : Fragile bad (.done a) := trivial

theorem send {m : Message} {next : Delivery → Talk α} (h : Heeds bad next)
    (hok : ∀ d : Delivery, d.outcome = .ok () → Fragile bad (next d)) :
    Fragile bad (.ask (.send m) next) := ⟨h, h.fragile hok⟩

theorem flush {next : Delivery → Talk α} (h : Heeds bad next)
    (hok : ∀ d : Delivery, d.outcome = .ok () → Fragile bad (next d)) :
    Fragile bad (.ask .flush next) := ⟨h, h.fragile hok⟩

/-- Any other request only has to be followed by something fragile. -/
theorem ask {r : Request} {next : Reply r → Talk α} (hr : Minds bad r next)
    (hnext : ∀ reply, Fragile bad (next reply)) : Fragile bad (.ask r next) := ⟨hr, hnext⟩

theorem bind {d : Talk α} {f : α → Talk β} (hd : Fragile bad d) (hf : ∀ a, Fragile bad' (f a))
    (hbad : ∀ a, bad a → Halts bad' (f a)) : Fragile bad' (d >>= f) := by
  induction d with
  | done a => exact hf a
  | ask r next ih =>
      obtain ⟨hr, hnext⟩ := hd
      refine ⟨?_, fun reply => ih reply (hnext reply)⟩
      cases r with
      | send m => exact Heeds.bind hr hbad
      | flush => exact Heeds.bind hr hbad
      | _ => trivial

end Fragile

/-! ## Two runs -/

/-- The same surroundings, but no write to the client fails in the second. -/
structure Spares (w w' : World η) : Prop where
  sink : w'.sink.receiver.Obliging
  source : w'.source = w.source
  output : w'.output = w.output
  hangUp : w'.hangUp = w.hangUp
  host : w'.host = w.host

/-- All but delivering to the client and writing to the journal. -/
def Exchange.isOther (x : Exchange) : Bool :=
  match x.request with
  | .send _ | .flush | .note _ => false
  | _ => true

/-- The first run is the second one, or is cut short and has a value that says so. -/
structure Truncates (bad : α → Prop) (o o' : Dialogue.Outcome interface (World η) α) : Prop where
  sent : sent o.trace <+: sent o'.trace
  other : o.trace.filter Exchange.isOther <+: o'.trace.filter Exchange.isOther
  ends : (o.value = o'.value ∧ Controller.sent o.trace = Controller.sent o'.trace) ∨ bad o.value

namespace Truncates

variable {bad : α → Prop} {o o' : Dialogue.Outcome interface (World η) α} {x x' : Exchange}
  {v v' : World η}

/-- After the same exchange the two runs are as they were before it. -/
theorem cons (h : Truncates bad o o') (hsent : x.sent = x'.sent)
    (hother : [x].filter Exchange.isOther = [x'].filter Exchange.isOther) :
    Truncates bad ⟨o.value, x :: o.trace, v⟩ ⟨o'.value, x' :: o'.trace, v'⟩ := by
  have hcons : ∀ (y : Exchange) t, Controller.sent (y :: t) = y.sent ++ Controller.sent t :=
    fun _ _ => List.flatMap_cons
  have hfilter : ∀ (y : Exchange) t, (y :: t).filter Exchange.isOther =
      [y].filter Exchange.isOther ++ t.filter Exchange.isOther :=
    fun y t => List.filter_append [y] t
  refine ⟨?_, ?_, ?_⟩
  · rw [hcons, hcons, hsent]
    exact (List.prefix_append_right_inj _).mpr h.sent
  · rw [hfilter, hfilter x', hother]
    exact (List.prefix_append_right_inj _).mpr h.other
  · rw [hcons, hcons, hsent]
    rcases h.ends with ⟨hvalue, hsame⟩ | hbad
    · exact .inl ⟨hvalue, congrArg _ hsame⟩
    · exact .inr hbad

/-- After a delivery that failed in the first run only, this run halts. -/
theorem halt {a : α} {t : List Exchange} (hbad : bad o.value)
    (hnotes : ∀ y ∈ o.trace, ∃ record, y.request = .note record) (hsent : x.sent <+: x'.sent)
    (hother : x.isOther = false) :
    Truncates bad ⟨o.value, x :: o.trace, v⟩ ⟨a, x' :: t, v'⟩ := by
  have hsilent : Controller.sent o.trace = [] := by
    refine List.flatMap_eq_nil_iff.mpr ?_
    rintro ⟨r, reply⟩ hy
    obtain ⟨record, rfl⟩ := hnotes _ hy
    rfl
  have hnothing : (x :: o.trace).filter Exchange.isOther = [] := by
    refine List.filter_eq_nil_iff.mpr ?_
    rintro ⟨r, reply⟩ hy
    rcases List.mem_cons.mp hy with rfl | hy
    · exact (Bool.not_eq_true _).mpr hother
    · obtain ⟨record, rfl⟩ := hnotes _ hy
      exact Bool.false_ne_true
  refine ⟨?_, ?_, .inr hbad⟩
  · show (x :: o.trace).flatMap Exchange.sent <+: (x' :: t).flatMap Exchange.sent
    rw [List.flatMap_cons, List.flatMap_cons,
      show o.trace.flatMap Exchange.sent = [] from hsilent, List.append_nil]
    exact hsent.trans (List.prefix_append _ _)
  · rw [hnothing]
    exact List.nil_prefix

end Truncates

/-- Where no delivery is asked for, both runs get the same reply and go on as they were. -/
theorem Spares.answer {w w' : World η} (h : Spares w w') (host : Host η) {r : Request}
    (hsend : ∀ m, r ≠ .send m) (hflush : r ≠ .flush) :
    (World.answer host r w').1 = (World.answer host r w).1 ∧
      Spares (World.answer host r w).2 (World.answer host r w').2 := by
  obtain ⟨hsink, hsource, houtput, hhangUp, hhost⟩ := h
  obtain ⟨source, sink, output, hangUp, state⟩ := w
  obtain ⟨source', sink', output', hangUp', state'⟩ := w'
  obtain rfl : source' = source := hsource
  obtain rfl : output' = output := houtput
  obtain rfl : hangUp' = hangUp := hhangUp
  obtain rfl : state' = state := hhost
  cases r with
  | send m => exact absurd rfl (hsend m)
  | flush => exact absurd rfl hflush
  | _ => exact ⟨rfl, hsink, rfl, rfl, rfl, rfl⟩

/-- A delivery that fails in the first run ends it, and after one that does not the runs go on. -/
theorem Heeds.truncates {bad : α → Prop} {next : Delivery → Talk α} (h : Heeds bad next)
    (host : Host η) {w w' : World η} (hw : Spares w w') (buffers : List Bytes)
    (exchange : Delivery → Exchange) (hsent : ∀ d, (exchange d).sent = d.accepted.flatten)
    (hother : ∀ d, (exchange d).isOther = false)
    (hnext : ∀ d {w w' : World η}, Spares w w' →
      Truncates bad ((next d).run (World.answer host) w) ((next d).run (World.answer host) w')) :
    let r := w.sink.deliver buffers
    let r' := w'.sink.deliver buffers
    let o := (next r.1).run (World.answer host) { w with sink := r.2 }
    let o' := (next r'.1).run (World.answer host) { w' with sink := r'.2 }
    Truncates bad ⟨o.value, exchange r.1 :: o.trace, o.state⟩
      ⟨o'.value, exchange r'.1 :: o'.trace, o'.state⟩ := by
  intro r r'
  have htook : w'.sink.Took buffers.flatten r' := Sink.deliver_obliging hw.sink buffers
  have hconveys : r.1.Conveys buffers.flatten := w.sink.deliver_conveys buffers
  have hspares : Spares { w with sink := r.2 } { w' with sink := r'.2 } := by
    refine { hw with sink := ?_ }
    rw [show r'.2.receiver = w'.sink.receiver from htook.receiver]
    exact hw.sink
  dsimp only
  cases hr : r.1.outcome with
  | ok u =>
      rw [h.same r'.1 r.1 (htook.outcome.trans hr.symm)]
      refine (hnext r.1 hspares).cons ?_ ?_
      · rw [hsent, hsent, htook.accepted]
        exact hconveys.whole hr
      · simp [hother]
  | error cause =>
      obtain ⟨hbad, hnotes⟩ := (h.fail r.1 cause hr).run host { w with sink := r.2 }
      refine .halt hbad hnotes ?_ (hother r.1)
      rw [hsent, hsent, htook.accepted]
      exact hconveys.part

/-- **A failed delivery cuts a fragile dialogue short,** and does nothing else to it. -/
theorem Fragile.run {bad : α → Prop} {d : Talk α} (hd : Fragile bad d) (host : Host η)
    {w w' : World η} (hw : Spares w w') :
    Truncates bad (d.run (World.answer host) w) (d.run (World.answer host) w') := by
  induction d generalizing w w' with
  | done a => exact ⟨List.prefix_rfl, List.prefix_rfl, .inl ⟨rfl, rfl⟩⟩
  | ask r next ih =>
      obtain ⟨hr, hnext⟩ := hd
      have hgo : ∀ reply {w w' : World η}, Spares w w' → Truncates bad
          ((next reply).run (World.answer host) w) ((next reply).run (World.answer host) w') :=
        fun reply _ _ hw => ih reply (hnext reply) hw
      -- all requests but deliveries are answered alike in the two runs
      have hother : (∀ m, r ≠ .send m) → r ≠ .flush → Truncates bad
          ((Dialogue.ask r next : Talk α).run (World.answer host) w)
          ((Dialogue.ask r next : Talk α).run (World.answer host) w') := by
        intro hsend hflush
        obtain ⟨hreply, hspares⟩ := hw.answer host hsend hflush
        rw [Dialogue.run_ask, Dialogue.run_ask]
        dsimp only
        rw [hreply]
        exact (hgo _ hspares).cons rfl rfl
      cases r with
      | send m =>
          have hheeds : Heeds bad next := hr
          exact hheeds.truncates host hw [m.bytes] (⟨.send m, ·⟩) (fun _ => rfl) (fun _ => rfl) hgo
      | flush =>
          have hheeds : Heeds bad next := hr
          exact hheeds.truncates host hw [] (⟨.flush, ·⟩) (fun _ => rfl) (fun _ => rfl) hgo
      | _ => exact hother nofun nofun

/-! ## Calls -/

theorem calls_of_notes (s : Sink) {t : List Exchange}
    (h : ∀ x ∈ t, ∃ record, x.request = .note record) : calls s t = [] := by
  induction t with
  | nil => rfl
  | cons x rest ih =>
      obtain ⟨hx, hrest⟩ := List.forall_mem_cons.mp h
      obtain ⟨r, reply⟩ := x
      obtain ⟨record, rfl⟩ := hx
      exact ih hrest

/-- No call failed, or only the last, and then the value is one of these. -/
def Ceases (bad : α → Prop) (value : α) (calls : List Call) : Prop :=
  ∃ result, Call.Stop calls result ∧ (result = .ok () ∨ bad value)

theorem Heeds.ceases {bad : α → Prop} {next : Delivery → Talk α} (h : Heeds bad next)
    (host : Host η) (w : World η) (buffers : List Bytes)
    (hnext : ∀ d (w : World η),
      let o := (next d).run (World.answer host) w
      Ceases bad o.value (calls w.sink o.trace)) :
    let r := w.sink.deliver buffers
    let o := (next r.1).run (World.answer host) { w with sink := r.2 }
    Ceases bad o.value (w.sink.deliverCalls buffers ++ calls r.2 o.trace) := by
  intro r o
  have hstop : Call.Stop (w.sink.deliverCalls buffers) r.1.outcome :=
    (w.sink.deliver_calls buffers).1
  cases hr : r.1.outcome with
  | ok u =>
      obtain ⟨result, hlater, hend⟩ := hnext r.1 { w with sink := r.2 }
      rw [hr] at hstop
      exact ⟨result, hstop.append hlater, hend⟩
  | error cause =>
      obtain ⟨hbad, hnotes⟩ := (h.fail r.1 cause hr).run host { w with sink := r.2 }
      rw [hr] at hstop
      rw [calls_of_notes r.2 hnotes, List.append_nil]
      exact ⟨.error cause, hstop, .inr hbad⟩

/-- **The first failed call of a fragile dialogue is its last,** and its value says so. -/
theorem Fragile.ceases {bad : α → Prop} {d : Talk α} (hd : Fragile bad d) (host : Host η)
    (w : World η) :
    let o := d.run (World.answer host) w
    Ceases bad o.value (calls w.sink o.trace) := by
  induction d generalizing w with
  | done a => exact ⟨.ok (), nofun, .inl rfl⟩
  | ask r next ih =>
      obtain ⟨hr, hnext⟩ := hd
      cases r with
      | send m =>
          have hheeds : Heeds bad next := hr
          exact hheeds.ceases host w [m.bytes] fun d => ih d (hnext d)
      | flush =>
          have hheeds : Heeds bad next := hr
          exact hheeds.ceases host w [] fun d => ih d (hnext d)
      | _ => exact ih _ (hnext _) _

end Lockstep.Controller
