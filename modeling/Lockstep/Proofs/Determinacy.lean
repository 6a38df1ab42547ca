import Lockstep.Proofs.Course
import Lockstep.Proofs.Play
import Lockstep.Proofs.Truncation

/-!
# What a session depends on

Where its writes succeed, a fragile dialogue cannot tell in which pieces its client takes the
bytes. So the view of its surroundings decides what it gives and what it does (`Fragile.plays`),
and runs in surroundings with one view are `Alike`: they come to the same, and neither the client
nor the commands can tell one from the other. What a command comes to needs no comparison of its
own, since hosts that start alike make the same of the same commands.
-/

namespace Lockstep

namespace Controller

variable {η α : Type} {host : Host η}

/-- What comes after a delivery that succeeded does not depend on its pieces. -/
theorem Heeds.plays {bad : α → Prop} {next : Delivery → Talk α} (h : Heeds bad next)
    {v v' : View η} {a : α} {ds : List Deed} (hnext : Plays host (next ⟨[], .ok ()⟩) v a ds v')
    (d : Delivery) (hd : d.outcome = .ok ()) : Plays host (next d) v a ds v' := by
  rw [h.same d ⟨[], .ok ()⟩ hd]
  exact hnext

/-- **A view decides what a fragile dialogue gives and does.** -/
theorem Fragile.plays {bad : α → Prop} {d : Talk α} (hd : Fragile bad d) (host : Host η)
    (v : View η) : ∃ a ds v', Plays host d v a ds v' := by
  -- the view fixes every reply but the pieces of a delivery
  induction d generalizing v with
  | done a => exact ⟨a, [], v, .done a⟩
  | ask r next ih =>
      obtain ⟨hr, hnext⟩ := hd
      cases r with
      | send m =>
          obtain ⟨a, ds, v', h⟩ := ih ⟨[], .ok ()⟩ (hnext _) v
          exact ⟨a, _, v', .send (Heeds.plays hr h)⟩
      | flush =>
          obtain ⟨a, ds, v', h⟩ := ih ⟨[], .ok ()⟩ (hnext _) v
          exact ⟨a, _, v', .flush (Heeds.plays hr h)⟩
      | receive =>
          obtain ⟨a, ds, v', h⟩ := ih _ (hnext v.next) v.rest
          exact ⟨a, _, v', .receive h⟩
      | hangUp =>
          obtain ⟨a, ds, v', h⟩ := ih _ (hnext v.hangUp) v
          exact ⟨a, _, v', .hangUp h⟩
      | resolve path =>
          obtain ⟨a, ds, v', h⟩ := ih _ (hnext (host.resolve v.host path)) v
          exact ⟨a, _, v', .resolve h⟩
      | load path =>
          obtain ⟨a, ds, v', h⟩ := ih _ (hnext (host.load v.host path)) v
          exact ⟨a, _, v', .load h⟩
      | invoke i =>
          obtain ⟨a, ds, v', h⟩ := ih _ (hnext (host.invoke v.host i).1) _
          exact ⟨a, _, v', .invoke h⟩
      | relay out err =>
          obtain ⟨a, ds, v', h⟩ := ih _ (hnext (v.output.deliver [out, err]).1) _
          exact ⟨a, _, v', .relay h⟩
      | pause milliseconds =>
          obtain ⟨a, ds, v', h⟩ := ih () (hnext ()) v
          exact ⟨a, _, v', .pause h⟩
      | mark m =>
          obtain ⟨a, ds, v', h⟩ := ih () (hnext ()) v
          exact ⟨a, _, v', .mark h⟩
      | note record =>
          obtain ⟨a, ds, v', h⟩ := ih () (hnext ()) v
          exact ⟨a, _, v', .note h⟩

/-- Runs that come to the same, and in which the same was sent and the same commands were run. -/
structure Alike (o o' : Dialogue.Outcome interface (World η) α) : Prop where
  value : o.value = o'.value
  sent : sent o.trace = sent o'.trace
  executed : executed o.trace = executed o'.trace

theorem Alike.trans {o o' o'' : Dialogue.Outcome interface (World η) α} (h : Alike o o')
    (h' : Alike o' o'') : Alike o o'' where
  value := h.value.trans h'.value
  sent := h.sent.trans h'.sent
  executed := h.executed.trans h'.executed

/-- What was run is read off what was done, and what came of it off the host. -/
theorem Plays.executed {d : Talk α} {v v' : View η} {a : α} {ds : List Deed}
    (h : Plays host d v a ds v') {w : World η} (hw : w.Shows v) :
    executed (d.run (World.answer host) w).trace =
      host.results v.host (ds.filterMap Deed.invocation?) := by
  rw [executed_eq_results, executed_eq_deeds, (h w hw).2.1, hw.host]

/-- Surroundings that show one view cannot be told apart. -/
theorem Plays.alike {d : Talk α} {v v' : View η} {a : α} {ds : List Deed}
    (h : Plays host d v a ds v') {w w' : World η} (hw : w.Shows v) (hw' : w'.Shows v) :
    Alike (d.run (World.answer host) w) (d.run (World.answer host) w') where
  value := (h.value hw).trans (h.value hw').symm
  sent := (h.sent hw).trans (h.sent hw').symm
  executed := (h.executed hw).trans (h.executed hw').symm

end Controller

/-- **It does not matter which of the sinks that never fail a session writes to.** -/
theorem Session.alike_of_sinks {η : Type} (host : Host η) (subject : Subject) (e : Endpoint)
    (delay : Option Nat) (target : String) {w : World η} {sink : Sink}
    (hsink : w.sink.receiver.Obliging) (hsink' : sink.receiver.Obliging) :
    Controller.Alike (outcome host subject.engine e delay target w)
      (outcome host subject.engine e delay target { w with sink := sink }) := by
  obtain ⟨_, _, _, hplays⟩ := (run_fragile subject e delay target).plays host (.ofWorld w)
  exact hplays.alike (View.shows_ofWorld hsink) ⟨hsink', rfl, rfl, rfl, rfl⟩

end Lockstep
