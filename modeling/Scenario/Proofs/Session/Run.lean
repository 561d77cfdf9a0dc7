import Mathlib.Data.List.TakeWhile
import Scenario.Session.Schedule

/-!
# Runs of a single script

Where nothing forks the scheduler has no choice: a script takes its steps one after the other, and
while it pauses nothing happens but that replies arrive.  This file says so, and what passing time
leaves as it is.

## What is here

* `Script.alone` — a script runs in a session in which nobody else takes steps, and
  `Session.run_after` says that this is what the scheduler does.
* `Script.alone_bind`, `Activity.alone_bind_ok` — a run of what is put together from parts.
* `Session.advance_eq` — the reading of a session that neither time nor replies change.
* `Session.clock_advance` and `Session.clock_paused` — the clock after time has passed.
-/

set_option autoImplicit false

namespace Scenario

variable {α β ρ : Type}

/-- A session after a pause, in which the replies arrive that are due before its end. -/
def Session.paused (s : Session) : (ms : Nat) → Session
  | 0 => s
  | ms + 1 =>
    let due := s.clock + min (ms + 1) longestPause
    s.advance due fun d => d.due < due

/-- Runs a script in a session in which nobody else takes steps. -/
def Script.alone : Script α → Session → α × Session
  | .done a, s => (a, s)
  | .take step next, s => (next (s.take step).1).alone (s.take step).2
  | .pause ms next, s => (next ()).alone (s.paused ms)

/-! ## The scheduler -/

namespace Task

theorem run_of_result? {t : Task ρ} {r : ρ} (h : t.result? = some r) (s : Session) :
    t.run s = (r, s) := by
  rw [run]
  split
  · next r' hr' =>
    cases h.symm.trans hr'
    rfl
  · next hnone => cases h.symm.trans hnone

theorem run_of_result?_eq_none {t : Task ρ} (h : t.result? = none) (s : Session) :
    t.run s = (t.fire (t.await s)).1.run (t.fire (t.await s)).2 := by
  rw [run]
  split
  · next r hr => cases h.symm.trans hr
  · rfl

end Task

namespace Session

/-- A course that ends without a pause. -/
theorem run_of_result? {s : Session} {p : Course ρ} {r : ρ} (h : (p.start s).1.result? = some r) :
    s.run p = (r, (p.start s).2) :=
  Task.run_of_result? h _

theorem run_take (s : Session) (step : Step) (next : step.Yield → Course ρ) :
    s.run (.take step next) = (s.take step).2.run (next (s.take step).1) := rfl

theorem run_pause (s : Session) (ms : Nat) (next : Unit → Course ρ) :
    s.run (.pause ms next) = (s.paused ms).run (next ()) := by
  cases ms with
  | zero => rfl
  | succ ms =>
    rw [run, Course.start, Task.run]
    rfl

/-- **What the scheduler does with a single script.** -/
theorem run_after (s : Session) (x : Script α) (f : α → Course ρ) :
    s.run (.after x f) = (x.alone s).2.run (f (x.alone s).1) := by
  induction x generalizing s with
  | done a => rfl
  | take step next ih => exact (run_take s step _).trans (ih _ _)
  | pause ms next ih => exact (run_pause s ms _).trans (ih _ _)

theorem run_ofScript (s : Session) (x : Script α) : s.run (.ofScript x) = x.alone s := by
  rw [Course.ofScript, run_after, run, Course.start, Task.run]
  rfl

end Session

/-! ## Parts -/

theorem Script.alone_bind (x : Script α) (f : α → Script β) (s : Session) :
    (x.bind f).alone s = (f (x.alone s).1).alone (x.alone s).2 := by
  induction x generalizing s with
  | done a => rfl
  | take step next ih => exact ih _ _
  | pause ms next ih => exact ih _ _

namespace Activity

variable {x : Activity α} {f : α → Activity β} {s s' : Session} {a : α}

/-- What follows an activity that succeeds. -/
theorem alone_bind_ok (h : x.run.alone s = (.ok a, s')) :
    (x >>= f).run.alone s = (f a).run.alone s' := by
  refine (Script.alone_bind ..).trans ?_
  rw [show x.alone s = _ from h]
  rfl

/-- Nothing follows an activity that fails. -/
theorem alone_bind_error {e : Failure} (h : x.run.alone s = (.error e, s')) :
    (x >>= f).run.alone s = (.error e, s') := by
  refine (Script.alone_bind ..).trans ?_
  rw [show x.alone s = _ from h]
  rfl

/-- An activity that succeeds has nothing to be caught. -/
theorem alone_tryCatch_ok (h : x.run.alone s = (.ok a, s')) (handle : Failure → Activity α) :
    (tryCatch x handle).run.alone s = (.ok a, s') := by
  refine (Script.alone_bind ..).trans ?_
  rw [show x.alone s = _ from h]
  rfl

/-- An activity that fails goes on in its handler. -/
theorem alone_tryCatch_error {e : Failure} (h : x.run.alone s = (.error e, s'))
    (handle : Failure → Activity α) :
    (tryCatch x handle).run.alone s = (handle e).run.alone s' := by
  refine (Script.alone_bind ..).trans ?_
  rw [show x.alone s = _ from h]
  rfl

theorem alone_lift (y : Script α) (s : Session) :
    (ExceptT.lift y : Activity α).run.alone s = (.ok (y.alone s).1, (y.alone s).2) :=
  Script.alone_bind y _ s

theorem alone_ofExcept (e : Except Failure α) (s : Session) :
    (ofExcept e).run.alone s = (e, s) := rfl

theorem alone_step (step : Step) (s : Session) :
    (Activity.step step).run.alone s = (.ok (s.take step).1, (s.take step).2) := rfl

end Activity

/-! ## Passing time -/

namespace Session

/-- **Neither time nor replies change** what does not depend on the clock and the tables. -/
theorem advance_eq {β : Type} (f : Session → β) (htime : ∀ s time, f (s.passTo time) = f s)
    (hreply : ∀ s m key reply, f (s.storeReply m key reply) = f s)
    (hqueue : ∀ (s : Session) (ds : List Delivery), f { s with deliveries := ds } = f s)
    (s : Session) (time : Nat) (first : Delivery → Bool) : f (s.advance time first) = f s := by
  have harrive : ∀ (ds : List Delivery) (s : Session), f (ds.foldl deliver s) = f s := by
    intro ds
    induction ds with
    | nil => exact fun _ => rfl
    | cons d ds ih => exact fun s => (ih _).trans ((hreply ..).trans (htime ..))
  exact (htime ..).trans ((harrive ..).trans (hqueue ..))

theorem length_tables_storeReply (s : Session) (m : Manager) (key : String) (reply : Message) :
    (s.storeReply m key reply).tables.length = s.tables.length := List.length_modify ..

/-- What is not changed by time or replies is not changed by a pause. -/
theorem paused_eq {β : Type} (f : Session → β) (htime : ∀ s time, f (s.passTo time) = f s)
    (hreply : ∀ s m key reply, f (s.storeReply m key reply) = f s)
    (hqueue : ∀ (s : Session) (ds : List Delivery), f { s with deliveries := ds } = f s)
    (s : Session) (ms : Nat) : f (s.paused ms) = f s := by
  cases ms with
  | zero => rfl
  | succ ms => exact advance_eq f htime hreply hqueue ..

theorem scopes_paused (s : Session) (ms : Nat) : (s.paused ms).scopes = s.scopes :=
  paused_eq (·.scopes) (fun _ _ => rfl) (fun _ _ _ _ => rfl) (fun _ _ => rfl) s ms

theorem idents_paused (s : Session) (ms : Nat) : (s.paused ms).idents = s.idents :=
  paused_eq (·.idents) (fun _ _ => rfl) (fun _ _ _ _ => rfl) (fun _ _ => rfl) s ms

theorem length_tables_paused (s : Session) (ms : Nat) :
    (s.paused ms).tables.length = s.tables.length :=
  paused_eq (·.tables.length) (fun _ _ => rfl) length_tables_storeReply (fun _ _ => rfl) s ms

theorem clock_le_foldl_deliver (s : Session) (ds : List Delivery) :
    s.clock ≤ (ds.foldl deliver s).clock := by
  induction ds generalizing s with
  | nil => exact Nat.le_refl _
  | cons d ds ih => exact Nat.le_trans (Nat.le_max_left ..) (ih (s.deliver d))

theorem clock_foldl_deliver_le {s : Session} {time : Nat} (hs : s.clock ≤ time)
    {ds : List Delivery} (hds : ∀ d ∈ ds, d.due ≤ time) : (ds.foldl deliver s).clock ≤ time := by
  induction ds generalizing s with
  | nil => exact hs
  | cons d ds ih =>
    obtain ⟨hd, hds⟩ := List.forall_mem_cons.1 hds
    exact ih (s := s.deliver d) (Nat.max_le.2 ⟨hs, hd⟩) hds

/-- Time does not run backwards. -/
theorem clock_le_advance (s : Session) (time : Nat) (first : Delivery → Bool) :
    s.clock ≤ (s.advance time first).clock := by
  refine Nat.le_trans ?_ (Nat.le_max_left ..)
  exact clock_le_foldl_deliver { s with deliveries := s.deliveries.dropWhile first } _

/-- Time does not pass the moment it is to pass to because of what arrives meanwhile. -/
theorem clock_advance {s : Session} {time : Nat} {first : Delivery → Bool} (hs : s.clock ≤ time)
    (hfirst : ∀ d, first d → d.due ≤ time) : (s.advance time first).clock = time := by
  refine Nat.max_eq_right (clock_foldl_deliver_le ?_ fun d hd => ?_)
  · exact hs
  · exact hfirst d (List.mem_takeWhile_imp hd)

theorem clock_paused (s : Session) (ms : Nat) :
    (s.paused ms).clock = s.clock + min ms longestPause := by
  cases ms with
  | zero => rw [paused, Nat.zero_min, Nat.add_zero]
  | succ ms => exact clock_advance (Nat.le_add_right ..) fun d hd =>
      Nat.le_of_lt (of_decide_eq_true hd)

end Session
end Scenario
