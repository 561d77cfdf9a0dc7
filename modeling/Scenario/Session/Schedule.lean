import Scenario.Session.Course

/-!
# Running courses

Courses run on the clock of a session.  A branch runs until it pauses; while anything can run
time stands still, and when all branches pause it goes on to the first timer.

* `Task` is a course that was started and has paused or ended, with its branches inside.
* `Course.start` runs a course until it pauses, and `Task.fire` lets the branch go on whose
  timer is the first.
* `Task.run` fires until the task has ended.  It always ends, whatever the course does
  (`Task.fires_wf`): each branch has only finitely many pauses before it.
* Of timers for one moment the one set first goes first, and the main line before all others.
-/

set_option autoImplicit false

namespace Scenario

/-- When something is to go on. -/
structure Timer where
  due : Nat
  /-- When the timer was set. -/
  since : Nat
deriving DecidableEq, Repr

namespace Timer

/-- Whether a timer goes off before another one. -/
def before (a b : Timer) : Bool := a.due < b.due || (a.due == b.due && a.since < b.since)

/-- The timer that goes off first; the left one if neither does. -/
def first? : Option Timer → Option Timer → Option Timer
  | none, b => b
  | a, none => a
  | some a, some b => if b.before a then some b else some a

theorem first?_eq_some {a b : Option Timer} {τ : Timer} (h : first? a b = some τ) :
    a = some τ ∨ b = some τ := by
  unfold first? at h
  split at h
  · exact .inr h
  · exact .inl h
  · split at h
    · exact .inr h
    · exact .inl h

theorem first?_eq_none {a b : Option Timer} (h : first? a b = none) : a = none ∧ b = none := by
  unfold first? at h
  split at h
  · exact ⟨rfl, h⟩
  · next hb =>
    subst h
    exact ⟨rfl, rfl⟩
  · split at h <;> simp at h

end Timer

/-- The timer of a delivery. -/
def Delivery.timer (d : Delivery) : Timer := ⟨d.due, d.since⟩

/-! ## Tasks -/

/-- A course that has paused or ended. -/
inductive Task (ρ : Type) where
  | finished (result : ρ)
  | waiting (since due : Nat) (next : Unit → Course ρ)
  /-- Branches, and what follows when all have ended. -/
  | joining (branches : List (Task ρ)) (join : List ρ → Course ρ)

variable {ρ : Type}

namespace Task

/-- The result of a task that has ended. -/
def result? : Task ρ → Option ρ
  | finished r => some r
  | _ => none

/-- The results of tasks if all have ended. -/
def results? : List (Task ρ) → Option (List ρ)
  | [] => some []
  | t :: rest =>
    match t.result?, results? rest with
    | some r, some rs => some (r :: rs)
    | _, _ => none

mutual

/-- When the task is to go on.  A task whose branches all have ended goes on at once. -/
def timer? : Task ρ → Option Timer
  | finished _ => none
  | waiting since due _ => some ⟨due, since⟩
  | joining branches _ => some ((firstTimer? branches).getD ⟨0, 0⟩)

/-- When the first of several tasks is to go on. -/
def firstTimer? : List (Task ρ) → Option Timer
  | [] => none
  | t :: rest => Timer.first? t.timer? (firstTimer? rest)

end

end Task

mutual

/-- Runs a course until it pauses or ends. -/
def Course.start : Course ρ → Session → Task ρ × Session
  | .done r, s => (.finished r, s)
  | .take step next, s => (next (s.take step).1).start (s.take step).2
  | .pause 0 next, s => (next ()).start s
  | .pause (ms + 1) next, s =>
    (.waiting s.clock (s.clock + min (ms + 1) Session.longestPause) next, s)
  | .fork branches join, s =>
    let started := startAll branches s
    match Task.results? started.1 with
    | some rs => (join rs).start started.2
    | none => (.joining started.1 join, started.2)

/-- Runs branches in order, each until it pauses or ends. -/
def startAll : List (Course ρ) → Session → List (Task ρ) × Session
  | [], s => ([], s)
  | p :: rest, s =>
    let started := p.start s
    let others := startAll rest started.2
    (started.1 :: others.1, others.2)

end

namespace Task

/-- Goes on with the results of branches if all have ended. -/
def joined (branches : List (Task ρ)) (join : List ρ → Course ρ) (s : Session) :
    Task ρ × Session :=
  match results? branches with
  | some rs => (join rs).start s
  | none => (joining branches join, s)

mutual

/-- Lets the branch go on whose timer is the first. -/
def fire : Task ρ → Session → Task ρ × Session
  | finished r, s => (finished r, s)
  | waiting _ _ next, s => (next ()).start s
  | joining branches join, s =>
    match firstTimer? branches with
    | some τ =>
      let fired := fireFirst τ branches s
      joined fired.1 join fired.2
    | none => joined branches join s

/-- Fires the first task with a given timer. -/
def fireFirst (τ : Timer) : List (Task ρ) → Session → List (Task ρ) × Session
  | [], s => ([], s)
  | t :: rest, s =>
    if t.timer? = some τ then
      let fired := t.fire s
      (fired.1 :: rest, fired.2)
    else
      let fired := fireFirst τ rest s
      (t :: fired.1, fired.2)

end

/-! ## Every task ends -/

/-- One task comes from another one that has not ended when that goes on. -/
def Fires (later earlier : Task ρ) : Prop :=
  earlier.result? = none ∧ ∃ s, later = (earlier.fire s).1

/-- One of several tasks goes on. -/
inductive FiresIn : List (Task ρ) → List (Task ρ) → Prop where
  | here {t t' : Task ρ} {rest : List (Task ρ)} (h : Fires t' t) : FiresIn (t' :: rest) (t :: rest)
  | there {t : Task ρ} {rest rest' : List (Task ρ)} (h : FiresIn rest' rest) :
    FiresIn (t :: rest') (t :: rest)

theorem result?_eq_none_of_timer? {t : Task ρ} {τ : Timer} (h : t.timer? = some τ) :
    t.result? = none := by
  cases t with
  | finished r => simp [timer?] at h
  | waiting _ _ _ => rfl
  | joining _ _ => rfl

theorem result?_isSome_of_timer? {t : Task ρ} (h : t.timer? = none) : ∃ r, t.result? = some r := by
  cases t with
  | finished r => exact ⟨r, rfl⟩
  | waiting _ _ _ => simp [timer?] at h
  | joining _ _ => simp [timer?] at h

theorem results?_isSome_of_firstTimer? {ts : List (Task ρ)} (h : firstTimer? ts = none) :
    ∃ rs, results? ts = some rs := by
  induction ts with
  | nil => exact ⟨[], rfl⟩
  | cons t rest ih =>
    rw [firstTimer?] at h
    obtain ⟨ht, hrest⟩ := Timer.first?_eq_none h
    obtain ⟨r, hr⟩ := result?_isSome_of_timer? ht
    obtain ⟨rs, hrs⟩ := ih hrest
    exact ⟨r :: rs, by simp [results?, hr, hrs]⟩

/-- Firing the first timer lets exactly one task go on. -/
theorem firesIn_fireFirst {ts : List (Task ρ)} {τ : Timer} (h : firstTimer? ts = some τ)
    (s : Session) : FiresIn (fireFirst τ ts s).1 ts := by
  induction ts with
  | nil => simp [firstTimer?] at h
  | cons t rest ih =>
    rw [fireFirst]
    split
    · next ht => exact .here ⟨result?_eq_none_of_timer? ht, s, rfl⟩
    · next ht =>
      rw [firstTimer?] at h
      exact .there (ih ((Timer.first?_eq_some h).resolve_left ht))

theorem acc_cons {t : Task ρ} {rest : List (Task ρ)} (ht : Acc Fires t)
    (hrest : Acc FiresIn rest) : Acc FiresIn (t :: rest) := by
  induction ht generalizing rest with
  | intro t _ iht =>
    induction hrest with
    | intro rest hr ihr =>
      refine .intro _ fun _ h => ?_
      cases h with
      | here h => exact iht _ h (.intro _ hr)
      | there h => exact ihr _ h

theorem acc_list {ts : List (Task ρ)} (h : ∀ t ∈ ts, Acc Fires t) : Acc FiresIn ts := by
  induction ts with
  | nil => exact .intro _ fun _ h => nomatch h
  | cons t rest ih =>
    exact acc_cons (h t List.mem_cons_self) (ih fun u hu => h u (List.mem_cons_of_mem _ hu))

theorem acc_finished (r : ρ) : Acc Fires (finished r) :=
  .intro _ fun _ h => by simp [Fires, result?] at h

theorem acc_waiting {since due : Nat} {next : Unit → Course ρ}
    (h : ∀ s, Acc Fires ((next ()).start s).1) : Acc Fires (waiting since due next) := by
  refine .intro _ fun t ht => ?_
  obtain ⟨-, s, rfl⟩ := ht
  exact h s

theorem acc_joined {ts : List (Task ρ)} {join : List ρ → Course ρ} (hts : Acc FiresIn ts)
    (hj : ∀ rs s, Acc Fires ((join rs).start s).1) :
    Acc Fires (joining ts join) ∧ ∀ s, Acc Fires (joined ts join s).1 := by
  induction hts with
  | intro ts _ ih =>
    have hjoining : Acc Fires (joining ts join) := by
      refine .intro _ fun t ht => ?_
      obtain ⟨-, s, rfl⟩ := ht
      rw [fire]
      split
      · next τ hτ => exact (ih _ (firesIn_fireFirst hτ s)).2 _
      · next hnone =>
        obtain ⟨rs, hrs⟩ := results?_isSome_of_firstTimer? hnone
        simpa [joined, hrs] using hj rs s
    refine ⟨hjoining, fun s => ?_⟩
    rw [joined]
    split
    · exact hj _ _
    · exact hjoining

mutual

theorem acc_start : (p : Course ρ) → ∀ s, Acc Fires (p.start s).1
  | .done r, s => by simpa [Course.start] using acc_finished r
  | .take step next, s => by
    rw [Course.start]
    exact acc_start (next _) _
  | .pause 0 next, s => by
    rw [Course.start]
    exact acc_start (next ()) s
  | .pause (ms + 1) next, s => by
    rw [Course.start]
    exact acc_waiting (acc_start (next ()))
  | .fork branches join, s => by
    have h := (acc_joined (acc_list (acc_startAll branches s)) fun rs => acc_start (join rs)).2
      (startAll branches s).2
    rw [Course.start]
    simpa [joined] using h

theorem acc_startAll : (ps : List (Course ρ)) → ∀ s, ∀ t ∈ (startAll ps s).1, Acc Fires t
  | [], s => by simp [startAll]
  | p :: rest, s => by
    intro t ht
    simp only [startAll, List.mem_cons] at ht
    rcases ht with rfl | ht
    · exact acc_start p s
    · exact acc_startAll rest _ t ht

end

mutual

theorem acc_fires : (t : Task ρ) → Acc Fires t
  | finished r => acc_finished r
  | waiting _ _ next => acc_waiting (acc_start (next ()))
  | joining branches join =>
    (acc_joined (acc_list (acc_fires_all branches)) fun rs => acc_start (join rs)).1

theorem acc_fires_all : (ts : List (Task ρ)) → ∀ t ∈ ts, Acc Fires t
  | [] => by simp
  | t :: rest => by
    intro u hu
    rcases List.mem_cons.1 hu with h | hu
    · exact h ▸ acc_fires t
    · exact acc_fires_all rest u hu

end

/-- No task can go on for ever. -/
theorem fires_wf : WellFounded (Fires (ρ := ρ)) := ⟨acc_fires⟩

instance : WellFoundedRelation (Task ρ) := ⟨Fires, fires_wf⟩

/-! ## Running -/

/-- Lets time pass until a task goes on.  Deliveries that are due before arrive on the way. -/
def await (t : Task ρ) (s : Session) : Session :=
  match t, t.timer? with
  | waiting _ due _, _ => s.advance due fun d => d.due < due
  | _, some τ => s.advance τ.due fun d => d.timer.before τ
  | _, none => s

/-- Runs a task until it has ended. -/
def run (t : Task ρ) (s : Session) : ρ × Session :=
  match _h : t.result? with
  | some r => (r, s)
  | none =>
    match _h' : t.fire (t.await s) with
    | (later, s') => later.run s'
termination_by t
decreasing_by exact ⟨_h, t.await s, by rw [_h']⟩

end Task

/-- Runs a course until it has ended. -/
def Session.run (s : Session) (p : Course ρ) : ρ × Session :=
  let started := p.start s
  started.1.run started.2

end Scenario
