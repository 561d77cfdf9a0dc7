import Scenario.Proofs.Session.Weave
import Scenario.Proofs.Session.Run

/-!
# Timers

A task that has paused goes on when its first timer goes off, and no timer of a task is set for a
moment that has passed.  So when time passes to the first timer the clock shows just what the timer
says, whatever the clock has shown before.

## What is here

* `Task.Due` — nothing in a task is to go on before some moment.  It holds of what was started or
  fired (`Course.onTime_start`, `Task.Due.fire`), and as long as no timer has gone off it goes on
  to hold as time passes (`Task.Due.later`).
* `Task.clock_await` — the clock when a task goes on.
* `Woven.clock_le` — time does not run backwards.
-/

set_option autoImplicit false

namespace Scenario

variable {ρ : Type}

/-! ## The first timer -/

namespace Timer

/-- No timer is before the first. -/
theorem exists_first? {a b : Option Timer} {σ : Timer} (h : a = some σ ∨ b = some σ) :
    ∃ τ, first? a b = some τ ∧ τ.due ≤ σ.due := by
  unfold first? before
  grind

end Timer

namespace Task

theorem exists_firstTimer? {ts : List (Task ρ)} {t : Task ρ} (ht : t ∈ ts) {σ : Timer}
    (hσ : t.timer? = some σ) : ∃ τ, firstTimer? ts = some τ ∧ τ.due ≤ σ.due := by
  induction ts with
  | nil => cases ht
  | cons u us ih =>
    rw [firstTimer?]
    rcases List.mem_cons.1 ht with rfl | ht
    · exact Timer.exists_first? (.inl hσ)
    · obtain ⟨υ, hυ, hle⟩ := ih ht
      obtain ⟨τ, hτ, hle'⟩ := Timer.exists_first? (.inr hυ)
      exact ⟨τ, hτ, hle'.trans hle⟩

/-- The first timer is that of one of the tasks. -/
theorem exists_of_firstTimer? {ts : List (Task ρ)} {τ : Timer} (h : firstTimer? ts = some τ) :
    ∃ t ∈ ts, t.timer? = some τ := by
  induction ts with
  | nil => cases h
  | cons t rest ih =>
    rw [firstTimer?] at h
    rcases Timer.first?_eq_some h with ht | hrest
    · exact ⟨t, List.mem_cons_self, ht⟩
    · obtain ⟨u, hu, hτ⟩ := ih hrest
      exact ⟨u, List.mem_cons_of_mem _ hu, hτ⟩

/-- Of the tasks that have this timer the first one is fired, and the others stay. -/
theorem fireFirst_eq_set {ts : List (Task ρ)} {τ : Timer} (h : firstTimer? ts = some τ)
    (s : Session) : ∃ i t, ts[i]? = some t ∧ t.timer? = some τ ∧
      fireFirst τ ts s = (ts.set i (t.fire s).1, (t.fire s).2) := by
  induction ts with
  | nil => cases h
  | cons t rest ih =>
    rw [fireFirst]
    split
    · next ht => exact ⟨0, t, rfl, ht, rfl⟩
    · next ht =>
      rw [firstTimer?] at h
      obtain ⟨i, u, hi, hu, hfired⟩ := ih ((Timer.first?_eq_some h).resolve_left ht)
      refine ⟨i + 1, u, hi, hu, ?_⟩
      rw [hfired]
      rfl

theorem exists_firstTimer?_of_results? {ts : List (Task ρ)} (h : results? ts = none) :
    ∃ τ, firstTimer? ts = some τ := by
  cases hfirst : firstTimer? ts with
  | some τ => exact ⟨τ, rfl⟩
  | none =>
    obtain ⟨rs, hrs⟩ := results?_isSome_of_firstTimer? hfirst
    cases h.symm.trans hrs

/-! ## Timers that have not gone off -/

/-- Whether nothing in a task is to go on before some moment, and wherever branches are to be joined
one of them is still to go on. -/
inductive Due (time : Nat) : Task ρ → Prop where
  | finished (r : ρ) : Due time (.finished r)
  | waiting {since due : Nat} {next : Unit → Course ρ} (h : time ≤ due) :
    Due time (.waiting since due next)
  | joining {branches : List (Task ρ)} {join : List ρ → Course ρ}
    (hb : ∀ t ∈ branches, Due time t) (hlive : results? branches = none) :
    Due time (.joining branches join)

namespace Due

variable {time : Nat} {t : Task ρ}

theorem le_due (h : t.Due time) {τ : Timer} (hτ : t.timer? = some τ) : time ≤ τ.due := by
  induction h generalizing τ with
  | finished r => cases hτ
  | waiting h =>
    cases hτ
    exact h
  | joining _ hlive ih =>
    obtain ⟨σ, hσ⟩ := exists_firstTimer?_of_results? hlive
    rw [timer?, hσ, Option.getD_some] at hτ
    cases hτ
    obtain ⟨u, hu, huσ⟩ := exists_of_firstTimer? hσ
    exact ih u hu huσ

/-- As long as no timer goes off, time can pass. -/
theorem later (h : t.Due time) {time' : Nat} (hlater : ∀ τ, t.timer? = some τ → time' ≤ τ.due) :
    t.Due time' := by
  induction h with
  | finished r => exact .finished r
  | waiting _ => exact .waiting (hlater _ rfl)
  | joining _ hlive ih =>
    refine .joining (fun u hu => ih u hu fun σ hσ => ?_) hlive
    obtain ⟨τ, hτ, hle⟩ := exists_firstTimer? hu hσ
    refine (hlater τ ?_).trans hle
    rw [timer?, hτ, Option.getD_some]

end Due

end Task

/-! ## Starting and firing -/

/-- Whether what was come to at some moment is still that moment's and is not overdue. -/
def Task.OnTime (s : Session) (reached : Task ρ × Session) : Prop :=
  reached.2.clock = s.clock ∧ reached.1.Due s.clock

/-- Whether tasks that were come to at some moment are not overdue. -/
def Task.AllOnTime (s : Session) (reached : List (Task ρ) × Session) : Prop :=
  reached.2.clock = s.clock ∧ ∀ t ∈ reached.1, t.Due s.clock

theorem Task.onTime_joined {ts : List (Task ρ)} {join : List ρ → Course ρ} {s s' : Session}
    (h : Task.AllOnTime s (ts, s'))
    (hstart : ∀ rs s, Task.OnTime s ((join rs).start s)) :
    Task.OnTime s (Task.joined ts join s') := by
  rw [Task.joined]
  split
  · next rs _ =>
    obtain ⟨hclock, hdue⟩ := hstart rs s'
    rw [h.1] at hclock hdue
    exact ⟨hclock, hdue⟩
  · next hlive => exact ⟨h.1, .joining h.2 hlive⟩

mutual

/-- **What was started is not overdue**, and no time has passed. -/
theorem Course.onTime_start : (p : Course ρ) → (s : Session) → Task.OnTime s (p.start s)
  | .done r, s => ⟨rfl, .finished r⟩
  | .take step next, s => by
    have hnext := Course.onTime_start (next (s.take step).1) (s.take step).2
    rwa [Task.OnTime, s.clock_take step] at hnext
  | .pause 0 next, s => Course.onTime_start (next ()) s
  | .pause (ms + 1) next, s => ⟨rfl, .waiting (Nat.le_add_right ..)⟩
  | .fork branches join, s => by
    rw [Course.start]
    exact Task.onTime_joined (onTime_startAll branches s) fun rs => Course.onTime_start (join rs)

theorem onTime_startAll : (ps : List (Course ρ)) → (s : Session) →
    Task.AllOnTime s (startAll ps s)
  | [], s => ⟨rfl, List.forall_mem_nil _⟩
  | p :: rest, s => by
    obtain ⟨hclock, hdue⟩ := Course.onTime_start p s
    obtain ⟨hclocks, hdues⟩ := onTime_startAll rest (p.start s).2
    rw [hclock] at hclocks hdues
    exact ⟨hclocks, List.forall_mem_cons.2 ⟨hdue, hdues⟩⟩

end

theorem Task.onTime_fireFirst (τ : Timer) {ts : List (Task ρ)} {s : Session}
    (hts : ∀ t ∈ ts, t.Due s.clock) (hfire : ∀ t ∈ ts, Task.OnTime s (t.fire s)) :
    Task.AllOnTime s (Task.fireFirst τ ts s) := by
  induction ts with
  | nil => exact ⟨rfl, List.forall_mem_nil _⟩
  | cons t rest ih =>
    obtain ⟨ht, hrest⟩ := List.forall_mem_cons.1 hts
    obtain ⟨htfire, hrestfire⟩ := List.forall_mem_cons.1 hfire
    rw [Task.fireFirst]
    split
    · exact ⟨htfire.1, List.forall_mem_cons.2 ⟨htfire.2, hrest⟩⟩
    · obtain ⟨hclock, hdue⟩ := ih hrest hrestfire
      exact ⟨hclock, List.forall_mem_cons.2 ⟨ht, hdue⟩⟩

/-- **What was fired is not overdue**, and no time has passed. -/
theorem Task.Due.fire {t : Task ρ} {s : Session} (h : t.Due s.clock) :
    Task.OnTime s (t.fire s) := by
  induction h with
  | finished r => exact ⟨rfl, .finished r⟩
  | @waiting _ _ next _ => exact (next ()).onTime_start s
  | joining hb hlive ih =>
    rw [Task.fire]
    split
    · exact Task.onTime_joined (Task.onTime_fireFirst _ hb ih) fun rs => (_ : Course ρ).onTime_start
    · exact Task.onTime_joined ⟨rfl, hb⟩ fun rs => (_ : Course ρ).onTime_start

/-! ## Waiting -/

/-- **When a task goes on the clock shows what its timer says.** -/
theorem Task.clock_await {t : Task ρ} {s : Session} {τ : Timer} (hτ : t.timer? = some τ)
    (h : s.clock ≤ τ.due) : (t.await s).clock = τ.due := by
  have hbefore : ∀ d : Delivery, d.timer.before τ → d.due ≤ τ.due := by
    intro d hd
    simp only [Timer.before, Delivery.timer, Bool.or_eq_true, Bool.and_eq_true, beq_iff_eq] at hd
    rcases hd with hlt | ⟨heq, -⟩
    · exact Nat.le_of_lt (of_decide_eq_true hlt)
    · exact Nat.le_of_eq heq
  cases t with
  | finished r => cases hτ
  | waiting since due next =>
    cases hτ
    exact Session.clock_advance h fun d hd => Nat.le_of_lt (of_decide_eq_true hd)
  | joining branches join =>
    unfold Task.await
    rw [hτ]
    exact Session.clock_advance h hbefore

/-- What waiting does to a session. -/
theorem Task.await_eq {β : Type} (f : Session → β)
    (h : ∀ s time first, f (s.advance time first) = f s) (t : Task ρ) (s : Session) :
    f (t.await s) = f s := by
  unfold Task.await
  split
  · exact h ..
  · exact h ..
  · rfl

/-- Time does not run backwards. -/
theorem Woven.clock_le {a b : Course ρ × Session} (h : Woven a b) : a.2.clock ≤ b.2.clock := by
  induction h with
  | refl => exact Nat.le_refl _
  | tail _ h ih =>
    refine ih.trans ?_
    cases h with
    | @goes _ _ s step _ => exact (s.clock_take step).ge
    | idles _ => exact Nat.le_refl _
    | @passes _ s time first => exact s.clock_le_advance time first

end Scenario
