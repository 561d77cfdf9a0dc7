import Scenario.Proofs.Action.Halting
import Scenario.Proofs.Session.Timers

/-!
# Work and the scheduler

Work that is a course can go on in whatever order its branches go on.  This file shows that one of
these orders is that of the scheduler, which runs the course: the branch with the first timer goes
on, and time passes to that timer before.  So what is known of every way in which work can be done
is known of what a session does.

## What is here

* `Work.Steps` and `Work.Runs` — work is done in a session and nobody else is there, but time can
  pass at any moment, and replies can arrive.
* `Work.Tracks` — work that has come as far as a task of the scheduler has.
* `Work.comes_start` and `Work.Tracks.fire` — starting and firing keep this, and `Work.runs_run` —
  what the scheduler ends with is what work ends with.
-/

set_option autoImplicit false

namespace Scenario.Work

variable {templates : Templates} {time : Nat}

/-! ## Runs in a session -/

/-- One thing that can happen while work is done in a session. -/
inductive Steps (templates : Templates) : Work × Session → Work × Session → Prop where
  | goes {a b : Work × Session} (h : Goes templates a b) : Steps templates a b
  /-- Time passes, and replies arrive. -/
  | passes {w : Work} {s : Session} (time : Nat) (first : Delivery → Bool) :
    Steps templates (w, s) (w, s.advance time first)

/-- What work and its session can become. -/
abbrev Runs (templates : Templates) : Work × Session → Work × Session → Prop :=
  Relation.ReflTransGen (Steps templates)

namespace Runs

variable {a b : Work × Session}

theorem clock_le (h : Runs templates a b) : a.2.clock ≤ b.2.clock := by
  induction h with
  | refl => exact Nat.le_refl _
  | tail _ h ih =>
    refine ih.trans ?_
    cases h with
    | goes h => exact h.clock_eq.ge
    | @passes _ s time first => exact s.clock_le_advance time first

/-- Whatever a branch can do alone it can do among others. -/
theorem branch (h : Runs templates a b) (before after : List Work) (join : List Outcome → Work) :
    Runs templates (.fork (before ++ a.1 :: after) join, a.2)
      (.fork (before ++ b.1 :: after) join, b.2) := by
  induction h with
  | refl => exact .refl
  | tail _ h ih =>
    refine ih.tail ?_
    cases h with
    | goes h => exact .goes (.branch h)
    | passes time first => exact .passes time first

theorem await (t : Task Outcome) (w : Work) (s : Session) :
    Runs templates (w, s) (w, t.await s) := by
  unfold Task.await
  split
  · exact .single (.passes ..)
  · exact .single (.passes ..)
  · exact .refl

end Runs

/-! ## Work that keeps up with a task -/

/-- Whether work has come as far as a task has, where both have paused. -/
inductive Tracks (templates : Templates) (time : Nat) : Work → Task Outcome → Prop where
  | finished (outcome : Outcome) : Tracks templates time (.done outcome) (.finished outcome)
  | waiting {since due : Nat} {next : Unit → Work} {next' : Unit → Course Outcome}
    (h : (next ()).Unfolds templates due (next' ())) :
    Tracks templates time (.waiting due next) (.waiting since due next')
  | joining {branches : List (Work × Task Outcome)} {join : List Outcome → Work}
    {join' : List Outcome → Course Outcome} (hb : ∀ b ∈ branches, Tracks templates time b.1 b.2)
    (hj : Resumes templates time join join') :
    Tracks templates time (.fork (branches.map Prod.fst) join)
      (.joining (branches.map Prod.snd) join')

theorem Tracks.later {w : Work} {t : Task Outcome} (h : w.Tracks templates time t) {time' : Nat}
    (hle : time ≤ time') : w.Tracks templates time' t := by
  induction h with
  | finished outcome => exact .finished outcome
  | waiting h => exact .waiting h
  | joining _ hj ih => exact .joining ih (hj.later hle)

/-- Work that keeps up with tasks that have ended has ended. -/
theorem map_fst_of_results? {branches : List (Work × Task Outcome)}
    (hb : ∀ b ∈ branches, b.1.Tracks templates time b.2) {outcomes : List Outcome}
    (h : Task.results? (branches.map Prod.snd) = some outcomes) :
    branches.map Prod.fst = outcomes.map .done := by
  induction branches generalizing outcomes with
  | nil =>
    cases h
    rfl
  | cons b rest ih =>
    obtain ⟨w, t⟩ := b
    obtain ⟨htracks, hrest⟩ := List.forall_mem_cons.1 hb
    cases htracks with
    | finished outcome =>
      rw [List.map_cons, Task.results?, Task.result?] at h
      cases hothers : Task.results? (rest.map Prod.snd) with
      | none =>
        rw [hothers] at h
        cases h
      | some others =>
        rw [hothers] at h
        cases h
        rw [List.map_cons, ih hrest hothers]
        rfl
    | waiting => cases h
    | joining => cases h

/-- Whether work in a session can come as far as a task has come to. -/
def Comes (templates : Templates) (w : Work) (s : Session) (reached : Task Outcome × Session) :
    Prop :=
  ∃ w', Runs templates (w, s) (w', reached.2) ∧ w'.Tracks templates reached.2.clock reached.1

/-- Whether branches in a session can come as far as tasks have come to. -/
def ComeAll (templates : Templates) (works : List Work) (s : Session)
    (reached : List (Task Outcome) × Session) : Prop :=
  ∃ branches : List (Work × Task Outcome), branches.map Prod.snd = reached.1 ∧
    (∀ before join, Runs templates (.fork (before ++ works) join, s)
      (.fork (before ++ branches.map Prod.fst) join, reached.2)) ∧
    ∀ b ∈ branches, b.1.Tracks templates reached.2.clock b.2

theorem Comes.of_runs {w w' : Work} {s s' : Session} {reached : Task Outcome × Session}
    (hruns : Runs templates (w, s) (w', s')) (h : Comes templates w' s' reached) :
    Comes templates w s reached := by
  obtain ⟨v, hv, htracks⟩ := h
  exact ⟨v, hruns.trans hv, htracks⟩

/-- Branches are joined as soon as all have ended. -/
theorem ComeAll.joined {works : List Work} {s : Session} {reached : List (Task Outcome) × Session}
    {join : List Outcome → Work} {join' : List Outcome → Course Outcome}
    (h : ComeAll templates works s reached) (hj : Resumes templates s.clock join join')
    (hstart : ∀ outcomes s', s.clock ≤ s'.clock →
      Comes templates (join outcomes) s' ((join' outcomes).start s')) :
    Comes templates (.fork works join) s (Task.joined reached.1 join' reached.2) := by
  obtain ⟨branches, hreached, hruns, hb⟩ := h
  have hruns' := hruns [] join
  rw [List.nil_append, List.nil_append] at hruns'
  refine .of_runs hruns' ?_
  rw [Task.joined, ← hreached]
  split
  · next outcomes hresults =>
    rw [map_fst_of_results? hb hresults]
    exact .of_runs (.single (.goes .join)) (hstart outcomes _ hruns'.clock_le)
  · exact ⟨_, .refl, .joining hb (hj.later hruns'.clock_le)⟩

/-! ## Starting -/

/-- Branches start one after the other. -/
theorem comeAll_startAll {branches : List (Work × Course Outcome)}
    (h : ∀ b ∈ branches, ∀ s : Session, time ≤ s.clock → Comes templates b.1 s (b.2.start s))
    {s : Session} (hs : time ≤ s.clock) :
    ComeAll templates (branches.map Prod.fst) s (startAll (branches.map Prod.snd) s) := by
  induction branches generalizing s with
  | nil => exact ⟨[], rfl, fun _ _ => .refl, List.forall_mem_nil _⟩
  | cons b rest ih =>
    obtain ⟨hfirst, hrest⟩ := List.forall_mem_cons.1 h
    obtain ⟨w, hruns, htracks⟩ := hfirst s hs
    obtain ⟨others, hothers, hrunsAll, htracksAll⟩ := ih hrest (hs.trans hruns.clock_le)
    have hlater : (b.2.start s).2.clock ≤ (startAll (rest.map Prod.snd) (b.2.start s).2).2.clock :=
      (hrunsAll [] fun _ => w).clock_le
    refine ⟨(w, (b.2.start s).1) :: others, ?_, fun before join => ?_, ?_⟩
    · rw [List.map_cons, List.map_cons, startAll, hothers]
    · have hnext := hrunsAll (before ++ [w]) join
      rw [List.append_assoc, List.append_assoc] at hnext
      exact (hruns.branch before (rest.map Prod.fst) join).trans hnext
    · exact List.forall_mem_cons.2 ⟨htracks.later hlater, htracksAll⟩

/-- **Work comes as far as its course when that is started.** -/
theorem comes_start {w : Work} {p : Course Outcome} (h : w.Unfolds templates time p) (s : Session)
    (hs : time ≤ s.clock) : Comes templates w s (p.start s) := by
  induction h generalizing s with
  | done outcome => exact ⟨_, .refl, .finished outcome⟩
  | @take _ step _ _ _ ih =>
    exact .of_runs (.single (.goes .take)) (ih s hs _ (s.clock_take step).ge)
  | @pause time ms next next' h ih =>
    refine .of_runs (.single (.goes .pause)) ?_
    cases ms with
    | zero =>
      rw [Nat.zero_min, Nat.add_zero] at ih ⊢
      exact .of_runs (.single (.goes (.wake (Nat.le_refl _)))) (ih s hs)
    | succ ms => exact ⟨_, .refl, .waiting (h.later (Nat.add_le_add_right hs _))⟩
  | fork _ hj ihb ihj =>
    rw [Course.start]
    refine (comeAll_startAll ihb hs).joined (Resumes.later hj hs) fun outcomes s' hs' => ?_
    exact ihj outcomes _ (hs.trans hs') s' (Nat.le_refl _)
  | unfold hw _ ih => exact .of_runs (.single (.goes (.unfold hw))) (ih s hs)

/-! ## Firing -/

/-- The first of several tasks that has a given timer goes on. -/
theorem comeAll_fireFirst {τ : Timer} {s : Session} (hτ : τ.due ≤ s.clock)
    {branches : List (Work × Task Outcome)}
    (hb : ∀ b ∈ branches, b.1.Tracks templates s.clock b.2)
    (hfire : ∀ b ∈ branches, (∀ σ, b.2.timer? = some σ → σ.due ≤ s.clock) →
      Comes templates b.1 s (b.2.fire s)) :
    ComeAll templates (branches.map Prod.fst) s (Task.fireFirst τ (branches.map Prod.snd) s) := by
  induction branches with
  | nil => exact ⟨[], rfl, fun _ _ => .refl, List.forall_mem_nil _⟩
  | cons b rest ih =>
    obtain ⟨htracks, hrest⟩ := List.forall_mem_cons.1 hb
    obtain ⟨hfirst, hfires⟩ := List.forall_mem_cons.1 hfire
    rw [List.map_cons, List.map_cons, Task.fireFirst]
    split
    · next ht =>
      have hdue : ∀ σ, b.2.timer? = some σ → σ.due ≤ s.clock := by
        intro σ hσ
        cases ht.symm.trans hσ
        exact hτ
      obtain ⟨w, hruns, hw⟩ := hfirst hdue
      refine ⟨(w, (b.2.fire s).1) :: rest, rfl, fun before join => hruns.branch .., ?_⟩
      exact List.forall_mem_cons.2 ⟨hw, fun c hc => (hrest c hc).later hruns.clock_le⟩
    · obtain ⟨others, hothers, hruns, htracksAll⟩ := ih hrest hfires
      refine ⟨b :: others, ?_, fun before join => ?_, ?_⟩
      · rw [List.map_cons, hothers]
      · have hnext := hruns (before ++ [b.1]) join
        rwa [List.append_assoc, List.append_assoc] at hnext
      · exact List.forall_mem_cons.2
          ⟨htracks.later (hruns [] fun _ => b.1).clock_le, htracksAll⟩

/-- **Work keeps up with a task that goes on**, if the time of its timer has come. -/
theorem Tracks.fire {w : Work} {t : Task Outcome} (h : w.Tracks templates time t) {s : Session}
    (hs : time ≤ s.clock) (hdue : ∀ τ, t.timer? = some τ → τ.due ≤ s.clock) :
    Comes templates w s (t.fire s) := by
  induction h with
  | finished outcome => exact ⟨_, .refl, .finished outcome⟩
  | waiting h =>
    have hdue' := hdue _ rfl
    exact .of_runs (.single (.goes (.wake hdue'))) (comes_start h s hdue')
  | @joining branches join join' hb hj ih =>
    have hnow : ∀ b ∈ branches, b.1.Tracks templates s.clock b.2 := fun b hmem =>
      (hb b hmem).later hs
    have hstart : ∀ outcomes s', s.clock ≤ s'.clock →
        Comes templates (join outcomes) s' ((join' outcomes).start s') := fun outcomes s' hs' =>
      comes_start (hj outcomes _ (Nat.le_refl _)) s' (hs.trans hs')
    rw [Task.fire]
    split
    · next τ hτ =>
      have hfirst : τ.due ≤ s.clock := hdue τ (by rw [Task.timer?, hτ, Option.getD_some])
      exact (comeAll_fireFirst hfirst hnow ih).joined (hj.later hs) hstart
    · have hall : ComeAll templates (branches.map Prod.fst) s (branches.map Prod.snd, s) :=
        ⟨branches, rfl, fun _ _ => .refl, hnow⟩
      exact hall.joined (hj.later hs) hstart

/-! ## Running -/

theorem Tracks.run {w : Work} {t : Task Outcome} {s : Session}
    (h : w.Tracks templates s.clock t) (hdue : t.Due s.clock) :
    Runs templates (w, s) (.done (t.run s).1, (t.run s).2) := by
  induction t using Task.fires_wf.induction generalizing w s with
  | h t ih =>
    rw [Task.run]
    split
    · next r hr =>
      cases h with
      | finished outcome =>
        cases hr
        exact .refl
      | waiting | joining => cases hr
    · next hnone =>
      have hawait : Runs templates (w, s) (w, t.await s) := .await t w s
      have hclock : ∀ τ, t.timer? = some τ → (t.await s).clock = τ.due := fun τ hτ =>
        Task.clock_await hτ (hdue.le_due hτ)
      have hdue' : t.Due (t.await s).clock := hdue.later fun τ hτ => (hclock τ hτ).le
      obtain ⟨w', hfire, htracks⟩ := h.fire hawait.clock_le fun τ hτ => (hclock τ hτ).ge
      obtain ⟨hfired, hontime⟩ := hdue'.fire
      rw [← hfired] at hontime
      exact hawait.trans (hfire.trans (ih _ ⟨hnone, t.await s, rfl⟩ htracks hontime))

/-- **What the scheduler does is one of the ways in which work can be done**, and it comes to the
same end. -/
theorem runs_run {w : Work} {p : Course Outcome} {s : Session}
    (h : w.Unfolds templates s.clock p) :
    Runs templates (w, s) (.done (s.run p).1, (s.run p).2) := by
  obtain ⟨w', hruns, htracks⟩ := comes_start h s (Nat.le_refl _)
  obtain ⟨hclock, hdue⟩ := p.onTime_start s
  rw [← hclock] at hdue
  exact hruns.trans (htracks.run hdue)

end Scenario.Work
