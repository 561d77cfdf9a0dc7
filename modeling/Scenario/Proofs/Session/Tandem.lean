import Scenario.Proofs.Session.Alike

/-!
# Courses that run in tandem

What is alike is scheduled alike: two courses that differ in the numbers of their scopes pause at
the same moments for the same time, and of two tasks that are alike the same branch goes on.  So
it is enough to compare what they do to two sessions, and this is put together in the way in which
the scheduler puts it together.

## What is here

* `Synced` — two ways to change a session and to yield something do the same wherever sessions
  agree, with `Synced.pure`, `Synced.bind` and `Synced.take` for what is put together from steps.
* `Task.Alike` — two tasks differ in the numbers of scopes alone, and so have the same timers.
* `Course.Alike.synced_start` and `Task.Alike.synced_fire` — what is alike is started and fired in
  tandem.
-/

set_option autoImplicit false

namespace Scenario

variable {ρ α β γ δ : Type}

/-! ## Changes of sessions -/

/-- Whether two changes of sessions are made in tandem wherever sessions agree on what is paired,
and what they yield is related under the pairing after them. -/
def Synced (R : Pairing) (Q : Pairing → α → β → Prop) (f : Session → α × Session)
    (g : Session → β × Session) : Prop :=
  ∀ R' s a, R ≤ R' → s.Agree R' a → s.clock = a.clock →
    ∃ R'' marks, Q R'' (f s).1 (g a).1 ∧ Tandem R' s a R'' (f s).2 (g a).2 marks

namespace Synced

variable {R : Pairing} {Q : Pairing → α → β → Prop} {Q' : Pairing → γ → δ → Prop}

theorem pure {x : α} {y : β} (h : ∀ R', R ≤ R' → Q R' x y) :
    Synced R Q (fun s => (x, s)) fun a => (y, a) :=
  fun R' _ _ hR hagree hclock => ⟨R', [], h R' hR, .refl hagree hclock⟩

theorem bind {f : Session → α × Session} {g : Session → β × Session} {k : α → Session → γ × Session}
    {l : β → Session → δ × Session} (h : Synced R Q f g)
    (hk : ∀ R' x y, R ≤ R' → Q R' x y → Synced R' Q' (k x) (l y)) :
    Synced R Q' (fun s => k (f s).1 (f s).2) fun a => l (g a).1 (g a).2 := by
  intro R' s a hR hagree hclock
  obtain ⟨R₁, marks₁, hQ, htandem⟩ := h R' s a hR hagree hclock
  obtain ⟨R₂, marks₂, hQ', htandem'⟩ :=
    hk R₁ _ _ (hR.trans htandem.grows) hQ R₁ _ _ le_rfl htandem.agree htandem.clock
  exact ⟨R₂, marks₁ ++ marks₂, hQ', htandem.trans htandem'⟩

theorem take {step step' : Step} {Y : Pairing → step.Yield → step'.Yield → Prop}
    (h : step.Alike R step' Y) : Synced R Y (·.take step) (·.take step') :=
  fun _ _ _ hR hagree hclock => hagree.take hclock (h.mono hR)

theorem mono {R' : Pairing} {f : Session → α × Session} {g : Session → β × Session}
    (h : Synced R Q f g) (hR : R ≤ R') : Synced R' Q f g :=
  fun R'' s a hR' => h R'' s a (hR.trans hR')

end Synced

/-! ## Tasks -/

/-- Whether two tasks differ in the numbers of scopes alone. -/
inductive Task.Alike (R : Pairing) : Task ρ → Task ρ → Prop where
  | finished (r : ρ) : Alike R (.finished r) (.finished r)
  | waiting {since due : Nat} {next next' : Unit → Course ρ} (hn : (next ()).Alike R (next' ())) :
    Alike R (.waiting since due next) (.waiting since due next')
  | joining {branches branches' : List (Task ρ)} {join join' : List ρ → Course ρ}
    (hlength : branches.length = branches'.length)
    (hb : ∀ i h h', Alike R (branches.get ⟨i, h⟩) (branches'.get ⟨i, h'⟩))
    (hj : ∀ rs, (join rs).Alike R (join' rs)) :
    Alike R (.joining branches join) (.joining branches' join')

/-- Whether tasks differ, one by one, in the numbers of scopes alone. -/
abbrev Task.AllAlike (R : Pairing) : List (Task ρ) → List (Task ρ) → Prop :=
  List.Forall₂ (Task.Alike R)

namespace Task

variable {R R' : Pairing} {t t' : Task ρ} {ts ts' : List (Task ρ)} {join join' : List ρ → Course ρ}

theorem Alike.mono (h : t.Alike R t') (hR : R ≤ R') : t.Alike R' t' := by
  induction h with
  | finished r => exact .finished r
  | waiting hn => exact .waiting (hn.mono hR)
  | joining hlength _ hj ih => exact .joining hlength ih fun rs => (hj rs).mono hR

theorem AllAlike.mono (h : AllAlike R ts ts') (hR : R ≤ R') : AllAlike R' ts ts' :=
  h.imp fun _ _ ht => ht.mono hR

theorem Alike.joins (hb : AllAlike R ts ts') (hj : ∀ rs, (join rs).Alike R (join' rs)) :
    (Task.joining ts join).Alike R (.joining ts' join') :=
  .joining hb.length_eq (List.forall₂_iff_get.1 hb).2 hj

theorem Alike.result?_eq (h : t.Alike R t') : t.result? = t'.result? := by
  cases h <;> rfl

theorem AllAlike.results?_eq (h : AllAlike R ts ts') : results? ts = results? ts' := by
  induction h with
  | nil => rfl
  | cons ht _ ih => rw [results?, results?, ht.result?_eq, ih]

theorem firstTimer?_congr (h : List.Forall₂ (fun t t' : Task ρ => t.timer? = t'.timer?) ts ts') :
    firstTimer? ts = firstTimer? ts' := by
  induction h with
  | nil => rfl
  | cons ht _ ih => rw [firstTimer?, firstTimer?, ht, ih]

/-- **Tasks that are alike go on at the same time.** -/
theorem Alike.timer?_eq (h : t.Alike R t') : t.timer? = t'.timer? := by
  induction h with
  | finished _ => rfl
  | waiting _ => rfl
  | joining hlength _ _ ih =>
    rw [timer?, timer?, firstTimer?_congr (List.forall₂_iff_get.2 ⟨hlength, ih⟩)]

theorem AllAlike.firstTimer?_eq (h : AllAlike R ts ts') : firstTimer? ts = firstTimer? ts' :=
  firstTimer?_congr (h.imp fun _ _ ht => ht.timer?_eq)

end Task

/-! ## The scheduler -/

/-- Whether two ways to come to a task are taken in tandem and come to tasks that are alike. -/
abbrev Comes (R : Pairing) (f g : Session → Task ρ × Session) : Prop := Synced R Task.Alike f g

/-- Whether two ways to come to tasks are taken in tandem and come to tasks that are alike. -/
abbrev ComeAll (R : Pairing) (f g : Session → List (Task ρ) × Session) : Prop :=
  Synced R Task.AllAlike f g

section Scheduler

variable {R : Pairing} {ts ts' : List (Task ρ)} {join join' : List ρ → Course ρ}

theorem Course.start_fork (branches : List (Course ρ)) (join : List ρ → Course ρ) (s : Session) :
    (Course.fork branches join).start s =
      Task.joined (startAll branches s).1 join (startAll branches s).2 := by
  rw [Course.start]
  rfl

theorem Task.AllAlike.comes_joined (hts : Task.AllAlike R ts ts')
    (hj : ∀ rs, (join rs).Alike R (join' rs))
    (hstart : ∀ rs, Comes R (join rs).start (join' rs).start) :
    Comes R (Task.joined ts join) (Task.joined ts' join') := by
  intro R' s a hR hagree hclock
  rw [Task.joined, Task.joined, ← hts.results?_eq]
  cases Task.results? ts with
  | some rs => exact hstart rs R' s a hR hagree hclock
  | none =>
    refine ⟨R', [], ?_, .refl hagree hclock⟩
    exact .joins (hts.mono hR) fun rs => (hj rs).mono hR

theorem comeAll_startAll {ps ps' : List (Course ρ)}
    (h : List.Forall₂ (fun p p' => Comes R p.start p'.start) ps ps') :
    ComeAll R (startAll ps) (startAll ps') := by
  induction h with
  | nil => exact .pure fun _ _ => .nil
  | @cons p p' rest rest' hp _ ih =>
    have hcons : ∀ R₁ t t', R ≤ R₁ → t.Alike R₁ t' → ComeAll R₁
        (fun s => (t :: (startAll rest s).1, (startAll rest s).2))
        (fun a => (t' :: (startAll rest' a).1, (startAll rest' a).2)) := by
      intro R₁ t t' hR₁ ht
      have hpure : ∀ R₂ us us', R₁ ≤ R₂ → Task.AllAlike R₂ us us' →
          ComeAll R₂ (fun s => (t :: us, s)) (fun a => (t' :: us', a)) :=
        fun R₂ us us' hR₂ hus => .pure fun R₃ hR₃ =>
          .cons (ht.mono (hR₂.trans hR₃)) (hus.mono hR₃)
      exact (ih.mono hR₁).bind hpure
    exact hp.bind hcons

/-- **Courses that are alike are started in tandem.** -/
theorem Course.Alike.comes_start {p p' : Course ρ} (h : p.Alike R p') :
    Comes R p.start p'.start := by
  induction h with
  | done r => exact .pure fun _ _ => .finished r
  | take h _ ih => exact (Synced.take h).bind ih
  | @pause R ms next next' hn ih =>
    cases ms with
    | zero => exact ih
    | succ ms =>
      intro R' s a hR hagree hclock
      refine ⟨R', [], ?_, .refl hagree hclock⟩
      rw [Course.start, Course.start, hclock]
      exact .waiting (hn.mono hR)
  | @fork R branches branches' join join' hlength _ hj ihb ihj =>
    have hstarted : ComeAll R (startAll branches) (startAll branches') :=
      comeAll_startAll (List.forall₂_iff_get.2 ⟨hlength, ihb⟩)
    have hjoined : ∀ R₁ us us', R ≤ R₁ → Task.AllAlike R₁ us us' →
        Comes R₁ (Task.joined us join) (Task.joined us' join') := fun R₁ us us' hR₁ hus =>
      hus.comes_joined (fun rs => (hj rs).mono hR₁) fun rs => (ihj rs).mono hR₁
    intro R' s a hR hagree hclock
    rw [Course.start_fork, Course.start_fork]
    exact hstarted.bind hjoined R' s a hR hagree hclock

theorem comeAll_fireFirst (τ : Timer)
    (h : List.Forall₂ (fun t t' => t.Alike R t' ∧ Comes R t.fire t'.fire) ts ts') :
    ComeAll R (Task.fireFirst τ ts) (Task.fireFirst τ ts') := by
  induction h with
  | nil => exact .pure fun _ _ => .nil
  | @cons t t' us us' ht hrest ih =>
    obtain ⟨halike, hfire⟩ := ht
    have hothers : Task.AllAlike R us us' := hrest.imp fun _ _ h => h.1
    have hhere : ∀ R₁ u u', R ≤ R₁ → u.Alike R₁ u' →
        ComeAll R₁ (fun s => (u :: us, s)) (fun a => (u' :: us', a)) := fun R₁ u u' hR₁ hu =>
      .pure fun R₂ hR₂ => .cons (hu.mono hR₂) (hothers.mono (hR₁.trans hR₂))
    have hthere : ∀ R₁ vs vs', R ≤ R₁ → Task.AllAlike R₁ vs vs' →
        ComeAll R₁ (fun s => (t :: vs, s)) (fun a => (t' :: vs', a)) := fun R₁ vs vs' hR₁ hvs =>
      .pure fun R₂ hR₂ => .cons (halike.mono (hR₁.trans hR₂)) (hvs.mono hR₂)
    intro R' s a hR hagree hclock
    rw [Task.fireFirst, Task.fireFirst, ← halike.timer?_eq]
    split
    · exact hfire.bind hhere R' s a hR hagree hclock
    · exact ih.bind hthere R' s a hR hagree hclock

/-- **Tasks that are alike are fired in tandem.** -/
theorem Task.Alike.comes_fire {t t' : Task ρ} (h : t.Alike R t') : Comes R t.fire t'.fire := by
  induction h with
  | finished r => exact .pure fun _ _ => .finished r
  | waiting hn => exact hn.comes_start
  | @joining branches branches' join join' hlength hb hj ih =>
    have halike : Task.AllAlike R branches branches' := List.forall₂_iff_get.2 ⟨hlength, hb⟩
    have hfires : List.Forall₂ (fun t t' => t.Alike R t' ∧ Comes R t.fire t'.fire) branches
        branches' := List.forall₂_iff_get.2 ⟨hlength, fun i h h' => ⟨hb i h h', ih i h h'⟩⟩
    have hjoined : ∀ R₁ us us', R ≤ R₁ → Task.AllAlike R₁ us us' →
        Comes R₁ (Task.joined us join) (Task.joined us' join') := fun R₁ us us' hR₁ hus =>
      hus.comes_joined (fun rs => (hj rs).mono hR₁) fun rs => (hj rs).comes_start.mono hR₁
    intro R' s a hR hagree hclock
    rw [Task.fire, Task.fire, ← halike.firstTimer?_eq]
    cases Task.firstTimer? branches with
    | some τ => exact (comeAll_fireFirst τ hfires).bind hjoined R' s a hR hagree hclock
    | none => exact hjoined R _ _ le_rfl halike R' s a hR hagree hclock

end Scheduler

end Scenario
