import Scenario.Proofs.Session.Report
import Scenario.Proofs.Session.Tandem
import Scenario.Proofs.Session.Timers

/-!
# Branches that have nothing in common

Where no two branches work on the same scope, each of them does among the others what it would do
if it ran alone.  The runs alone are in sessions of their own, and the proof has all of them go on
beside the run of the branches: whenever a branch goes on, so does its run alone, and the two are
in tandem.  The others stay as they are.

The clocks are not the same all the time.  The run alone stays at the moment at which it has
paused while other branches let time pass; but when the timer of the branch goes off both show the
same again.

## What is here

* `Solo` — a run alone with what is ahead of it, and `Apart` — several of them beside a session in
  which their scopes are different ones.
* `Ends` — what the session is like when all have ended.
* `Apart.goes` and `Ends.goes` — what it means for all when one of them goes on.
* `EndsAtOnce.clock_eq` — when all have ended, if no time passes that no branch has waited for.
* `Apart.run_joined` and `Session.run_fork` — the run of branches as the scheduler has it, by
  induction on what they have still to do.
-/

set_option autoImplicit false

namespace Scenario

variable {ρ ε : Type}

/-- A course that runs alone, beside a branch that differs from it in the numbers of scopes. -/
structure Solo (ε : Type) where
  /-- Which scope of the branch stands for which one of the run alone. -/
  pairing : Pairing
  /-- How far the run alone has come. -/
  session : Session
  /-- What is ahead of it: how it ends, or the course that it has still to go. -/
  ahead : ε

/-- Whether branches that run in a session are as far as their runs alone and have different
scopes. -/
structure Apart (s : Session) (solos : List (Solo ε)) : Prop where
  agree : ∀ {i : Nat} {x : Solo ε}, solos[i]? = some x → s.Agree x.pairing x.session
  clock : ∀ {i : Nat} {x : Solo ε}, solos[i]? = some x → x.session.clock ≤ s.clock
  disjoint : ∀ {i j : Nat} {x y : Solo ε} {m n n' : Nat}, solos[i]? = some x → solos[j]? = some y →
    x.pairing m n → y.pairing m n' → i = j

/-- What a session is like when branches that were apart have all ended. -/
structure Ends (s : Session) (solos : List (Solo (ρ × Session))) (e : Session) : Prop where
  agree : ∀ {i : Nat} {x : Solo (ρ × Session)}, solos[i]? = some x →
    ∃ R, x.pairing ≤ R ∧ e.Agree R x.ahead.2
  others : ∀ {m : Nat}, m < s.scopes.length →
    (∀ (i : Nat) (x : Solo (ρ × Session)) (n : Nat), solos[i]? = some x → ¬ x.pairing m n) →
      e.store m = s.store m
  latest : ∀ {i : Nat} {x : Solo (ρ × Session)}, solos[i]? = some x → x.ahead.2.clock ≤ e.clock
  /-- What is to be seen is put together from what is to be seen of the runs alone. -/
  shows : ∃ parts whole, s.Shows whole e ∧ Interleaves parts whole ∧ parts.length = solos.length ∧
    ∀ {i : Nat} {x : Solo (ρ × Session)} {part : List Mark}, solos[i]? = some x →
      parts[i]? = some part → x.session.Shows part x.ahead.2

/-- What it is like if no time has passed since the last of them has ended. -/
structure EndsAtOnce (s : Session) (solos : List (Solo (ρ × Session))) (e : Session) : Prop
    extends Ends s solos e where
  reached : e.clock = s.clock ∨ ∃ x ∈ solos, e.clock = x.ahead.2.clock

theorem foldl_max_eq {times : List Nat} {start last : Nat} (hstart : start ≤ last)
    (htimes : ∀ time ∈ times, time ≤ last) (h : last = start ∨ last ∈ times) :
    times.foldl max start = last := by
  induction times generalizing start with
  | nil => exact (h.resolve_right List.not_mem_nil).symm
  | cons time times ih =>
    obtain ⟨htime, htimes⟩ := List.forall_mem_cons.1 htimes
    refine ih (Nat.max_le.2 ⟨hstart, htime⟩) htimes ?_
    rcases h with h | h
    · exact .inl (by omega)
    · rcases List.mem_cons.1 h with h | h
      · exact .inl (by omega)
      · exact .inr h

/-- **Branches take as long as the longest of them**: the end is that of some branch, and none of
them ends later. -/
theorem EndsAtOnce.clock_eq {s e : Session} {solos : List (Solo (ρ × Session))}
    (h : EndsAtOnce s solos e)
    (hbegin : ∀ x ∈ solos, s.clock ≤ x.ahead.2.clock) :
    e.clock = (solos.map fun x => x.ahead.2.clock).foldl max s.clock := by
  have hlatest : ∀ x ∈ solos, x.ahead.2.clock ≤ e.clock := by
    intro x hx
    obtain ⟨i, hi⟩ := List.mem_iff_getElem?.1 hx
    exact h.latest hi
  have hstart : s.clock ≤ e.clock := by
    rcases h.reached with hclock | ⟨x, hx, -⟩
    · exact hclock.ge
    · exact (hbegin x hx).trans (hlatest x hx)
  refine (foldl_max_eq hstart (List.forall_mem_map.2 hlatest) ?_).symm
  refine h.reached.imp_right fun hsome => ?_
  obtain ⟨x, hx, hclock⟩ := hsome
  exact List.mem_map.2 ⟨x, hx, hclock.symm⟩

/-! ## One branch goes on -/

theorem getElem?_set_cases {α : Type} {l : List α} {i j : Nat} {a b : α}
    (h : (l.set i a)[j]? = some b) : j = i ∧ b = a ∨ j ≠ i ∧ l[j]? = some b := by
  rw [List.getElem?_set] at h
  grind

/-- Who works on other scopes does not matter. -/
theorem Session.Agree.beside {R : Pairing} {s s' a : Session} (h : s.Agree R a)
    (hopened : s.scopes.length ≤ s'.scopes.length)
    (hstay : ∀ {m n : Nat}, R m n → s'.store m = s.store m) : s'.Agree R a where
  left hmn := (h.left hmn).trans_le hopened
  right := h.right
  one := h.one
  store hmn := (hstay hmn).trans (h.store hmn)

section Goes

variable {s s' e : Session} {i : Nat} {R : Pairing} {a : Session} {marks : List Mark}

/-- **One branch goes on**, and the others are as far as they were. -/
theorem Apart.goes {solos : List (Solo ε)} {x : Solo ε} (h : Apart s solos)
    (hi : solos[i]? = some x) (ht : Tandem x.pairing s x.session R s' a marks)
    (hclock : s.clock ≤ s'.clock) (ahead : ε) : Apart s' (solos.set i ⟨R, a, ahead⟩) where
  agree {j y} hj := by
    rcases getElem?_set_cases hj with ⟨rfl, rfl⟩ | ⟨hne, hj⟩
    · exact ht.agree
    · refine (h.agree hj).beside ht.opened fun hmn => ?_
      refine ht.others ((h.agree hj).left hmn) fun n' hmn' => ?_
      exact hne (h.disjoint hj hi hmn hmn')
  clock {j y} hj := by
    rcases getElem?_set_cases hj with ⟨rfl, rfl⟩ | ⟨_, hj⟩
    · exact ht.clock.ge
    · exact (h.clock hj).trans hclock
  disjoint {j k y z m n n'} hj hk hmn hmn' := by
    have hnew : ∀ {k z n n'}, solos[k]? = some z → R m n → z.pairing m n' → i = k := by
      intro k z n n' hk hmn hmn'
      rcases ht.fresh hmn with hmn | hm
      · exact h.disjoint hi hk hmn hmn'
      · exact absurd ((h.agree hk).left hmn') hm.not_gt
    rcases getElem?_set_cases hj with ⟨rfl, rfl⟩ | ⟨_, hj'⟩ <;>
      rcases getElem?_set_cases hk with ⟨rfl, rfl⟩ | ⟨_, hk'⟩
    · rfl
    · exact hnew hk' hmn hmn'
    · exact (hnew hj' hmn' hmn).symm
    · exact h.disjoint hj' hk' hmn hmn'

variable {solos : List (Solo (ρ × Session))} {x : Solo (ρ × Session)}

/-- **One branch has gone on**, and what is so in the end is so also for the moment before. -/
theorem Ends.goes (h : Ends s' (solos.set i ⟨R, a, x.ahead⟩) e) (hi : solos[i]? = some x)
    (ht : Tandem x.pairing s x.session R s' a marks) : Ends s solos e := by
  have hlt : i < solos.length := (List.getElem?_eq_some_iff.1 hi).1
  have hself : (solos.set i ⟨R, a, x.ahead⟩)[i]? = some ⟨R, a, x.ahead⟩ :=
    List.getElem?_set_self hlt
  have hother : ∀ {j y}, i ≠ j → solos[j]? = some y →
      (solos.set i ⟨R, a, x.ahead⟩)[j]? = some y := fun hne hj => by
    rw [List.getElem?_set_ne hne, hj]
  refine ⟨fun {j y} hj => ?_, fun {m} hm hnone => ?_, fun {j y} hj => ?_, ?_⟩
  · by_cases hne : i = j
    · subst hne
      cases hi.symm.trans hj
      obtain ⟨R', hR', hagree⟩ := h.agree hself
      exact ⟨R', ht.grows.trans hR', hagree⟩
    · exact h.agree (hother hne hj)
  · have hgone : e.store m = s'.store m := by
      refine h.others (hm.trans_le ht.opened) fun j y n hj hmn => ?_
      rcases getElem?_set_cases hj with ⟨rfl, rfl⟩ | ⟨_, hj⟩
      · exact (ht.fresh hmn).elim (hnone _ x n hi) hm.not_ge
      · exact hnone j y n hj hmn
    rw [hgone, ht.others hm fun n => hnone i x n hi]
  · by_cases hne : i = j
    · subst hne
      cases hi.symm.trans hj
      exact h.latest (x := ⟨R, a, x.ahead⟩) hself
    · exact h.latest (hother hne hj)
  · obtain ⟨parts, whole, hwhole, hparts, hlength, heach⟩ := h.shows
    rw [List.length_set] at hlength
    have hpart : parts[i]? = some parts[i] := List.getElem?_eq_getElem (hlength ▸ hlt)
    refine ⟨parts.set i (marks ++ parts[i]), marks ++ whole, ht.shows.trans hwhole,
      hparts.prepend hpart marks, by rw [List.length_set, hlength], fun {j y part} hj hpart' => ?_⟩
    rcases getElem?_set_cases hpart' with ⟨rfl, rfl⟩ | ⟨hne, hpart'⟩
    · cases hi.symm.trans hj
      exact ht.shows_alone.trans (heach hself hpart)
    · exact heach (hother (Ne.symm hne) hj) hpart'

/-- The last branch to end ends after the moment before, if its run alone does. -/
theorem EndsAtOnce.goes (h : EndsAtOnce s' (solos.set i ⟨R, a, x.ahead⟩) e)
    (hi : solos[i]? = some x) (ht : Tandem x.pairing s x.session R s' a marks)
    (hend : a.clock ≤ x.ahead.2.clock) : EndsAtOnce s solos e := by
  have hends : Ends s solos e := h.toEnds.goes hi ht
  refine ⟨hends, .inr ?_⟩
  rcases h.reached with hclock | ⟨y, hy, hclock⟩
  · refine ⟨x, List.mem_of_getElem? hi, (hends.latest hi).antisymm' ?_⟩
    rw [hclock, ht.clock]
    exact hend
  · rcases List.mem_or_eq_of_mem_set hy with hy | rfl
    · exact ⟨y, hy, hclock⟩
    · exact ⟨x, List.mem_of_getElem? hi, hclock⟩

end Goes

/-! ## The run alone goes on as well -/

/-- What came before without opening a scope or being seen. -/
theorem Tandem.before {R R' : Pairing} {s s₁ s' a a₁ a' : Session} {marks : List Mark}
    (h : Tandem R s₁ a₁ R' s' a' marks) (hscopes : s₁.scopes = s.scopes) (hview : s₁.view = s.view)
    (hview' : a₁.view = a.view) : Tandem R s a R' s' a' marks where
  grows := h.grows
  agree := h.agree
  clock := h.clock
  fresh := hscopes ▸ h.fresh
  opened := hscopes ▸ h.opened
  others {m} hm hR := by
    rw [h.others (hscopes ▸ hm) hR, Session.store, Session.store, hscopes]
  shows := by
    rw [Session.Shows, ← hview]
    exact h.shows
  shows_alone := by
    rw [Session.Shows, ← hview']
    exact h.shows_alone

/-- Whether a run alone is still to do what a branch is still to do. -/
def Solo.Follows (x : Solo (ρ × Session)) (t : Task ρ) : Prop :=
  ∃ t' : Task ρ, t.Alike x.pairing t' ∧ t'.run x.session = x.ahead

theorem Task.scopes_await (t : Task ρ) (s : Session) : (t.await s).scopes = s.scopes :=
  t.await_eq (·.scopes) Session.scopes_advance s

/-- Neither time nor replies are to be seen. -/
theorem Session.view_advance (s : Session) (time : Nat) (first : Delivery → Bool) :
    (s.advance time first).view = s.view :=
  advance_eq view (fun _ _ => rfl) (fun _ _ _ _ => rfl) (fun _ _ => rfl) s time first

theorem Task.view_await (t : Task ρ) (s : Session) : (t.await s).view = s.view :=
  t.await_eq Session.view Session.view_advance s

section Follows

variable {x : Solo (ρ × Session)} {s : Session}

theorem Solo.Follows.clock_le {t : Task ρ} (h : x.Follows t) :
    x.session.clock ≤ x.ahead.2.clock := by
  obtain ⟨t', -, hrun⟩ := h
  have hle := (Woven.of_run t' x.session).clock_le
  rwa [hrun] at hle

/-- A branch is started, and so is its run alone. -/
theorem Solo.starts {p p' : Course ρ} (hp : p.Alike x.pairing p')
    (hrun : x.session.run p' = x.ahead)
    (hagree : s.Agree x.pairing x.session) (hclock : s.clock = x.session.clock) :
    ∃ R a marks, Tandem x.pairing s x.session R (p.start s).2 a marks ∧
      (⟨R, a, x.ahead⟩ : Solo (ρ × Session)).Follows (p.start s).1 := by
  obtain ⟨R, marks, halike, htandem⟩ := hp.comes_start x.pairing s x.session le_rfl hagree hclock
  exact ⟨R, _, marks, htandem, _, halike, hrun⟩

/-- **When the timer of a branch goes off so does that of its run alone**, and both go on in
tandem. -/
theorem Solo.Follows.fires {t : Task ρ} {s₁ : Session} {τ : Timer} (h : x.Follows t)
    (hτ : t.timer? = some τ) (hagree : s.Agree x.pairing x.session)
    (hle : x.session.clock ≤ τ.due) (hscopes : s₁.scopes = s.scopes) (hview : s₁.view = s.view)
    (hclock : s₁.clock = τ.due) :
    ∃ R a marks, Tandem x.pairing s x.session R (t.fire s₁).2 a marks ∧
      (⟨R, a, x.ahead⟩ : Solo (ρ × Session)).Follows (t.fire s₁).1 := by
  obtain ⟨t', halike, hrun⟩ := h
  have hτ' : t'.timer? = some τ := by rw [← halike.timer?_eq, hτ]
  have hclock' : (t'.await x.session).clock = τ.due := Task.clock_await hτ' hle
  have hagree' : s₁.Agree x.pairing (t'.await x.session) :=
    hagree.congr hscopes (t'.scopes_await _)
  obtain ⟨R, marks, hfired, htandem⟩ :=
    halike.comes_fire x.pairing s₁ _ le_rfl hagree' (hclock.trans hclock'.symm)
  rw [Task.run_of_result?_eq_none (Task.result?_eq_none_of_timer? hτ')] at hrun
  exact ⟨R, _, marks, htandem.before hscopes hview (t'.view_await _), _, hfired, hrun⟩

end Follows

/-! ## All branches -/

section Branches

variable {s : Session} {solos : List (Solo (ρ × Session))} {ts : List (Task ρ)}

theorem forall₂_set {α β : Type} {P : α → β → Prop} {l : List α} {l' : List β}
    (h : List.Forall₂ P l l') (i : Nat) {a : α} {b : β} (hab : P a b) :
    List.Forall₂ P (l.set i a) (l'.set i b) := by
  induction h generalizing i with
  | nil => exact .nil
  | cons hxy hrest ih =>
    cases i with
    | zero => exact .cons hab hrest
    | succ i => exact .cons hxy (ih i)

theorem exists_of_forall₂ {α β : Type} {P : α → β → Prop} {l : List α} {l' : List β}
    (h : List.Forall₂ P l l') {i : Nat} {a : α} (hi : l[i]? = some a) :
    ∃ b, l'[i]? = some b ∧ P a b := by
  obtain ⟨hlt, rfl⟩ := List.getElem?_eq_some_iff.1 hi
  obtain ⟨hlength, hget⟩ := List.forall₂_iff_get.1 h
  exact ⟨l'[i], List.getElem?_eq_getElem _, hget i hlt (hlength ▸ hlt)⟩

/-- When all have ended, so have their runs alone. -/
theorem Solo.ahead_of_results? (h : List.Forall₂ (fun t x => Solo.Follows x t) ts solos)
    {rs : List ρ} (hrs : Task.results? ts = some rs) :
    rs = solos.map (·.ahead.1) ∧ ∀ x ∈ solos, x.ahead.2 = x.session := by
  induction h generalizing rs with
  | nil =>
    cases hrs
    exact ⟨rfl, List.forall_mem_nil _⟩
  | @cons t x us xs ht _ ih =>
    obtain ⟨t', halike, hrun⟩ := ht
    rw [Task.results?] at hrs
    cases halike with
    | finished r =>
      cases hothers : Task.results? us with
      | none =>
        rw [hothers] at hrs
        cases hrs
      | some rs' =>
        rw [hothers] at hrs
        cases hrs
        obtain ⟨hrs', hsessions⟩ := ih hothers
        rw [Task.run_of_result? (r := r) rfl] at hrun
        rw [hrs', List.map_cons, ← hrun]
        refine ⟨rfl, List.forall_mem_cons.2 ⟨?_, hsessions⟩⟩
        rw [← hrun]
    | waiting => cases hrs
    | joining => cases hrs

theorem Solo.map_ahead_set {i : Nat} {x : Solo (ρ × Session)} (hi : solos[i]? = some x)
    (R : Pairing) (a : Session) :
    (solos.set i ⟨R, a, x.ahead⟩).map (·.ahead.1) = solos.map (·.ahead.1) := by
  obtain ⟨hlt, rfl⟩ := List.getElem?_eq_some_iff.1 hi
  have hlt' : i < (solos.map (·.ahead.1)).length := by rwa [List.length_map]
  have hself := List.set_getElem_self hlt'
  rw [List.getElem_map] at hself
  rw [List.map_set, hself]

/-- When all have ended, so have the branches. -/
theorem Apart.ends (h : Apart s solos) (hended : ∀ x ∈ solos, x.ahead.2 = x.session) :
    Ends s solos s := by
  refine ⟨fun {i x} hi => ?_, fun _ _ => rfl, fun {i x} hi => ?_,
    solos.map fun _ => [], [], .none rfl, .done ?_, List.length_map _,
    fun {i x part} hi hpart => ?_⟩
  · rw [hended x (List.mem_of_getElem? hi)]
    exact ⟨x.pairing, le_rfl, h.agree hi⟩
  · rw [hended x (List.mem_of_getElem? hi)]
    exact h.clock hi
  · intro part hpart
    obtain ⟨_, _, rfl⟩ := List.mem_map.1 hpart
    rfl
  · rw [List.getElem?_map, hi] at hpart
    cases hpart
    rw [hended x (List.mem_of_getElem? hi)]
    exact .none rfl

/-- **Branches that are apart run as their runs alone do.** -/
theorem Apart.run_joined (join : List ρ → Course ρ) (hacc : Acc Task.FiresIn ts)
    (h : Apart s solos) (hfollows : List.Forall₂ (fun t x => Solo.Follows x t) ts solos)
    (hdue : ∀ t ∈ ts, t.Due s.clock) :
    ∃ e, (Task.joined ts join s).1.run (Task.joined ts join s).2 =
      e.run (join (solos.map (·.ahead.1))) ∧ EndsAtOnce s solos e := by
  induction hacc generalizing s solos with
  | intro ts _ ih =>
    cases hresults : Task.results? ts with
    | some rs =>
      obtain ⟨hrs, hsessions⟩ := Solo.ahead_of_results? hfollows hresults
      refine ⟨s, ?_, h.ends hsessions, .inl rfl⟩
      rw [Task.joined, hresults, hrs]
      rfl
    | none =>
      obtain ⟨τ, hτ⟩ := Task.exists_firstTimer?_of_results? hresults
      have htimer : (Task.joining ts join).timer? = some τ := by
        rw [Task.timer?, hτ, Option.getD_some]
      have hwaits : (Task.joining ts join).Due s.clock := .joining hdue hresults
      let s₁ := (Task.joining ts join).await s
      have hclock : s₁.clock = τ.due := Task.clock_await htimer (hwaits.le_due htimer)
      obtain ⟨i, t, hi, ht, hfired⟩ := Task.fireFirst_eq_set hτ s₁
      obtain ⟨x, hx, hxt⟩ := exists_of_forall₂ hfollows hi
      have hle : x.session.clock ≤ τ.due := (h.clock hx).trans (hwaits.le_due htimer)
      obtain ⟨R, a, marks, htandem, hxt'⟩ := hxt.fires ht (h.agree hx) hle (Task.scopes_await _ s)
        (Task.view_await _ s) hclock
      -- no other timer has gone off meanwhile
      have hwait : ∀ u ∈ ts, u.Due s₁.clock := fun u hu => (hdue u hu).later fun σ hσ => by
        obtain ⟨τ', hτ', hfirst⟩ := Task.exists_firstTimer? hu hσ
        cases hτ.symm.trans hτ'
        rwa [hclock]
      obtain ⟨hsame, hdue'⟩ := (hwait t (List.mem_of_getElem? hi)).fire
      have hlater : s.clock ≤ (t.fire s₁).2.clock := by
        rw [hsame, hclock]
        exact hwaits.le_due htimer
      have hset : ∀ u ∈ ts.set i (t.fire s₁).1, u.Due (t.fire s₁).2.clock := by
        intro u hu
        rw [hsame]
        rcases List.mem_or_eq_of_mem_set hu with hu | rfl
        · exact hwait u hu
        · exact hdue'
      have hfires : Task.FiresIn (ts.set i (t.fire s₁).1) ts := by
        have hfires := Task.firesIn_fireFirst hτ s₁
        rwa [hfired] at hfires
      obtain ⟨e, hrun, hends⟩ := ih _ hfires (h.goes hx htandem hlater x.ahead)
        (forall₂_set hfollows i hxt') hset
      refine ⟨e, ?_, hends.goes hx htandem hxt'.clock_le⟩
      rw [Solo.map_ahead_set hx] at hrun
      rw [Task.joined, hresults, Task.run_of_result?_eq_none rfl, Task.fire, hτ]
      show (Task.joined (Task.fireFirst τ ts s₁).1 join (Task.fireFirst τ ts s₁).2).1.run
        (Task.joined (Task.fireFirst τ ts s₁).1 join (Task.fireFirst τ ts s₁).2).2 = _
      rw [hfired]
      exact hrun

/-- Whether a run alone is to start at some moment and to do what a branch does. -/
def Solo.Awaits (time : Nat) (x : Solo (ρ × Session)) (p : Course ρ) : Prop :=
  x.session.clock = time ∧ ∃ p' : Course ρ, p.Alike x.pairing p' ∧ x.session.run p' = x.ahead

/-- Branches that are apart are started one after the other as their runs alone are.  Those in front
have been started already. -/
theorem Apart.startAll {time : Nat} {ps : List (Course ρ)} {xs before : List (Solo (ρ × Session))}
    (hps : List.Forall₂ (fun p x => Solo.Awaits time x p) ps xs) (hclock : s.clock = time)
    (h : Apart s (before ++ xs)) :
    ∃ xs', List.Forall₂ (fun t x => Solo.Follows x t) (startAll ps s).1 xs' ∧
      Apart (startAll ps s).2 (before ++ xs') ∧ xs'.map (·.ahead.1) = xs.map (·.ahead.1) ∧
      ∀ e, EndsAtOnce (startAll ps s).2 (before ++ xs') e → EndsAtOnce s (before ++ xs) e := by
  induction hps generalizing s before with
  | nil => exact ⟨[], .nil, h, rfl, fun _ he => he⟩
  | @cons p x ps xs hx _ ih =>
    obtain ⟨hsolo, p', hp, hrun⟩ := hx
    have hi : (before ++ x :: xs)[before.length]? = some x := by
      rw [List.getElem?_append_right (Nat.le_refl _), Nat.sub_self, List.getElem?_cons_zero]
    obtain ⟨R, a, marks, htandem, hfollows⟩ :=
      Solo.starts hp hrun (h.agree hi) (hclock.trans hsolo.symm)
    have hsame : (p.start s).2.clock = s.clock := (p.onTime_start s).1
    have hset : (before ++ x :: xs).set before.length ⟨R, a, x.ahead⟩ =
        (before ++ [⟨R, a, x.ahead⟩]) ++ xs := by
      rw [List.set_append_right _ _ (Nat.le_refl _), Nat.sub_self, List.set_cons_zero,
        List.append_assoc, List.singleton_append]
    have hgone := h.goes hi htandem hsame.ge x.ahead
    rw [hset] at hgone
    obtain ⟨xs', hfollow, hapart, hendings, hends⟩ := ih (hsame.trans hclock) hgone
    refine ⟨⟨R, a, x.ahead⟩ :: xs', .cons hfollows hfollow, ?_, ?_, fun e he => ?_⟩
    · rwa [List.append_assoc] at hapart
    · rw [List.map_cons, hendings, List.map_cons]
    · have he' := hends e (by rwa [List.append_assoc])
      rw [← hset] at he'
      exact he'.goes hi htandem hfollows.clock_le

/-- **A fork whose branches are apart** goes on with what their runs alone end with. -/
theorem Session.run_fork {branches : List (Course ρ)} (join : List ρ → Course ρ)
    (hbranches : List.Forall₂ (fun p x => Solo.Awaits s.clock x p) branches solos)
    (h : Apart s solos) :
    ∃ e, s.run (.fork branches join) = e.run (join (solos.map (·.ahead.1))) ∧
      EndsAtOnce s solos e := by
  have hbegin : Apart s ([] ++ solos) := h
  obtain ⟨xs, hfollows, hapart, hendings, hends⟩ := hbegin.startAll hbranches rfl
  obtain ⟨hsame, hdue⟩ := onTime_startAll branches s
  rw [← hsame] at hdue
  have hacc : Acc Task.FiresIn (startAll branches s).1 := Task.acc_list fun t _ => Task.acc_fires t
  obtain ⟨e, hrun, hend⟩ := Apart.run_joined join hacc hapart hfollows hdue
  refine ⟨e, ?_, hends e hend⟩
  rw [Session.run, Course.start_fork, ← hendings]
  exact hrun

end Branches

end Scenario
