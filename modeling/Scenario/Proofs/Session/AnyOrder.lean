import Scenario.Proofs.Session.Apart
import Scenario.Proofs.Session.Gathering

/-!
# Branches that are apart, in any order

That branches which work on different scopes run as they do alone has nothing to do with the
scheduler.  Whichever of them goes on next, the others are left where they are, so its run alone
can take the same step; and when time passes beside a branch it can as well pass beside its run
alone.

What differs from a run of the scheduler is that nothing says how long a pause takes.  So the runs
alone are not known beforehand: they are read off the run of the branches, and the induction goes
from its end to its beginning.

## What is here

* `Session.Agree.elapses` — when time passes in a session it can pass in one that agrees with it,
  until both clocks show the same.
* `Course.Alike.follows` — whatever a course does next, one that is alike can follow in tandem.
* `Solo.Comes` — a run alone can come to an end.
* `Apart.of_runs` — whatever branches that are apart come to, there are runs alone that come to it.
-/

set_option autoImplicit false

namespace Scenario

variable {ρ : Type}

/-! ## Time that passes -/

namespace Session.Elapses

variable {s t : Session}

theorem clock_le (h : s.Elapses t) : s.clock ≤ t.clock := (h.woven (.done ())).clock_le

theorem view_eq (h : s.Elapses t) : t.view = s.view := by
  induction h with
  | refl => rfl
  | tail _ hlast ih =>
    obtain ⟨time, first, rfl⟩ := hlast
    rw [view_advance, ih]

end Session.Elapses

/-- **Where time passes it can pass as well in a session that is behind**, and both are at the same
moment then. -/
theorem Session.Agree.elapses {R : Pairing} {s t a : Session} (h : s.Agree R a)
    (hclock : a.clock ≤ s.clock) (ht : s.Elapses t) :
    ∃ b, a.Elapses b ∧ Tandem R s a R t b [] := by
  have hlater : a.clock ≤ t.clock := hclock.trans ht.clock_le
  refine ⟨a.advance t.clock fun _ => false, .advance .., ?_⟩
  exact {
    grows := le_rfl
    agree := h.congr ht.scopes_eq (Session.scopes_advance ..)
    clock := (Session.clock_advance hlater fun _ hnone => absurd hnone Bool.false_ne_true).symm
    fresh := .inl
    opened := ht.scopes_eq ▸ le_rfl
    others := fun _ _ => ht.store_eq _
    shows := .none ht.view_eq
    shows_alone := .none (Session.view_advance ..) }

/-! ## Steps that are followed -/

/-- What is alike to a course that has ended has ended so. -/
theorem Course.Alike.eq_done {R : Pairing} {r : ρ} {p : Course ρ}
    (h : (Course.done r).Alike R p) : p = .done r := by
  cases h
  rfl

/-- What is alike, one by one, to courses that all have ended. -/
theorem Course.map_eq_of_alike_done {α : Type} {f : α → Course ρ} {results : List ρ} {xs : List α}
    (h : List.Forall₂ (fun p x => ∃ R, Course.Alike R p (f x)) (results.map .done) xs) :
    xs.map f = results.map .done := by
  induction results generalizing xs with
  | nil =>
    cases h
    rfl
  | cons r results ih =>
    obtain ⟨x, xs, ⟨R, hx⟩, hrest, rfl⟩ := List.forall₂_cons_left_iff.1 h
    rw [List.map_cons, hx.eq_done, ih hrest, List.map_cons]

/-- **Whatever a course does next, one that is alike can follow**, in a session that agrees on the
variables and may be behind. -/
theorem Course.Alike.follows {R : Pairing} {p p' : Course ρ} (h : p.Alike R p') {s a : Session}
    {b : Course ρ × Session} (hagree : s.Agree R a) (hclock : a.clock ≤ s.clock)
    (hstep : Weaves (p, s) b) :
    ∃ R' marks c, Woven (p', a) c ∧ b.1.Alike R' c.1 ∧ Tandem R s a R' b.2 c.2 marks := by
  have hwaits : ∀ {R : Pairing} {q q' : Course ρ} {t : Session}, q.Alike R q' → s.Agree R a →
      s.Elapses t → ∃ R' marks c, Woven (q', a) c ∧ q.Alike R' c.1 ∧ Tandem R s a R' t c.2 marks :=
    fun hq hagree ht => by
      obtain ⟨a', ha, htandem⟩ := hagree.elapses hclock ht
      exact ⟨_, [], (_, a'), ha.woven _, hq, htandem⟩
  induction h generalizing b with
  | done r =>
    obtain ⟨t, rfl, ht⟩ := hstep.of_done
    exact hwaits (.done r) hagree ht
  | @take R step step' Y next next' halike hn _ =>
    obtain rfl | ⟨t, rfl, ht⟩ := hstep.of_take
    · obtain ⟨a', ha, hwaited⟩ := hagree.elapses hclock (.refl s)
      obtain ⟨R', marks, hyield, htaken⟩ := hwaited.agree.take hwaited.clock halike
      refine ⟨R', _, (next' (a'.take step').1, (a'.take step').2), ?_,
        hn R' _ _ htaken.grows hyield, hwaited.trans htaken⟩
      exact (ha.woven _).tail (.goes (.take _))
    · exact hwaits (.take halike hn) hagree ht
  | @pause R ms next next' hn _ =>
    obtain rfl | ⟨t, rfl, ht⟩ := hstep.of_pause
    · obtain ⟨R', marks, c, hc, halike, htandem⟩ := hwaits hn hagree (.refl s)
      exact ⟨R', marks, c, .head (.idles .pause) hc, halike, htandem⟩
    · exact hwaits (.pause hn) hagree ht
  | @fork R branches branches' join join' hlength hb hj ih _ =>
    have hall : List.Forall₂ (Course.Alike R) branches branches' :=
      List.forall₂_iff_get.2 ⟨hlength, hb⟩
    obtain ⟨rest, t, rfl, hgoes⟩ | ⟨results, rfl, rfl⟩ := hstep.of_fork
    · cases hgoes with
      | @runs _ _ _ _ i p q hi hbranch =>
        obtain ⟨hlt, rfl⟩ := List.getElem?_eq_some_iff.1 hi
        have hlt' : i < branches'.length := hlength ▸ hlt
        obtain ⟨R', marks, c, hc, halike, htandem⟩ := ih i hlt hlt' hagree hbranch
        refine ⟨R', marks, (.fork (branches'.set i c.1) join', c.2),
          .fork_set (List.getElem?_eq_getElem hlt') hc, ?_, htandem⟩
        refine .forks (forall₂_set ?_ i halike) fun rs => (hj rs).mono htandem.grows
        exact hall.imp fun _ _ hp => hp.mono htandem.grows
      | passes time first => exact hwaits (.fork hlength hb hj) hagree (.advance s time first)
    · have hdone : branches' = results.map .done := by
        rw [← List.map_id branches']
        exact Course.map_eq_of_alike_done (hall.imp fun _ _ hp => ⟨R, hp⟩)
      obtain ⟨R', marks, c, hc, halike, htandem⟩ := hwaits (hj results) hagree (.refl s)
      rw [hdone]
      exact ⟨R', marks, c, .head (.idles .join) hc, halike, htandem⟩

/-! ## Runs alone -/

/-- Whether a run alone that has a course to go can come to an end. -/
structure Solo.Comes (x : Solo (Course ρ)) (y : Solo (ρ × Session)) : Prop where
  pairing : y.pairing = x.pairing
  session : y.session = x.session
  woven : Woven (x.ahead, x.session) (.done y.ahead.1, y.ahead.2)

/-- Runs alone that have ended come to their ends at once. -/
theorem Solo.exists_comes {results : List ρ} {xs : List (Solo (Course ρ))}
    (h : xs.map (·.ahead) = results.map .done) :
    ∃ ys, List.Forall₂ Solo.Comes xs ys ∧ ys.map (·.ahead.1) = results ∧
      ∀ y ∈ ys, y.ahead.2 = y.session := by
  induction xs generalizing results with
  | nil =>
    obtain rfl : results = [] := List.map_eq_nil_iff.1 h.symm
    exact ⟨[], .nil, rfl, List.forall_mem_nil _⟩
  | cons x xs ih =>
    obtain ⟨r, results, rfl, hr, hrest⟩ := List.map_eq_cons_iff.1 h.symm
    obtain ⟨ys, hys, hresults, hended⟩ := ih hrest.symm
    refine ⟨⟨x.pairing, x.session, (r, x.session)⟩ :: ys, .cons ⟨rfl, rfl, ?_⟩ hys, ?_, ?_⟩
    · rw [hr]
    · rw [List.map_cons, hresults]
    · exact List.forall_mem_cons.2 ⟨rfl, hended⟩

/-- Where a run alone comes to does not matter for where it is. -/
theorem Apart.comes {s : Session} {xs : List (Solo (Course ρ))} {ys : List (Solo (ρ × Session))}
    (h : Apart s xs) (hys : List.Forall₂ Solo.Comes xs ys) : Apart s ys := by
  have hsolo : ∀ {i : Nat} {y : Solo (ρ × Session)}, ys[i]? = some y →
      ∃ x, xs[i]? = some x ∧ x.Comes y := fun hi => exists_of_forall₂ hys.flip hi
  refine ⟨fun {i y} hi => ?_, fun {i y} hi => ?_, fun {i j y z m n n'} hi hj hmn hmn' => ?_⟩
  · obtain ⟨x, hx, hcomes⟩ := hsolo hi
    rw [hcomes.pairing, hcomes.session]
    exact h.agree hx
  · obtain ⟨x, hx, hcomes⟩ := hsolo hi
    rw [hcomes.session]
    exact h.clock hx
  · obtain ⟨x, hx, hcomes⟩ := hsolo hi
    obtain ⟨x', hx', hcomes'⟩ := hsolo hj
    rw [hcomes.pairing] at hmn
    rw [hcomes'.pairing] at hmn'
    exact h.disjoint hx hx' hmn hmn'

/-- A run alone that has gone on can come to what it can still come to. -/
theorem Solo.comes_of_set {i : Nat} {x : Solo (Course ρ)} {xs : List (Solo (Course ρ))}
    {ys : List (Solo (ρ × Session))} {R : Pairing} {c : Course ρ × Session} (hx : xs[i]? = some x)
    (hc : Woven (x.ahead, x.session) c)
    (hys : List.Forall₂ Solo.Comes (xs.set i ⟨R, c.2, c.1⟩) ys) :
    ∃ zs e, List.Forall₂ Solo.Comes xs zs ∧ zs[i]? = some ⟨x.pairing, x.session, e⟩ ∧
      ys = zs.set i ⟨R, c.2, e⟩ := by
  obtain ⟨hlt, rfl⟩ := List.getElem?_eq_some_iff.1 hx
  obtain ⟨⟨R', a, e⟩, hy, hpairing, hsession, hcomes⟩ :=
    exists_of_forall₂ hys (List.getElem?_set_self hlt)
  obtain rfl : R' = R := hpairing
  obtain rfl : a = c.2 := hsession
  obtain ⟨hlt', hself⟩ := List.getElem?_eq_some_iff.1 hy
  refine ⟨ys.set i ⟨xs[i].pairing, xs[i].session, e⟩, e, ?_, List.getElem?_set_self hlt', ?_⟩
  · have hset := forall₂_set hys i (a := xs[i]) (b := ⟨xs[i].pairing, xs[i].session, e⟩)
      ⟨rfl, rfl, hc.trans hcomes⟩
    rwa [List.set_set, List.set_getElem_self] at hset
  · rw [List.set_set, ← hself, List.set_getElem_self]

/-! ## Time beside runs alone -/

section Elapses

variable {s t e : Session}

theorem Apart.elapses {ε : Type} {solos : List (Solo ε)} (h : Apart s solos) (ht : s.Elapses t) :
    Apart t solos where
  agree hi := (h.agree hi).congr ht.scopes_eq rfl
  clock hi := (h.clock hi).trans ht.clock_le
  disjoint := h.disjoint

theorem Ends.elapses {solos : List (Solo (ρ × Session))} (h : Ends t solos e)
    (ht : s.Elapses t) : Ends s solos e where
  agree := h.agree
  others hm hnone := (h.others (ht.scopes_eq ▸ hm) hnone).trans (ht.store_eq _)
  latest := h.latest
  shows := by
    obtain ⟨parts, whole, hwhole, hrest⟩ := h.shows
    refine ⟨parts, whole, ?_, hrest⟩
    rw [Session.Shows, ← ht.view_eq]
    exact hwhole

end Elapses

/-! ## All branches -/

/-- **Whatever branches that are apart come to, in whatever order they go on, there are runs alone
that come to it.** -/
theorem Apart.of_runs {g g' : Gathering ρ} {results : List ρ} {xs : List (Solo (Course ρ))}
    (hruns : g.Runs g') (hresults : g'.branches = results.map .done)
    (halike : List.Forall₂ (fun p x => p.Alike x.pairing x.ahead) g.branches xs)
    (h : Apart g.session xs) :
    ∃ ys, List.Forall₂ Solo.Comes xs ys ∧ ys.map (·.ahead.1) = results ∧
      Ends g.session ys g'.session := by
  -- on the first step, since the branches that are left are alike under larger pairings
  induction hruns using Relation.ReflTransGen.head_induction_on generalizing xs with
  | refl =>
    rw [hresults] at halike
    obtain ⟨ys, hys, hends, hended⟩ := Solo.exists_comes
      (Course.map_eq_of_alike_done (halike.imp fun _ x hx => ⟨x.pairing, hx⟩))
    exact ⟨ys, hys, hends, (h.comes hys).ends hended⟩
  | head hstep _ ih =>
    cases hstep with
    | @runs branches arrivals s t i p q hi hweaves =>
      obtain ⟨x, hx, hpx⟩ := exists_of_forall₂ halike hi
      obtain ⟨R, marks, c, hc, hq, htandem⟩ := hpx.follows (h.agree hx) (h.clock hx) hweaves
      have hlater : s.clock ≤ t.clock := (Woven.single hweaves).clock_le
      obtain ⟨ys, hys, hends, hended⟩ := ih (forall₂_set (b := ⟨R, c.2, c.1⟩) halike i hq)
        (h.goes hx htandem hlater c.1)
      obtain ⟨zs, e, hzs, hz, rfl⟩ := Solo.comes_of_set hx hc hys
      refine ⟨zs, hzs, ?_, hended.goes (x := ⟨x.pairing, x.session, e⟩) hz htandem⟩
      rwa [Solo.map_ahead_set hz] at hends
    | passes time first =>
      obtain ⟨ys, hys, hends, hended⟩ := ih halike (h.elapses (.advance _ time first))
      exact ⟨ys, hys, hends, hended.elapses (.advance _ time first)⟩
    | arrives hended hnew => exact ih halike h

end Scenario
