import Mathlib.Data.List.Nodup
import Scenario.Proofs.Session.Sequel

/-!
# Branches that are collected as they end

A fork goes on when all of its branches have ended, and is given their results in the order of the
branches.  A program that starts branches does not get results like that: it waits for whichever
branch ends next, makes a note of what came and which branch it came from, and waits again until no
branch is left.  In which order they come depends on the branches, on the time they take and on who
asks first.  Here this loop is a relation of its own, and a fork is the loop in every order there
is.

## What is here

* `Gathering` and `Gathering.Goes` — branches, what was collected of them, and one thing that can
  happen: a branch goes on, time passes, or a branch that has ended is collected.  The loop is over
  when all branches were collected (`Gathering.Complete`).
* `Gathering.Sound` — what holds all the time: each branch is on its own course, and what was
  collected is what branches ended with, each of them once.  One step keeps it (`Sound.goes`), hence
  so do all (`Gathering.sound_of_runs`), and at the end all results were collected, no matter what
  they are (`Sound.exists_results`).
* `Gathering.exists_complete` — the loop can always go on to its end.
* `Gathering.Runs.reorder` — what was collected in one order can be collected in any other.
* `Woven.fork_iff` — a fork runs in a way just if the loop does.
-/

set_option autoImplicit false

namespace Scenario

variable {ρ : Type}

/-- Branches side by side, and the results of those that were collected with their indexes, in the
order in which they came. -/
structure Gathering (ρ : Type) where
  branches : List (Course ρ)
  arrivals : List (ρ × Nat)
  session : Session

namespace Gathering

/-- Branches of which none was collected. -/
def start (branches : List (Course ρ)) (s : Session) : Gathering ρ := ⟨branches, [], s⟩

/-- One thing that can happen while branches are collected. -/
inductive Goes : Gathering ρ → Gathering ρ → Prop where
  | runs {branches : List (Course ρ)} {arrivals : List (ρ × Nat)} {s t : Session} {i : Nat}
    {p q : Course ρ} (hi : branches[i]? = some p) (h : Weaves (p, s) (q, t)) :
    Goes ⟨branches, arrivals, s⟩ ⟨branches.set i q, arrivals, t⟩
  | passes {branches : List (Course ρ)} {arrivals : List (ρ × Nat)} {s : Session} (time : Nat)
    (first : Delivery → Bool) :
    Goes ⟨branches, arrivals, s⟩ ⟨branches, arrivals, s.advance time first⟩
  /-- A branch that has ended and was not collected yet is collected. -/
  | arrives {branches : List (Course ρ)} {arrivals : List (ρ × Nat)} {s : Session} {r : ρ} {i : Nat}
    (hended : branches[i]? = some (.done r)) (hnew : i ∉ arrivals.map Prod.snd) :
    Goes ⟨branches, arrivals, s⟩ ⟨branches, arrivals ++ [(r, i)], s⟩

/-- What branches that are collected can come to. -/
abbrev Runs : Gathering ρ → Gathering ρ → Prop := Relation.ReflTransGen Goes

/-- Whether all branches were collected. -/
def Complete (g : Gathering ρ) : Prop := ∀ i < g.branches.length, i ∈ g.arrivals.map Prod.snd

end Gathering

/-! ## What holds all the time -/

theorem Course.Does.snoc {p q q' : Course ρ} {taken : List Taken} {t : Option Taken}
    (h : p.Does taken q) (hlast : q.Goes t q') : p.Does (taken ++ t.toList) q' := by
  induction h with
  | refl p =>
    have h := Does.step hlast (.refl q')
    rwa [List.append_nil] at h
  | step hfirst _ ih =>
    rw [List.append_assoc]
    exact .step hfirst (ih hlast)

theorem Weaves.exists_does {p q : Course ρ} {s t : Session} (h : Weaves (p, s) (q, t))
    {start : Course ρ} (hp : ∃ taken, start.Does taken p) : ∃ taken, start.Does taken q := by
  obtain ⟨taken, hp⟩ := hp
  cases h with
  | goes h => exact ⟨_, hp.snoc h⟩
  | idles h => exact ⟨_, hp.snoc h⟩
  | passes => exact ⟨taken, hp⟩

/-- Courses that all have ended have results. -/
theorem exists_map_done {branches : List (Course ρ)} (h : ∀ p ∈ branches, ∃ r, p = .done r) :
    ∃ results : List ρ, branches = results.map .done := by
  induction branches with
  | nil => exact ⟨[], rfl⟩
  | cons p rest ih =>
    obtain ⟨⟨r, rfl⟩, hrest⟩ := List.forall_mem_cons.1 h
    obtain ⟨results, rfl⟩ := ih hrest
    exact ⟨r :: results, rfl⟩

theorem nodup_zipIdx {α : Type} (l : List α) : (l.zipIdx.map Prod.snd).Nodup := by
  rw [List.zipIdx_map_snd]
  exact List.nodup_range'

namespace Gathering

/-- What holds of branches while they are collected. -/
structure Sound (branches : List (Course ρ)) (g : Gathering ρ) : Prop where
  length : g.branches.length = branches.length
  /-- Each branch goes its own way. -/
  courses : ∀ {i : Nat} {p q : Course ρ}, branches[i]? = some p → g.branches[i]? = some q →
    ∃ taken, p.Does taken q
  /-- No branch is collected twice. -/
  once : (g.arrivals.map Prod.snd).Nodup
  /-- What was collected is what a branch ended with. -/
  ended : ∀ {r : ρ} {i : Nat}, (r, i) ∈ g.arrivals → g.branches[i]? = some (.done r)

namespace Sound

variable {branches : List (Course ρ)} {g g' : Gathering ρ}

theorem start (branches : List (Course ρ)) (s : Session) :
    Sound branches (Gathering.start branches s) where
  length := rfl
  courses {i p q} hp hq := by
    cases hp.symm.trans hq
    exact ⟨[], .refl p⟩
  once := List.nodup_nil
  ended := nofun

/-- **One step keeps it.**  What was collected stays what a branch ended with, since a course that
has ended goes nowhere. -/
theorem goes (h : Sound branches g) (hstep : Goes g g') : Sound branches g' := by
  cases hstep with
  | @runs gathered arrivals s t i p q hi hstep =>
    have hlt : i < gathered.length := (List.getElem?_eq_some_iff.1 hi).1
    refine ⟨?_, fun {j p₀ q'} hp₀ hq' => ?_, h.once, fun {r j} hr => ?_⟩
    · exact List.length_set.trans h.length
    · by_cases hij : i = j
      · subst hij
        rw [List.getElem?_set_self hlt] at hq'
        cases hq'
        exact hstep.exists_does (h.courses hp₀ hi)
      · rw [List.getElem?_set_ne hij] at hq'
        exact h.courses hp₀ hq'
    · by_cases hij : i = j
      · subst hij
        obtain rfl : p = .done r := Option.some.inj (hi.symm.trans (h.ended hr))
        obtain ⟨u, heq, -⟩ := hstep.of_done
        obtain rfl : q = .done r := congrArg Prod.fst heq
        exact List.getElem?_set_self hlt
      · rw [List.getElem?_set_ne hij]
        exact h.ended hr
  | passes => exact ⟨h.length, h.courses, h.once, h.ended⟩
  | @arrives gathered arrivals s r i hdone hnew =>
    refine ⟨h.length, h.courses, ?_, fun {r' j} hr => ?_⟩
    · rw [List.map_append]
      refine List.nodup_append.2 ⟨h.once, by simp, fun j hj k hk hjk => hnew ?_⟩
      obtain rfl : k = i := List.mem_singleton.1 hk
      exact hjk ▸ hj
    · rcases List.mem_append.1 hr with hr | hr
      · exact h.ended hr
      · cases List.mem_singleton.1 hr
        exact hdone

/-- **In the end all results were collected**, each with the index of its branch. -/
theorem exists_results (h : Sound branches g) (hcomplete : g.Complete) :
    ∃ results : List ρ, results.length = branches.length ∧ g.branches = results.map .done ∧
      g.arrivals.Perm results.zipIdx := by
  have harrived : ∀ {i}, i < g.branches.length → ∃ r, (r, i) ∈ g.arrivals := fun hi => by
    obtain ⟨⟨r, i⟩, hr, rfl⟩ := List.mem_map.1 (hcomplete _ hi)
    exact ⟨r, hr⟩
  have hdone : ∀ p ∈ g.branches, ∃ r, p = .done r := fun p hp => by
    obtain ⟨i, hi, rfl⟩ := List.mem_iff_getElem.1 hp
    obtain ⟨r, hr⟩ := harrived hi
    exact ⟨r, (List.getElem?_eq_some_iff.1 (h.ended hr)).2⟩
  obtain ⟨results, hresults⟩ := exists_map_done hdone
  have hat : ∀ {r : ρ} {i : Nat}, g.branches[i]? = some (.done r) ↔ results[i]? = some r := by
    intro r i
    rw [hresults, List.getElem?_map, Option.map_eq_some_iff]
    simp
  have hlength : results.length = branches.length := by
    rw [← h.length, hresults, List.length_map]
  refine ⟨results, hlength, hresults, (List.perm_ext_iff_of_nodup (List.Nodup.of_map _ h.once)
    (List.Nodup.of_map _ (nodup_zipIdx results))).2 fun ⟨r, i⟩ => ?_⟩
  rw [List.mem_zipIdx_iff_getElem?, ← hat]
  constructor
  · exact h.ended
  · intro hdone
    obtain ⟨r', hr'⟩ := harrived (List.getElem?_eq_some_iff.1 hdone).1
    obtain rfl : r' = r := by simpa using (h.ended hr').symm.trans hdone
    exact hr'

end Sound

theorem sound_of_runs {branches : List (Course ρ)} {s : Session} {g : Gathering ρ}
    (h : Runs (start branches s) g) : Sound branches g := by
  induction h with
  | refl => exact .start branches s
  | tail _ hlast ih => exact ih.goes hlast

/-! ## Collecting -/

/-- Branches that have ended can be collected in any order. -/
theorem runs_arrivals {branches : List (Course ρ)} (s : Session) (arrived pending : List (ρ × Nat))
    (hended : ∀ {r i}, (r, i) ∈ pending → branches[i]? = some (.done r))
    (honce : ((arrived ++ pending).map Prod.snd).Nodup) :
    Runs ⟨branches, arrived, s⟩ ⟨branches, arrived ++ pending, s⟩ := by
  induction pending generalizing arrived with
  | nil => rw [List.append_nil]
  | cons a rest ih =>
    have hnew : a.2 ∉ arrived.map Prod.snd := fun hmem => by
      rw [List.map_append] at honce
      exact (List.nodup_append.1 honce).2.2 _ hmem _ List.mem_cons_self rfl
    rw [List.append_cons] at honce
    rw [List.append_cons]
    exact .head (.arrives (hended List.mem_cons_self) hnew)
      (ih (arrived ++ [a]) (fun hr => hended (List.mem_cons_of_mem _ hr)) honce)

/-- A branch goes on among others. -/
theorem Goes.of_weaves {a b : Course ρ × Session} (h : Weaves a b) (before after : List (Course ρ))
    (arrivals : List (ρ × Nat)) :
    Goes ⟨before ++ a.1 :: after, arrivals, a.2⟩ ⟨before ++ b.1 :: after, arrivals, b.2⟩ := by
  have hat : (before ++ a.1 :: after)[before.length]? = some a.1 := by
    rw [List.getElem?_append_right (Nat.le_refl _), Nat.sub_self, List.getElem?_cons_zero]
  have hset : (before ++ a.1 :: after).set before.length b.1 = before ++ b.1 :: after := by
    rw [List.set_append_right _ _ (Nat.le_refl _), Nat.sub_self, List.set_cons_zero]
  rw [← hset]
  exact .runs hat h

namespace Runs

variable {g g' : Gathering ρ}

/-- What the branches do does not depend on what is collected. -/
theorem aside (h : Runs g g') (arrivals : List (ρ × Nat)) :
    Runs ⟨g.branches, arrivals, g.session⟩ ⟨g'.branches, arrivals, g'.session⟩ := by
  induction h with
  | refl => exact .refl
  | tail _ hlast ih =>
    cases hlast with
    | runs hi hstep => exact ih.tail (.runs hi hstep)
    | passes time first => exact ih.tail (.passes time first)
    | arrives => exact ih

/-- **Results can come in any order**: what the branches do is the same. -/
theorem reorder {branches : List (Course ρ)} {s : Session} {results : List ρ}
    (h : Runs (start branches s) g) (hresults : g.branches = results.map .done)
    {order : List (ρ × Nat)} (horder : order.Perm results.zipIdx) :
    Runs (start branches s) ⟨g.branches, order, g.session⟩ := by
  refine (h.aside []).trans (runs_arrivals g.session [] order (fun {r i} hr => ?_) ?_)
  · have hat := List.mem_zipIdx_iff_getElem?.1 (horder.mem_iff.1 hr)
    rw [hresults, List.getElem?_map, hat]
    rfl
  · exact (horder.map Prod.snd).nodup_iff.2 (nodup_zipIdx results)

/-- A branch runs among others. -/
theorem of_woven {a b : Course ρ × Session} (h : Woven a b) (before after : List (Course ρ))
    (arrivals : List (ρ × Nat)) :
    Runs ⟨before ++ a.1 :: after, arrivals, a.2⟩ ⟨before ++ b.1 :: after, arrivals, b.2⟩ := by
  induction h with
  | refl => exact .refl
  | tail _ hlast ih => exact ih.tail (.of_weaves hlast before after arrivals)

theorem of_elapses {branches : List (Course ρ)} {arrivals : List (ρ × Nat)} {s t : Session}
    (h : s.Elapses t) : Runs ⟨branches, arrivals, s⟩ ⟨branches, arrivals, t⟩ := by
  induction h with
  | refl => exact .refl
  | tail _ hlast ih =>
    obtain ⟨time, first, rfl⟩ := hlast
    exact ih.tail (.passes time first)

end Runs

/-- Branches can all go on to their ends. -/
theorem exists_ended (before branches : List (Course ρ)) (arrivals : List (ρ × Nat)) (s : Session) :
    ∃ (results : List ρ) (t : Session),
      Runs ⟨before ++ branches, arrivals, s⟩ ⟨before ++ results.map .done, arrivals, t⟩ := by
  induction branches generalizing before s with
  | nil => exact ⟨[], s, .refl⟩
  | cons p rest ih =>
    have hfirst := Runs.of_woven (s.woven_run p) before rest arrivals
    obtain ⟨results, t, hrest⟩ := ih (before ++ [.done (s.run p).1]) (s.run p).2
    rw [List.append_assoc, List.append_assoc] at hrest
    exact ⟨(s.run p).1 :: results, t, hfirst.trans hrest⟩

/-- **The loop can always go on to its end**, whatever has been collected already. -/
theorem exists_complete {branches : List (Course ρ)} {s : Session} {g : Gathering ρ}
    (h : Runs (start branches s) g) : ∃ g', Runs g g' ∧ g'.Complete := by
  obtain ⟨results, t, hended⟩ := exists_ended [] g.branches g.arrivals g.session
  let pending := results.zipIdx.filter fun a => a.2 ∉ g.arrivals.map Prod.snd
  have hmem : ∀ {r i}, (r, i) ∈ pending ↔ results[i]? = some r ∧ i ∉ g.arrivals.map Prod.snd := by
    intro r i
    rw [List.mem_filter, List.mem_zipIdx_iff_getElem?, decide_eq_true_iff]
  have hcollected : Runs (⟨results.map .done, g.arrivals, t⟩ : Gathering ρ)
      ⟨results.map .done, g.arrivals ++ pending, t⟩ := by
    refine runs_arrivals t g.arrivals pending (fun {r i} hr => ?_) ?_
    · rw [List.getElem?_map, (hmem.1 hr).1]
      rfl
    · have hpending : (pending.map Prod.snd).Nodup :=
        (nodup_zipIdx results).sublist (List.filter_sublist.map Prod.snd)
      rw [List.map_append]
      refine List.nodup_append.2 ⟨(sound_of_runs h).once, hpending, fun i hi j hj hij => ?_⟩
      obtain ⟨⟨r, k⟩, hr, rfl⟩ := List.mem_map.1 hj
      obtain rfl : i = k := hij
      exact (hmem.1 hr).2 hi
  refine ⟨_, Relation.ReflTransGen.trans hended hcollected, fun i hi => ?_⟩
  rw [List.length_map] at hi
  rw [List.map_append, List.mem_append]
  by_cases harrived : i ∈ g.arrivals.map Prod.snd
  · exact .inl harrived
  · have hpending : (results[i], i) ∈ pending :=
      hmem.2 ⟨List.getElem?_eq_getElem hi, harrived⟩
    exact .inr (List.mem_map.2 ⟨_, hpending, rfl⟩)

end Gathering

/-! ## A fork is the loop -/

open Gathering

/-- A fork lets a branch go on or time pass, or is joined when all branches have ended. -/
theorem Weaves.of_fork {branches : List (Course ρ)} {join : List ρ → Course ρ} {s : Session}
    {b : Course ρ × Session} (h : Weaves (.fork branches join, s) b) :
    (∃ branches' t, b = (.fork branches' join, t) ∧
      Goes ⟨branches, [], s⟩ ⟨branches', [], t⟩) ∨
    ∃ results : List ρ, branches = results.map .done ∧ b = (join results, s) := by
  cases h with
  | goes h =>
    cases h with
    | branch h => exact .inl ⟨_, _, rfl, .of_weaves (.goes h) _ _ _⟩
  | idles h =>
    cases h with
    | branch h => exact .inl ⟨_, _, rfl, .of_weaves (.idles h) _ _ _⟩
    | join => exact .inr ⟨_, rfl, rfl⟩
  | passes time first => exact .inl ⟨_, _, rfl, .passes time first⟩

/-- What a branch can come to it can come to in a fork. -/
theorem Woven.fork_set {branches : List (Course ρ)} {join : List ρ → Course ρ} {i : Nat}
    {p : Course ρ} {s : Session} {b : Course ρ × Session} (hi : branches[i]? = some p)
    (h : Woven (p, s) b) :
    Woven (.fork branches join, s) (.fork (branches.set i b.1) join, b.2) := by
  obtain ⟨hlt, rfl⟩ := List.getElem?_eq_some_iff.1 hi
  obtain ⟨before, after, hbranches, -, hset⟩ : ∃ before after,
      branches = before ++ branches[i] :: after ∧ before.length = i ∧
        branches.set i b.1 = before ++ b.1 :: after := List.exists_of_set hlt
  have hbranch := h.branch before after join
  rw [← hbranches] at hbranch
  rw [hset]
  exact hbranch

/-- What branches do while they are collected they do in a fork. -/
theorem Gathering.Runs.woven {g g' : Gathering ρ} (h : Runs g g') (join : List ρ → Course ρ) :
    Woven (.fork g.branches join, g.session) (.fork g'.branches join, g'.session) := by
  induction h with
  | refl => exact .refl
  | tail _ hlast ih =>
    cases hlast with
    | runs hi hstep => exact ih.trans (Woven.fork_set hi (.single hstep))
    | passes time first => exact ih.tail (.passes time first)
    | arrives => exact ih

/-- **A fork is the loop that collects its branches**, in any order: it comes to an end just where
the loop can be over, and goes on from there with the results in the order of the branches. -/
theorem Woven.fork_iff {branches : List (Course ρ)} {join : List ρ → Course ρ} {s s' : Session}
    {r : ρ} :
    Woven (.fork branches join, s) (.done r, s') ↔
      ∃ (results : List ρ) (g : Gathering ρ), Runs (start branches s) g ∧ g.Complete ∧
        results.length = branches.length ∧ g.branches = results.map .done ∧
        g.arrivals.Perm results.zipIdx ∧ Woven (join results, g.session) (.done r, s') := by
  constructor
  · intro h
    have hinv : ∀ b, Woven (.fork branches join, s) b →
        (∃ branches' t, b = (.fork branches' join, t) ∧
          Runs (start branches s) ⟨branches', [], t⟩) ∨
        ∃ (results : List ρ) (t : Session), Runs (start branches s) ⟨results.map .done, [], t⟩ ∧
          Woven (join results, t) b := by
      intro b hb
      induction hb with
      | refl => exact .inl ⟨branches, s, rfl, .refl⟩
      | tail _ hlast ih =>
        obtain ⟨branches', t, rfl, hruns⟩ | ⟨results, t, hruns, hnext⟩ := ih
        · obtain ⟨branches'', u, rfl, hmore⟩ | ⟨results, rfl, rfl⟩ := hlast.of_fork
          · exact .inl ⟨branches'', u, rfl, hruns.tail hmore⟩
          · exact .inr ⟨results, t, hruns, .refl⟩
        · exact .inr ⟨results, t, hruns, hnext.tail hlast⟩
    obtain ⟨branches', t, heq, -⟩ | ⟨results, t, hruns, hnext⟩ := hinv _ h
    · cases heq
    · have hlength := (sound_of_runs hruns).length
      rw [List.length_map] at hlength
      refine ⟨results, ⟨results.map .done, results.zipIdx, t⟩, hruns.reorder rfl (.refl _),
        fun i hi => ?_, hlength, rfl, .refl _, hnext⟩
      rw [List.length_map] at hi
      rw [List.zipIdx_map_snd]
      exact List.mem_range'_1.2 ⟨Nat.zero_le i, by omega⟩
  · rintro ⟨results, g, hruns, -, -, hresults, -, hnext⟩
    have hfork := hruns.woven join
    rw [hresults] at hfork
    exact hfork.trans (.head (.idles .join) hnext)

end Scenario
