import Mathlib.Data.List.Sort
import Scenario.Proofs.Action.Independence
import Scenario.Proofs.Action.Log
import Scenario.Proofs.Session.Gathering

/-!
# The failures of actions side by side

A container of actions that run side by side is defined by what came of its branches in the order of
the branches.  Whoever runs them joins them as they come, keeps the failures in this order, passes
over what succeeded, and only sorts the failures at the very end.  This file says that both are the
same, so that the failure of the container does not tell which branch was faster.  It says so for
branches that end, and as well for branches that are broken off, which count as failures of their
own kind.

## What is here

* `failureOf?`, `failuresOf` and `gather` — the failures in the order in which they came, and what
  the container makes of them at the end.
* `gather_eq_joinBranches` — in whatever order all branches were joined, it is `joinBranches` of
  them.  Sorting takes any order of the failures to theirs, since no two of them have the same
  index.
* `Aggregates` — what is to be said of the outcome of a container: it succeeds just if all branches
  do, and lists just those that fail or are broken off.
* `woven_parallel_iff` — a container is the loop of `Gathering`.
* `gathers_parallel` — all of it: every branch runs to its end, whatever became of the others, and
  every order in which they can be collected comes to the same.
-/

set_option autoImplicit false

namespace Scenario

open Gathering

/-! ## What came, and what is made of it -/

/-- The failure that came, if it is one, with the index and the name of its branch. -/
def failureOf? (names : List String) (arrival : Joined × Nat) : Option (Nat × String × Failure) :=
  match arrival.1.outcome with
  | .ok _ => none
  | .error f => some (arrival.2, names.getD arrival.2 "", f)

/-- The failures among what came of branches with some names, in the order in which they came. -/
def failuresOf (names : List String) (arrivals : List (Joined × Nat)) :
    List (Nat × String × Failure) :=
  arrivals.filterMap (failureOf? names)

/-- The outcome of branches with some names after all of them came. -/
def gather (names : List String) (arrivals : List (Joined × Nat)) : Outcome :=
  match failuresOf names arrivals with
  | [] => .ok ()
  | failures => .error (.parallel names.length (failures.mergeSort fun x y => x.1 ≤ y.1))

/-- Where the branches come in their own order, so do the failures. -/
theorem failuresOf_zipIdx (before names : List String) {joined : List Joined}
    (hlength : names.length = joined.length) :
    failuresOf (before ++ names) (joined.zipIdx before.length) =
      branchFailures before.length names (joined.map Joined.outcome) := by
  induction names generalizing before joined with
  | nil =>
    obtain rfl := List.length_eq_zero_iff.1 hlength.symm
    rfl
  | cons name names ih =>
    cases joined with
    | nil => cases hlength
    | cons first joined =>
      have hrest := ih (before ++ [name]) (Nat.succ.inj hlength)
      rw [List.length_append, List.length_singleton, List.append_assoc] at hrest
      rw [List.zipIdx_cons, List.map_cons]
      cases houtcome : first.outcome with
      | ok _ =>
        have hfirst : failureOf? (before ++ name :: names) (first, before.length) = none := by
          rw [failureOf?, houtcome]
        rw [failuresOf, List.filterMap_cons_none hfirst, branchFailures]
        exact hrest
      | error f =>
        have hname : (before ++ name :: names).getD before.length "" = name := by simp
        have hfirst : failureOf? (before ++ name :: names) (first, before.length) =
            some (before.length, name, f) := by
          rw [failureOf?, houtcome, hname]
        rw [failuresOf, List.filterMap_cons_some hfirst, branchFailures]
        exact congrArg _ hrest

/-- Failures with different indexes are sorted in one way only. -/
theorem mergeSort_eq_of_perm {failures came : List (Nat × String × Failure)}
    (hascending : failures.Pairwise fun x y => x.1 < y.1) (hperm : came.Perm failures) :
    came.mergeSort (fun x y => x.1 ≤ y.1) = failures := by
  have hsorted : (came.mergeSort fun x y => x.1 ≤ y.1).Pairwise fun x y => x.1 ≤ y.1 := by
    have h : (came.mergeSort fun x y => x.1 ≤ y.1).Pairwise fun x y => decide (x.1 ≤ y.1) = true :=
      List.pairwise_mergeSort
        (fun x y z hxy hyz => by simp only [decide_eq_true_eq] at *; omega)
        (fun x y => by simp only [Bool.or_eq_true, decide_eq_true_eq]; omega) came
    exact h.imp of_decide_eq_true
  have hsame : (came.mergeSort fun x y => x.1 ≤ y.1).Perm failures :=
    (List.mergeSort_perm ..).trans hperm
  have hindexes : (failures.map Prod.fst).Nodup :=
    List.pairwise_map.2 (hascending.imp Nat.ne_of_lt)
  refine hsame.eq_of_pairwise (fun x y hx hy hxy hyx => ?_) hsorted (hascending.imp Nat.le_of_lt)
  exact List.inj_on_of_nodup_map hindexes (hsame.mem_iff.1 hx) hy (Nat.le_antisymm hxy hyx)

/-- **The order in which branches are joined does not matter.** -/
theorem gather_eq_joinBranches {actions : List Action} {joined : List Joined}
    {arrivals : List (Joined × Nat)} (hlength : joined.length = actions.length)
    (h : arrivals.Perm joined.zipIdx) :
    gather (actions.map Action.name) arrivals =
      joinBranches (actions.map Action.name) joined := by
  generalize hnames : actions.map Action.name = names
  have hall : names.length = joined.length := by rw [← hnames, List.length_map, hlength]
  rw [gather, joinBranches, joinOutcomes]
  generalize houtcomes : joined.map Joined.outcome = outcomes
  have hperm : (failuresOf names arrivals).Perm (branchFailures 0 names outcomes) :=
    houtcomes ▸ failuresOf_zipIdx [] names hall ▸ h.filterMap (failureOf? names)
  cases hcame : failuresOf names arrivals with
  | nil =>
    rw [hcame] at hperm
    rw [hperm.nil_eq.symm]
  | cons first rest =>
    rw [hcame] at hperm
    simp only [mergeSort_eq_of_perm (pairwise_branchFailures 0 names outcomes) hperm]
    cases hfailures : branchFailures 0 names outcomes with
    | nil =>
      rw [hfailures] at hperm
      cases hperm.eq_nil
    | cons => rfl

/-- Whether a branch failed with some failure, which is its own if it ended and says so if it was
broken off. -/
inductive Joined.FailedWith : Joined → Failure → Prop where
  | ended (f : Failure) : FailedWith (.ended (.error f)) f
  | broken (reason : String) :
    FailedWith (.broken reason) (.internal s!"branch task failed: {reason}")

theorem Joined.failedWith_iff {j : Joined} {f : Failure} :
    j.FailedWith f ↔ j.outcome = .error f := by
  constructor
  · rintro (_ | _) <;> rfl
  · intro h
    cases j with
    | ended outcome =>
      obtain rfl : outcome = .error f := h
      exact .ended f
    | broken reason =>
      cases h
      exact .broken reason

theorem Joined.outcome_eq_ok_iff {j : Joined} : j.outcome = .ok () ↔ j = .ended (.ok ()) := by
  cases j with
  | ended _ => rw [Joined.outcome, ended.injEq]
  | broken reason => exact iff_of_false nofun nofun

/-- What is to be said of the outcome of actions side by side, given what came of all. -/
structure Aggregates (actions : List Action) (joined : List Joined) (whole : Outcome) :
    Prop where
  succeeds : whole = .ok () ↔ ∀ j ∈ joined, j = .ended (.ok ())
  /-- Just the branches that failed are listed, each with its name and its own failure, and in their
  own order. -/
  fails : ∀ f, whole = .error f → ∃ failures, f = .parallel actions.length failures ∧
    (failures.Pairwise fun x y => x.1 < y.1) ∧ ∀ i name g, (i, name, g) ∈ failures ↔
      ∃ a j, actions[i]? = some a ∧ a.name = name ∧ joined[i]? = some j ∧ j.FailedWith g

theorem aggregates_joinBranches {actions : List Action} {joined : List Joined}
    (hlength : joined.length = actions.length) :
    Aggregates actions joined (joinBranches (actions.map Action.name) joined) where
  succeeds := by
    rw [joinBranches, joinOutcomes_eq_ok_iff (by rw [List.length_map, List.length_map, hlength]),
      List.forall_mem_map]
    exact forall₂_congr fun j _ => j.outcome_eq_ok_iff
  fails f hf := by
    refine ⟨_, ?_, pairwise_branchFailures 0 (actions.map Action.name) (joined.map Joined.outcome),
      fun i name g => ?_⟩
    · rw [joinOutcomes_eq_error hf, List.length_map]
    · rw [mem_branchFailures]
      constructor
      · rintro ⟨k, hk, hname, houtcome⟩
        obtain rfl : i = k := hk.trans (Nat.zero_add k)
        rw [List.getElem?_map] at hname houtcome
        obtain ⟨a, ha, hname⟩ := Option.map_eq_some_iff.1 hname
        obtain ⟨j, hj, houtcome⟩ := Option.map_eq_some_iff.1 houtcome
        exact ⟨a, j, ha, hname, hj, Joined.failedWith_iff.2 houtcome⟩
      · rintro ⟨a, j, ha, rfl, hj, hfailed⟩
        refine ⟨i, (Nat.zero_add i).symm, by rw [List.getElem?_map, ha]; rfl, ?_⟩
        rw [List.getElem?_map, hj, Option.map_some, Joined.failedWith_iff.1 hfailed]

/-! ## The branches of a container -/

/-- Every branch gets a context. -/
theorem Context.length_of_deriveMany {ctx : Context} {sharing : Sharing} {n : Nat} {s t : Session}
    {contexts : List Context}
    (h : Woven (.ofScript (ctx.deriveMany sharing n), s) (.done contexts, t)) :
    contexts.length = n := by
  have hsilent := Course.Tells.ofScript (ctx.silent_deriveMany sharing n)
  obtain ⟨-, -, -, -, hlength, -⟩ := hsilent.woven h
  exact hlength

/-- What comes of branches that are collected. -/
structure Collects (branches : List (Course Outcome)) (s : Session) (g : Gathering Outcome) :
    Prop where
  /-- Whatever has come already, all others can come too. -/
  goesOn : ∃ g', Runs g g' ∧ g'.Complete
  /-- When all have come, each of them has run to its end and came once, and they could have come in
  any other order. -/
  ends : g.Complete → ∃ outcomes : List Outcome, outcomes.length = branches.length ∧
    (∀ (i : Nat) (p : Course Outcome) (outcome : Outcome), branches[i]? = some p →
      outcomes[i]? = some outcome → ∃ taken, p.Does taken (.done outcome)) ∧
    g.arrivals.Perm outcomes.zipIdx ∧
    ∀ order, order.Perm outcomes.zipIdx → Runs (start branches s) ⟨g.branches, order, g.session⟩

theorem collects_of_runs {branches : List (Course Outcome)} {s : Session} {g : Gathering Outcome}
    (h : Runs (start branches s) g) : Collects branches s g where
  goesOn := exists_complete h
  ends hcomplete := by
    have hsound := sound_of_runs h
    obtain ⟨outcomes, hlength, hended, harrivals⟩ := hsound.exists_results hcomplete
    refine ⟨outcomes, hlength, fun i p outcome hp houtcome => hsound.courses hp ?_, harrivals,
      fun order horder => h.reorder hended horder⟩
    rw [hended, List.getElem?_map, houtcome]
    rfl

/-- The outcomes that branches ended with, with their indexes, as branches that are joined. -/
def joinedArrivals (arrivals : List (Outcome × Nat)) : List (Joined × Nat) :=
  arrivals.map (Prod.map .ended id)

theorem joinedArrivals_perm {arrivals : List (Outcome × Nat)} {outcomes : List Outcome}
    (h : arrivals.Perm outcomes.zipIdx) :
    (joinedArrivals arrivals).Perm (outcomes.map Joined.ended).zipIdx := by
  rw [List.zipIdx_map]
  exact h.map _

section Container

variable {call : Caller} {ctx : Context} {name : String} {sharing : Sharing} {actions : List Action}
  {s : Session}

theorem length_branches {contexts : List Context} {opened : Session}
    (h : Woven (.ofScript (ctx.deriveMany sharing actions.length), s) (.done contexts, opened)) :
    (executeEach call contexts actions).length = actions.length :=
  length_executeEach call actions (Context.length_of_deriveMany h)

/-- **A container is the loop that collects its branches**, and its outcome is what the loop makes
of what came. -/
theorem woven_parallel_iff {whole : Outcome} {ended : Session} :
    Woven ((Action.parallel name sharing actions).execute call ctx, s) (.done whole, ended) ↔
      ∃ contexts opened g,
        Woven (.ofScript (ctx.deriveMany sharing actions.length), s) (.done contexts, opened) ∧
        Runs (start (executeEach call contexts actions) opened) g ∧ g.Complete ∧
        gather (actions.map Action.name) (joinedArrivals g.arrivals) = whole ∧
        g.session = ended := by
  rw [Action.execute, Woven.after_iff]
  constructor
  · rintro ⟨contexts, opened, hopens, hfork⟩
    obtain ⟨outcomes, g, hruns, hcomplete, hlength, -, harrivals, hjoin⟩ := Woven.fork_iff.1 hfork
    obtain ⟨rfl, helapses⟩ := Woven.done_iff.1 hjoin
    have hjoined := (List.length_map (f := Joined.ended)).trans hlength
    exact ⟨contexts, opened, ⟨g.branches, g.arrivals, ended⟩, hopens,
      hruns.trans (Runs.of_elapses helapses), hcomplete,
      gather_eq_joinBranches (hjoined.trans (length_branches hopens))
        (joinedArrivals_perm harrivals), rfl⟩
  · rintro ⟨contexts, opened, g, hopens, hruns, hcomplete, rfl, rfl⟩
    obtain ⟨outcomes, hlength, hended, harrivals⟩ := (sound_of_runs hruns).exists_results hcomplete
    refine ⟨contexts, opened, hopens, Woven.fork_iff.2 ⟨outcomes, g, hruns, hcomplete, hlength,
      hended, harrivals, Woven.done_iff.2 ⟨?_, .refl _⟩⟩⟩
    exact gather_eq_joinBranches
      ((List.length_map (f := Joined.ended)).trans (hlength.trans (length_branches hopens)))
      (joinedArrivals_perm harrivals)

end Container

/-- **The failure of a container does not depend on the order in which its branches end.**  Whatever
comes of the branches, each of which ends with an outcome or is broken off, and in whatever order
they come, the container succeeds just if all branches do, and otherwise its failure lists just
those that fail, in the order of the branches.  A container runs as the loop does that collects its
branches, and that goes on until all of them have run to their ends. -/
theorem gathers_parallel (call : Caller) (ctx : Context) (name : String) (sharing : Sharing)
    (actions : List Action) (s : Session) :
    let names := actions.map Action.name
    let Opens (contexts : List Context) (opened : Session) :=
      Woven (.ofScript (ctx.deriveMany sharing actions.length), s) (.done contexts, opened)
    (∀ joined : List Joined, joined.length = actions.length →
      ∀ order, order.Perm joined.zipIdx → Aggregates actions joined (gather names order) ∧
        ∀ other, other.Perm joined.zipIdx → gather names other = gather names order) ∧
    (∀ whole ended,
      Woven ((Action.parallel name sharing actions).execute call ctx, s) (.done whole, ended) ↔
        ∃ contexts opened g, Opens contexts opened ∧
          Runs (start (executeEach call contexts actions) opened) g ∧ g.Complete ∧
          gather names (joinedArrivals g.arrivals) = whole ∧ g.session = ended) ∧
    ∀ contexts opened, Opens contexts opened →
      (executeEach call contexts actions).length = actions.length ∧
      ∀ g, Runs (start (executeEach call contexts actions) opened) g →
        Collects (executeEach call contexts actions) opened g := by
  intro names Opens
  refine ⟨fun joined hlength order horder => ⟨?_, fun other hother => ?_⟩,
    fun whole ended => woven_parallel_iff,
    fun contexts opened hopens => ⟨length_branches hopens, fun g => collects_of_runs⟩⟩
  · rw [gather_eq_joinBranches hlength horder]
    exact aggregates_joinBranches hlength
  · rw [gather_eq_joinBranches hlength hother, gather_eq_joinBranches hlength horder]

/-- Of three actions the last one is broken off first, and the one that succeeds comes last. -/
theorem gathers_parallel_last_first :
    let ctx : Context := { scope := 0, library := Library.builtin, run := "r" }
    let s : Session := { scopes := [.empty] }
    let actions : List Action := [.fail "first", .echo "none", .fail "last"]
    let names := actions.map Action.name
    let joined : List Joined := [.ended (.error (.action "first")), .ended (.ok ()), .broken "lost"]
    let order : List (Joined × Nat) :=
      [(.broken "lost", 2), (.ended (.error (.action "first")), 0), (.ended (.ok ()), 1)]
    let run := s.run ((Action.parallel "all" .isolated actions).execute (Templates.invoke []) ctx)
    Aggregates actions joined (gather names order) ∧
      gather names order = .error (.parallel 3
        [(0, "fail", .action "first"), (2, "fail", .internal "branch task failed: lost")]) ∧
      ∃ contexts opened g,
        Runs (start (executeEach (Templates.invoke []) contexts actions) opened) g ∧ g.Complete ∧
          gather names (joinedArrivals g.arrivals) = run.1 := by
  intro ctx s actions names joined order run
  obtain ⟨hpure, hruns, -⟩ :=
    gathers_parallel (Templates.invoke []) ctx "all" .isolated actions s
  have horder : order.Perm joined.zipIdx :=
    (List.Perm.swap _ _ _).trans ((List.Perm.swap _ _ _).cons _)
  have hlength : joined.length = actions.length := rfl
  refine ⟨(hpure joined hlength order horder).1, gather_eq_joinBranches hlength horder, ?_⟩
  obtain ⟨contexts, opened, g, -, hg, hcomplete, hwhole, -⟩ := (hruns _ _).1 (s.woven_run _)
  exact ⟨contexts, opened, g, hg, hcomplete, hwhole⟩

end Scenario
