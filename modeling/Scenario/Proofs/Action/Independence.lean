import Scenario.Proofs.Action.Isolation
import Scenario.Proofs.Action.Renaming
import Scenario.Proofs.Session.AnyOrder

/-!
# Isolated branches are independent runs

Actions that run side by side on copies of the variables, and neither send nor receive, have
nothing in common but the clock and the place where they report.  So each of them does what it
would do if nothing ran beside it, and whatever nests inside, the whole takes as long as the
longest of them and not as long as all of them together.

How the scheduler runs a branch alone is known beforehand, and the branch does just that.  Of the
other orders in which branches can go on none is known beforehand, and what there is to say is that
each branch does what it does in some run alone.

## What is here

* `mem_branchFailures`, `joinOutcomes_eq_ok_iff` — what the outcomes of branches are put together
  to.
* `Templates.branch` — a branch alone, on a copy of the variables.
* `RunsIndependently` — what it means that actions that ran side by side did what runs of them alone
  did.
* `Session.Copied`, `Session.solos` — the copies that branches begin with, and their runs alone.
  `Session.Copied.apart` and `alike_onCopy` say that they are apart and alike to these, and
  `RunsIndependently.of_ends` what it means that they have ended.
* `runsIndependently_parallel` — isolated branches are independent runs.
-/

set_option autoImplicit false

namespace Scenario

/-! ## The outcomes of branches -/

/-- **The failures of branches** come with their indexes and names. -/
theorem mem_branchFailures {index : Nat} {names : List String} {outcomes : List Outcome} {i : Nat}
    {name : String} {f : Failure} :
    (i, name, f) ∈ branchFailures index names outcomes ↔
      ∃ j, i = index + j ∧ names[j]? = some name ∧ outcomes[j]? = some (.error f) := by
  induction names generalizing index outcomes with
  | nil => simp [branchFailures]
  | cons first names ih =>
    cases outcomes with
    | nil => simp [branchFailures]
    | cons outcome outcomes =>
      have hsplit : (∃ j, i = index + j ∧ (first :: names)[j]? = some name ∧
          (outcome :: outcomes)[j]? = some (.error f)) ↔
          (i = index ∧ name = first ∧ outcome = .error f) ∨ ∃ j, i = index + 1 + j ∧
            names[j]? = some name ∧ outcomes[j]? = some (.error f) := by
        constructor
        · rintro ⟨j, rfl, hname, houtcome⟩
          cases j with
          | zero => exact .inl ⟨rfl, (Option.some.inj hname).symm, Option.some.inj houtcome⟩
          | succ j => exact .inr ⟨j, by omega, hname, houtcome⟩
        · rintro (⟨rfl, rfl, rfl⟩ | ⟨j, rfl, hname, houtcome⟩)
          · exact ⟨0, rfl, rfl, rfl⟩
          · exact ⟨j + 1, by omega, hname, houtcome⟩
      rw [hsplit, ← ih]
      cases outcome with
      | ok _ => simp [branchFailures]
      | error g => simp [branchFailures, eq_comm]

/-- The failures are in the order of the branches. -/
theorem pairwise_branchFailures (index : Nat) (names : List String) (outcomes : List Outcome) :
    (branchFailures index names outcomes).Pairwise fun x y => x.1 < y.1 := by
  induction names generalizing index outcomes with
  | nil => exact .nil
  | cons first names ih =>
    match outcomes with
    | [] => exact .nil
    | .ok _ :: outcomes => exact ih (index + 1) outcomes
    | .error f :: outcomes =>
      refine .cons (fun later hlater => ?_) (ih (index + 1) outcomes)
      obtain ⟨j, hj, -, -⟩ := mem_branchFailures.1 hlater
      omega

theorem joinOutcomes_eq_ok_iff {names : List String} {outcomes : List Outcome}
    (hlength : names.length = outcomes.length) :
    joinOutcomes names outcomes = .ok () ↔ ∀ outcome ∈ outcomes, outcome = .ok () := by
  rw [joinOutcomes]
  split
  · next hnone =>
    refine iff_of_true rfl fun outcome houtcome => ?_
    obtain ⟨j, hj, rfl⟩ := List.mem_iff_getElem.1 houtcome
    cases hresult : outcomes[j] with
    | ok _ => rfl
    | error f =>
      have hmem : (j, names[j], f) ∈ branchFailures 0 names outcomes :=
        mem_branchFailures.2 ⟨j, (Nat.zero_add j).symm, List.getElem?_eq_getElem _, by
          rw [List.getElem?_eq_getElem hj, hresult]⟩
      rw [hnone] at hmem
      cases hmem
  · next failures hsome =>
    refine iff_of_false nofun fun hall => ?_
    obtain ⟨⟨i, name, f⟩, hmem⟩ := List.exists_mem_of_ne_nil _ hsome
    obtain ⟨j, -, -, houtcome⟩ := mem_branchFailures.1 hmem
    cases hall _ (List.mem_of_getElem? houtcome)

theorem joinOutcomes_eq_error {names : List String} {outcomes : List Outcome} {f : Failure}
    (h : joinOutcomes names outcomes = .error f) :
    f = .parallel names.length (branchFailures 0 names outcomes) := by
  rw [joinOutcomes] at h
  split at h
  · cases h
  · cases h
    rfl

/-- The failures of actions that end in some ways. -/
theorem mem_branchFailures_map {actions : List Action} {alone : List (Outcome × Session)} {i : Nat}
    {name : String} {f : Failure} :
    (i, name, f) ∈ branchFailures 0 (actions.map Action.name) (alone.map (·.1)) ↔
      ∃ a e, actions[i]? = some a ∧ a.name = name ∧ alone[i]? = some (.error f, e) := by
  rw [mem_branchFailures]
  constructor
  · rintro ⟨j, hj, hname, houtcome⟩
    obtain rfl : i = j := by omega
    rw [List.getElem?_map] at hname houtcome
    obtain ⟨a, ha, rfl⟩ := Option.map_eq_some_iff.1 hname
    obtain ⟨⟨outcome, e⟩, he, rfl⟩ := Option.map_eq_some_iff.1 houtcome
    exact ⟨a, e, ha, rfl, he⟩
  · rintro ⟨a, e, ha, rfl, he⟩
    refine ⟨i, (Nat.zero_add i).symm, ?_, ?_⟩
    · rw [List.getElem?_map, ha, Option.map_some]
    · rw [List.getElem?_map, he, Option.map_some]

/-! ## Branches alone -/

/-- A branch that has got a copy of the variables: an action with its reports. -/
def Templates.onCopy (templates : Templates) (depth : Nat) (ctx : Context) (action : Action)
    (copy : Nat) : Course Outcome :=
  let inner : Context := { ctx with scope := copy, isolated := true }
  bracketed inner action.name (action.execute (templates.call depth) inner)

/-- A branch alone: an action with its reports on a copy of the variables. -/
def Templates.branch (templates : Templates) (depth : Nat) (ctx : Context) (action : Action) :
    Course Outcome :=
  .after (ctx.derive .isolated) fun inner =>
    bracketed inner action.name (action.execute (templates.call depth) inner)

theorem Templates.branch_eq (templates : Templates) (depth : Nat) (ctx : Context)
    (action : Action) :
    templates.branch depth ctx action =
      .take (.copy ctx.scope) (templates.onCopy depth ctx action) := rfl

/-- Whether actions that ran side by side from some session on did what runs of them alone, one for
each action, did from there. -/
structure RunsIndependently (s : Session) (actions : List Action)
    (alone : List (Outcome × Session)) (outcome : Outcome) (ended : Session) : Prop where
  length : alone.length = actions.length
  succeeds : outcome = .ok () ↔ ∀ x ∈ alone, x.1 = .ok ()
  /-- Just the branches that fail alone are listed, each with its own failure. -/
  fails : ∀ f, outcome = .error f → ∃ failures, f = .parallel actions.length failures ∧
    (failures.Pairwise fun x y => x.1 < y.1) ∧ ∀ i name g, (i, name, g) ∈ failures ↔
      ∃ a e, actions[i]? = some a ∧ a.name = name ∧ alone[i]? = some (.error g, e)
  enclosing : ∀ scope < s.scopes.length, ended.store scope = s.store scope
  /-- The variables of a branch, which have the scope that is next if it runs alone. -/
  copies : ∀ i x, alone[i]? = some x →
    ended.store (s.scopes.length + i) = x.2.store s.scopes.length
  /-- Each branch reports and records what it does alone, at the same times. -/
  shows : ∃ (parts : List (List Mark)) (whole : List Mark), s.Shows whole ended ∧
    Interleaves parts whole ∧ parts.length = actions.length ∧
      ∀ (i : Nat) (x : Outcome × Session) (part : List Mark), alone[i]? = some x →
        parts[i]? = some part → s.Shows part x.2
  /-- No branch alone ends later. -/
  latest : ∀ x ∈ alone, x.2.clock ≤ ended.clock

/-! ## Copies of the variables -/

/-- Whether some copies of a scope were opened, and nothing else but time has passed. -/
structure Session.Copied (s : Session) (scope count : Nat) (t : Session) : Prop where
  scopes : t.scopes = s.scopes ++ List.replicate count (s.store scope)
  view : t.view = s.view
  clock : s.clock ≤ t.clock

namespace Session.Copied

variable {s t : Session} {scope count : Nat}

/-- The scopes that were there before are as they were. -/
theorem store_eq (h : s.Copied scope count t) {i : Nat} (hi : i < s.scopes.length) :
    t.store i = s.store i := by
  rw [store, h.scopes, List.getD_eq_getElem?_getD, List.getElem?_append_left hi,
    ← List.getD_eq_getElem?_getD, store]

theorem store_copy (h : s.Copied scope count t) {i : Nat} (hi : i < count) :
    t.store (s.scopes.length + i) = s.store scope := by
  rw [store, h.scopes, List.getD_eq_getElem?_getD,
    List.getElem?_append_right (Nat.le_add_right ..), Nat.add_sub_cancel_left,
    List.getElem?_replicate_of_lt hi, Option.getD_some]

/-- A copy before other ones. -/
theorem cons {u : Session} (h : s.Elapses t)
    (h' : (t.take (.copy scope)).2.Copied scope count u) : s.Copied scope (count + 1) u where
  scopes := by
    have hcopied : (t.take (.copy scope)).2.scopes = s.scopes ++ [s.store scope] := by
      rw [← h.scopes_eq, ← h.store_eq]
      rfl
    rw [h'.scopes, t.store_copy, h.store_eq, hcopied, List.append_assoc, List.replicate_succ,
      List.singleton_append]
  view := h'.view.trans h.view_eq
  clock := h.clock_le.trans h'.clock

end Session.Copied

/-- **Isolated contexts have scopes of their own**, whenever each of them is made. -/
theorem Context.exists_copied {ctx : Context} {n : Nat} {f : List Context → Course Outcome}
    {s e : Session} {r : Outcome}
    (h : Woven (.after (ctx.deriveMany .isolated n) f, s) (.done r, e)) :
    ∃ t, s.Copied ctx.scope n t ∧
      Woven (f ((List.range' s.scopes.length n).map fun scope =>
        { ctx with scope := scope, isolated := true }), t) (.done r, e) := by
  induction n generalizing s f with
  | zero => exact ⟨s, ⟨(List.append_nil _).symm, rfl, le_rfl⟩, h⟩
  | succ n ih =>
    obtain ⟨t, ht, hrest⟩ := Woven.take_iff.1 h
    let copied : Session := (t.take (.copy ctx.scope)).2
    let first : Context := { ctx with scope := t.scopes.length, isolated := true }
    have hbound : Woven (.after ((ctx.deriveMany .isolated n).bind fun others =>
        .done (first :: others)) f, copied) (.done r, e) := hrest
    rw [Course.after_bind] at hbound
    obtain ⟨u, hu, hnext⟩ := ih hbound
    have hlength : copied.scopes.length = t.scopes.length + 1 := List.length_append
    rw [hlength] at hnext
    refine ⟨u, .cons ht hu, ?_⟩
    rw [← ht.scopes_eq, List.range'_succ, List.map_cons]
    exact hnext

/-! ## Branches beside each other -/

section Solos

variable {ε : Type}

/-- A run alone on a copy of a scope, beside one that has got some other copy of it. -/
def Session.solo (s : Session) (source copy : Nat) (ahead : ε) : Solo ε where
  pairing m n := m = copy ∧ n = s.scopes.length
  session := (s.take (.copy source)).2
  ahead := ahead

/-- Runs alone on copies of a scope, beside ones whose copies begin with some number. -/
def Session.solos (s : Session) (source copy : Nat) (aheads : List ε) : List (Solo ε) :=
  (aheads.zipIdx copy).map fun x => s.solo source x.2 x.1

variable {s t : Session} {source copy i : Nat} {aheads : List ε}

theorem Session.exists_of_getElem?_solos {x : Solo ε}
    (h : (s.solos source copy aheads)[i]? = some x) :
    ∃ ahead, aheads[i]? = some ahead ∧ x = s.solo source (copy + i) ahead := by
  rw [solos, List.getElem?_map, List.getElem?_zipIdx, Option.map_map] at h
  obtain ⟨ahead, hahead, rfl⟩ := Option.map_eq_some_iff.1 h
  exact ⟨ahead, hahead, rfl⟩

theorem Session.getElem?_solos {ahead : ε} (h : aheads[i]? = some ahead) :
    (s.solos source copy aheads)[i]? = some (s.solo source (copy + i) ahead) := by
  rw [solos, List.getElem?_map, List.getElem?_zipIdx, h]
  rfl

theorem Session.length_solos : (s.solos source copy aheads).length = aheads.length := by
  rw [solos, List.length_map, List.length_zipIdx]

theorem Session.map_ahead_solos {β : Type} (f : ε → β) :
    (s.solos source copy aheads).map (fun x => f x.ahead) = aheads.map f := by
  conv_rhs => rw [← List.zipIdx_map_fst copy aheads, List.map_map]
  exact List.map_map

theorem Session.outcomes_solos {alone : List (Outcome × Session)} :
    (s.solos source copy alone).map (·.ahead.1) = alone.map (·.1) :=
  map_ahead_solos fun x : Outcome × Session => x.1

/-- Branches that begin with copies of the variables are apart. -/
theorem Session.Copied.apart (h : s.Copied source aheads.length t) :
    Apart t (s.solos source s.scopes.length aheads) where
  agree {i x} hi := by
    obtain ⟨ahead, hahead, rfl⟩ := Session.exists_of_getElem?_solos hi
    have hlt : i < aheads.length := (List.getElem?_eq_some_iff.1 hahead).1
    have hlength : (s.take (.copy source)).2.scopes.length = s.scopes.length + 1 :=
      List.length_append
    refine ⟨?_, ?_, ?_, ?_⟩
    · rintro _ _ ⟨rfl, rfl⟩
      rw [h.scopes, List.length_append, List.length_replicate]
      omega
    · rintro _ _ ⟨rfl, rfl⟩
      exact hlength ▸ Nat.lt_succ_self _
    · rintro _ _ _ _ ⟨rfl, rfl⟩ ⟨rfl, rfl⟩
      exact iff_of_true rfl rfl
    · rintro _ _ ⟨rfl, rfl⟩
      exact (h.store_copy hlt).trans (s.store_openScope _).symm
  clock {i x} hi := by
    obtain ⟨ahead, -, rfl⟩ := Session.exists_of_getElem?_solos hi
    exact h.clock
  disjoint {i j x y m n n'} hi hj hmn hmn' := by
    obtain ⟨ahead, -, rfl⟩ := Session.exists_of_getElem?_solos hi
    obtain ⟨ahead', -, rfl⟩ := Session.exists_of_getElem?_solos hj
    exact Nat.add_left_cancel (hmn.1.symm.trans hmn'.1)

/-- What runs alone on copies come to. -/
theorem Session.exists_comes_solos {courses : List (Course Outcome)}
    {ys : List (Solo (Outcome × Session))}
    (h : List.Forall₂ Solo.Comes (s.solos source copy courses) ys) :
    ∃ alone : List (Outcome × Session), ys = s.solos source copy alone ∧
      List.Forall₂ (fun p x => Woven (p, (s.take (.copy source)).2) (.done x.1, x.2)) courses
        alone := by
  induction courses generalizing copy ys with
  | nil =>
    cases h
    exact ⟨[], rfl, .nil⟩
  | cons p rest ih =>
    obtain ⟨⟨R, a, x⟩, ys, ⟨hpairing, hsession, hcomes⟩, hrest, rfl⟩ :=
      List.forall₂_cons_left_iff.1 h
    obtain ⟨alone, rfl, halone⟩ := ih hrest
    refine ⟨x :: alone, ?_, .cons hcomes halone⟩
    obtain rfl : R = (s.solo source copy p).pairing := hpairing
    obtain rfl : a = (s.take (.copy source)).2 := hsession
    rfl

end Solos

section Branches

variable {templates : Templates} {depth : Nat} {ctx : Context} {s : Session} {actions : List Action}

/-- **What a branch does is alike to what it does alone.** -/
theorem alike_onCopy {action : Action} (h : action.KeepsToItself templates) (depth : Nat)
    (ctx : Context) (s : Session) (copy : Nat) :
    (templates.onCopy depth ctx action copy).Alike (fun m n => m = copy ∧ n = s.scopes.length)
      (templates.onCopy depth ctx action s.scopes.length) := by
  have hctx : Context.Alike (fun m n => m = copy ∧ n = s.scopes.length)
      { ctx with scope := copy, isolated := true }
      { ctx with scope := s.scopes.length, isolated := true } := ⟨⟨rfl, rfl⟩, rfl, rfl, rfl⟩
  exact alike_bracketed hctx action.name
    (alike_execute (templates.alike_call depth) action h hctx)

/-- What is so of each branch beside its run alone. -/
theorem forall₂_executeEach {ε : Type} {P : Course Outcome → Solo ε → Prop} (ahead : Action → ε)
    (hP : ∀ a ∈ actions, ∀ copy,
      P (templates.onCopy depth ctx a copy) (s.solo ctx.scope copy (ahead a))) (copy : Nat) :
    List.Forall₂ P
      (executeEach (templates.call depth)
        ((List.range' copy actions.length).map fun scope =>
          { ctx with scope := scope, isolated := true }) actions)
      (s.solos ctx.scope copy (actions.map ahead)) := by
  induction actions generalizing copy with
  | nil => exact .nil
  | cons a rest ih =>
    obtain ⟨ha, hrest⟩ := List.forall_mem_cons.1 hP
    rw [Session.solos, List.length_cons, List.range'_succ, List.map_cons, executeEach,
      List.map_cons, List.zipIdx_cons, List.map_cons]
    exact .cons (ha copy) (ih hrest (copy + 1))

/-- **Branches that have ended on copies of their own were independent runs.** -/
theorem RunsIndependently.of_ends {t e : Session} {alone : List (Outcome × Session)}
    (hlength : alone.length = actions.length) (hcopied : s.Copied ctx.scope alone.length t)
    (hends : Ends t (s.solos ctx.scope s.scopes.length alone) e) :
    RunsIndependently s actions alone
      (joinOutcomes (actions.map Action.name) (alone.map (·.1))) e where
  length := hlength
  succeeds := by
    rw [joinOutcomes_eq_ok_iff (by rw [List.length_map, List.length_map, hlength]),
      List.forall_mem_map]
  fails f hf := by
    have hf' := joinOutcomes_eq_error hf
    rw [List.length_map] at hf'
    exact ⟨_, hf', pairwise_branchFailures .., fun i name g => mem_branchFailures_map⟩
  enclosing scope hscope := by
    have hlater : scope < t.scopes.length := by
      rw [hcopied.scopes, List.length_append]
      omega
    rw [← hcopied.store_eq hscope]
    refine hends.others hlater fun i x n hi hpaired => ?_
    obtain ⟨_, -, rfl⟩ := Session.exists_of_getElem?_solos hi
    have hscope' : scope = s.scopes.length + i := hpaired.1
    omega
  copies i x hx := by
    obtain ⟨R, hR, hagree⟩ := hends.agree (Session.getElem?_solos hx)
    exact hagree.store (hR _ _ ⟨rfl, rfl⟩)
  shows := by
    obtain ⟨parts, whole, hwhole, hparts, hcount, heach⟩ := hends.shows
    refine ⟨parts, whole, ?_, hparts, ?_, fun i x part hx hpart =>
      heach (Session.getElem?_solos hx) hpart⟩
    · rw [Session.Shows, ← hcopied.view]
      exact hwhole
    · rw [hcount, Session.length_solos, hlength]
  latest x hx := by
    obtain ⟨i, hi⟩ := List.mem_iff_getElem?.1 hx
    exact hends.latest (Session.getElem?_solos hi)

end Branches

/-! ## The container -/

section Container

variable {templates : Templates} {depth : Nat} {ctx : Context} {name : String}
  {actions : List Action} {s : Session}

/-- As the scheduler runs them, the whole takes as long as the longest of them. -/
theorem RunsIndependently.of_run
    (h : (Action.parallel name .isolated actions).KeepsToItself templates) :
    let run := s.run ((Action.parallel name .isolated actions).execute (templates.call depth) ctx)
    let alone := actions.map fun a => s.run (templates.branch depth ctx a)
    RunsIndependently s actions alone run.1 run.2 ∧
      run.2.clock = (alone.map (·.2.clock)).foldl max s.clock := by
  intro run alone
  let copied : Session :=
    { s with scopes := s.scopes ++ List.replicate actions.length (s.store ctx.scope) }
  have hlength : alone.length = actions.length := List.length_map _
  have hcopied : s.Copied ctx.scope alone.length copied := ⟨hlength ▸ rfl, rfl, le_rfl⟩
  have hawaits := forall₂_executeEach (P := fun p x => Solo.Awaits copied.clock x p)
    (fun a => s.run (templates.branch depth ctx a))
    (fun a ha copy => ⟨rfl, _, alike_onCopy (h.inside ha) depth ctx s copy, rfl⟩) s.scopes.length
  obtain ⟨e, hfork, hends⟩ := Session.run_fork
    (fun outcomes => .done (joinBranches (actions.map Action.name) (outcomes.map .ended)))
    hawaits hcopied.apart
  have hrun : run = (joinOutcomes (actions.map Action.name) (alone.map (·.1)), e) := by
    show s.run (.after (ctx.deriveMany .isolated actions.length) _) = _
    rw [Session.run_after, ctx.alone_deriveMany, hfork, joinBranches_ended,
      Session.outcomes_solos]
    exact Session.run_of_result? rfl
  rw [hrun]
  refine ⟨.of_ends hlength hcopied hends.toEnds, ?_⟩
  have hbegin : ∀ x ∈ s.solos ctx.scope s.scopes.length alone, s.clock ≤ x.ahead.2.clock := by
    intro x hx
    obtain ⟨i, hi⟩ := List.mem_iff_getElem?.1 hx
    obtain ⟨ahead, hahead, rfl⟩ := Session.exists_of_getElem?_solos hi
    obtain ⟨a, -, rfl⟩ := List.mem_map.1 (List.mem_of_getElem? hahead)
    exact (s.woven_run (templates.branch depth ctx a)).clock_le
  have hclock := hends.clock_eq hbegin
  rwa [Session.map_ahead_solos fun x : Outcome × Session => x.2.clock] at hclock

/-- In whatever order they go on, there are runs of them alone. -/
theorem RunsIndependently.exists_of_woven
    (h : (Action.parallel name .isolated actions).KeepsToItself templates) {outcome : Outcome}
    {ended : Session}
    (hwoven : Woven ((Action.parallel name .isolated actions).execute (templates.call depth) ctx, s)
      (.done outcome, ended)) :
    ∃ alone, List.Forall₂ (fun a x => Woven (templates.branch depth ctx a, s) (.done x.1, x.2))
        actions alone ∧ RunsIndependently s actions alone outcome ended := by
  obtain ⟨t, hcopied, hfork⟩ := Context.exists_copied hwoven
  obtain ⟨outcomes, g, hruns, -, -, hended, -, hjoin⟩ := Woven.fork_iff.1 hfork
  obtain ⟨rfl, helapses⟩ := Woven.done_iff.1 hjoin
  let courses := actions.map fun a => templates.onCopy depth ctx a s.scopes.length
  have halike := forall₂_executeEach (P := fun p x => Course.Alike x.pairing p x.ahead)
    (fun a => templates.onCopy depth ctx a s.scopes.length)
    (fun a ha => alike_onCopy (h.inside ha) depth ctx s) s.scopes.length
  have hapart : Apart t (s.solos ctx.scope s.scopes.length courses) :=
    Session.Copied.apart (by rwa [List.length_map])
  obtain ⟨ys, hys, rfl, hends⟩ :=
    Apart.of_runs (hruns.trans (Gathering.Runs.of_elapses helapses)) hended halike hapart
  obtain ⟨alone, rfl, halone⟩ := Session.exists_comes_solos hys
  rw [List.forall₂_map_left_iff] at halone
  refine ⟨alone, halone.imp fun a x hx => ?_, ?_⟩
  · rw [Templates.branch_eq]
    exact .head (.goes (.take _)) hx
  · rw [joinBranches_ended, Session.outcomes_solos]
    exact .of_ends halone.length_eq.symm (halone.length_eq ▸ hcopied) hends

end Container

/-- **Isolated branches are independent runs.**  Actions that neither send nor receive, nor any
action or template inside, and that run side by side on copies of the variables, do what each of
them does alone on such a copy.  This is so in whatever order they go on, and as the scheduler runs
them the whole takes as long as the longest of them. -/
theorem runsIndependently_parallel (templates : Templates) (depth : Nat) (ctx : Context)
    (name : String) (actions : List Action) (s : Session)
    (h : (Action.parallel name .isolated actions).KeepsToItself templates) :
    let whole := (Action.parallel name .isolated actions).execute (templates.call depth) ctx
    let branch := templates.branch depth ctx
    let alone := actions.map fun a => s.run (branch a)
    (RunsIndependently s actions alone (s.run whole).1 (s.run whole).2 ∧
      (s.run whole).2.clock = (alone.map (·.2.clock)).foldl max s.clock) ∧
    ∀ outcome ended, Woven (whole, s) (.done outcome, ended) →
      ∃ alone, List.Forall₂ (fun a x => Woven (branch a, s) (.done x.1, x.2)) actions alone ∧
        RunsIndependently s actions alone outcome ended :=
  ⟨RunsIndependently.of_run h, fun _ _ => RunsIndependently.exists_of_woven h⟩

/-- One branch sleeps and then sets a variable, and another one calls a template that fails. -/
theorem runsIndependently_sleeping_branch :
    let templates : Templates := [("t", { name := "t", body := [.fail "no"] })]
    let ctx : Context := { scope := 0, library := ⟨"", "", []⟩, run := "" }
    let s : Session := { scopes := [⟨[("x", .string "outer")]⟩] }
    let actions : List Action :=
      [.sequence "slow" .shared [.sleep "5", .createVariables [("x", .null)]],
        .callTemplate "t" [] none]
    let whole := (Action.parallel "both" .isolated actions).execute (templates.call 1) ctx
    let branch := templates.branch 1 ctx
    let run := s.run whole
    run.1.isOk = false ∧ run.2.clock = 5 ∧
      RunsIndependently s actions (actions.map fun a => s.run (branch a)) run.1 run.2 ∧
      ∀ outcome ended, Woven (whole, s) (.done outcome, ended) →
        ∃ alone, List.Forall₂ (fun a x => Woven (branch a, s) (.done x.1, x.2)) actions alone ∧
          RunsIndependently s actions alone outcome ended := by
  intro templates ctx s actions whole branch run
  let paused := whole.start s
  let fired := paused.1.fire (paused.1.await paused.2)
  have hpaused : paused.1.result?.isNone := by decide +kernel
  have hfired : fired.1.result?.map (·.isOk) = some false := by decide +kernel
  have hclock : fired.2.clock = 5 := by decide +kernel
  obtain ⟨outcome, houtcome, hfails⟩ := Option.map_eq_some_iff.1 hfired
  have hrun : run = (outcome, fired.2) := by
    rw [← Task.run_of_result? houtcome fired.2]
    exact Task.run_of_result?_eq_none (Option.isNone_iff_eq_none.1 hpaused) paused.2
  have hslow : (Action.sequence "slow" .shared
      [.sleep "5", .createVariables [("x", .null)]]).KeepsToItself templates := by
    refine .of_inside rfl (List.forall_mem_cons.2 ⟨?_, List.forall_mem_singleton.2 ?_⟩)
    · exact .of_isSimple rfl rfl
    · exact .of_isSimple rfl rfl
  have hcall : (Action.callTemplate "t" [] none).KeepsToItself templates := by
    refine .of_inside rfl ?_
    rintro b ⟨t, ⟨⟩, hb⟩
    cases List.mem_singleton.1 hb
    exact .of_isSimple rfl rfl
  obtain ⟨⟨hindependent, -⟩, hany⟩ :=
    runsIndependently_parallel templates 1 ctx "both" actions s
      (.of_inside rfl (List.forall_mem_cons.2 ⟨hslow, List.forall_mem_singleton.2 hcall⟩))
  refine ⟨?_, ?_, hindependent, hany⟩
  · rw [hrun]
    exact hfails
  · rw [hrun]
    exact hclock

end Scenario
