import Scenario.Proofs.Session.Ownership

/-!
# What a course reports

A course reports as it goes, and where it forks the reports of its branches come in any order that
keeps that of each branch.  This file is about all that a course can have reported by its end,
together with the result that it ends with.

## What is here

* `Interleaves` — a list is put together from several others, each of which keeps its order.
* `Script.Tells` and `Course.Tells` — however a script or a course ends, its reports belong to one
  run and test, and a relation between its log and its result holds.
* `Script.Tells.bind`, `Course.Tells.after`, `Course.Tells.andThen` — logs are put together as
  courses are.
* `Course.Tells.woven` — what it means for the events of a session.
-/

set_option autoImplicit false

namespace Scenario

variable {ρ α β : Type}

/-! ## Interleaving -/

/-- Whether a list is put together from several others, each of which keeps its order. -/
inductive Interleaves : List (List α) → List α → Prop where
  | done {parts : List (List α)} (h : ∀ part ∈ parts, part = []) : Interleaves parts []
  | next {parts : List (List α)} {i : Nat} {x : α} {rest whole : List α}
    (hi : parts[i]? = some (x :: rest)) (h : Interleaves (parts.set i rest) whole) :
    Interleaves parts (x :: whole)

/-- All of it comes from one of the parts. -/
theorem Interleaves.mem {parts : List (List α)} {whole : List α} (h : Interleaves parts whole)
    {x : α} (hx : x ∈ whole) : ∃ part ∈ parts, x ∈ part := by
  induction h with
  | done _ => cases hx
  | @next parts i y rest whole hi _ ih =>
    have hmem := List.mem_of_getElem? hi
    rcases List.mem_cons.1 hx with rfl | hx
    · exact ⟨_, hmem, List.mem_cons_self⟩
    · obtain ⟨part, hpart, hx⟩ := ih hx
      rcases List.mem_or_eq_of_mem_set hpart with hpart | rfl
      · exact ⟨part, hpart, hx⟩
      · exact ⟨_, hmem, List.mem_cons_of_mem _ hx⟩

/-- One part may begin before all others. -/
theorem Interleaves.prepend {parts : List (List α)} {whole : List α} (h : Interleaves parts whole)
    {i : Nat} {part : List α} (hi : parts[i]? = some part) (xs : List α) :
    Interleaves (parts.set i (xs ++ part)) (xs ++ whole) := by
  obtain ⟨hlt, hpart⟩ := List.getElem?_eq_some_iff.1 hi
  induction xs with
  | nil =>
    rw [List.nil_append, List.nil_append, ← hpart, List.set_getElem_self]
    exact h
  | cons x xs ih =>
    have hbegin : (parts.set i (x :: xs ++ part))[i]? = some (x :: (xs ++ part)) :=
      List.getElem?_set_self hlt
    refine .next hbegin ?_
    rwa [List.set_set]

/-! ## Logs -/

/-- What a step reports. -/
def Step.report? : Step → Option Occurrence
  | report _ _ what => some what
  | _ => none

/-- Whether what a step reports, if anything, belongs to some run and test. -/
def Step.Signed (run test : Option String) : Step → Prop
  | report run' test' _ => run' = run ∧ test' = test
  | _ => True

/-- What is left of a relation between log and result once something was reported. -/
abbrev afterReport (step : Step) (Q : List Occurrence → α → Prop) (log : List Occurrence) (a : α) :
    Prop := Q (step.report?.toList ++ log) a

section Tells

variable (run test : Option String)

/-- Whether all reports of a script belong to some run and test, and a relation holds between its
log and the value it ends with. -/
def Script.Tells : (Q : List Occurrence → α → Prop) → Script α → Prop
  | Q, .done a => Q [] a
  | Q, .take step next => step.Signed run test ∧ ∀ y, (next y).Tells (afterReport step Q)
  | Q, .pause _ next => (next ()).Tells Q

/-- Whether all reports of a course belong to some run and test, and a relation holds between its
log and its result. -/
inductive Course.Tells : (List Occurrence → ρ → Prop) → Course ρ → Prop where
  | done {Q : List Occurrence → ρ → Prop} {r : ρ} (h : Q [] r) : Tells Q (.done r)
  | take {Q : List Occurrence → ρ → Prop} {step : Step} {next : step.Yield → Course ρ}
    (hsigned : step.Signed run test) (hn : ∀ y, Tells (afterReport step Q) (next y)) :
    Tells Q (.take step next)
  | pause {Q : List Occurrence → ρ → Prop} {ms : Nat} {next : Unit → Course ρ}
    (hn : Tells Q (next ())) : Tells Q (.pause ms next)
  /-- Each branch has a relation of its own, and what follows knows of all their results and of some
  interleaving of their logs. -/
  | fork {Q : List Occurrence → ρ → Prop} {branches : List (Course ρ)} {join : List ρ → Course ρ}
    (Qs : Nat → List Occurrence → ρ → Prop)
    (hb : ∀ i p, branches[i]? = some p → Tells (Qs i) p)
    (hj : ∀ (ends : List (List Occurrence × ρ)) (whole : List Occurrence),
      ends.length = branches.length → (∀ i e, ends[i]? = some e → Qs i e.1 e.2) →
      Interleaves (ends.map (·.1)) whole →
      Tells (fun log r => Q (whole ++ log) r) (join (ends.map (·.2)))) :
    Tells Q (.fork branches join)

variable {run test}

/-! ### Putting logs together -/

theorem Script.Tells.mono {Q Q' : List Occurrence → α → Prop} {x : Script α}
    (hx : x.Tells run test Q) (h : ∀ log a, Q log a → Q' log a) : x.Tells run test Q' := by
  induction x generalizing Q Q' with
  | done a => exact h _ _ hx
  | take step next ih => exact ⟨hx.1, fun y => ih y (hx.2 y) fun log a => h _ a⟩
  | pause ms next ih => exact ih () hx h

theorem Script.Tells.bind {Q : List Occurrence → α → Prop} {Q' : List Occurrence → β → Prop}
    {x : Script α} {f : α → Script β} (hx : x.Tells run test Q)
    (hf : ∀ log a, Q log a → (f a).Tells run test fun log' b => Q' (log ++ log') b) :
    (x.bind f).Tells run test Q' := by
  induction x generalizing Q Q' with
  | done a => exact hf [] a hx
  | take step next ih =>
    refine ⟨hx.1, fun y => ih y (hx.2 y) fun log a hlog => ?_⟩
    simpa only [List.append_assoc] using hf _ a hlog
  | pause ms next ih => exact ih () hx hf

/-- A step adds what it reports to the events. -/
theorem Session.events_take (s : Session) (step : Step) (hstep : step.Signed run test) :
    ∃ events : List Event, (s.take step).2.events.toList = s.events.toList ++ events ∧
      (∀ e ∈ events, e.run = run ∧ e.test = test) ∧
        events.map (·.what) = step.report?.toList := by
  cases step with
  | report run' test' what =>
    refine ⟨[⟨what, run', test', s.clock⟩], Array.toList_push, ?_, rfl⟩
    exact List.forall_mem_singleton.2 hstep
  | _ => exact ⟨[], (List.append_nil _).symm, List.forall_mem_nil _, rfl⟩

/-- Neither time nor replies report anything. -/
theorem Session.events_advance (s : Session) (time : Nat) (first : Delivery → Bool) :
    (s.advance time first).events = s.events :=
  advance_eq (·.events) (fun _ _ => rfl) (fun _ _ _ _ => rfl) (fun _ _ => rfl) s time first

namespace Course.Tells

variable {Q Q' : List Occurrence → ρ → Prop} {p q : Course ρ}

theorem mono (hp : p.Tells run test Q) (h : ∀ log r, Q log r → Q' log r) : p.Tells run test Q' := by
  induction hp generalizing Q' with
  | done hQ => exact .done (h _ _ hQ)
  | take hsigned _ ih => exact .take hsigned fun y => ih y fun log r => h _ r
  | pause _ ih => exact .pause (ih h)
  | fork Qs hb _ _ ihj =>
    exact .fork Qs hb fun ends whole hlength hends hwhole =>
      ihj ends whole hlength hends hwhole fun log r => h _ r

theorem after {Q : List Occurrence → α → Prop} {Q' : List Occurrence → ρ → Prop} {x : Script α}
    {f : α → Course ρ} (hx : x.Tells run test Q)
    (hf : ∀ log a, Q log a → (f a).Tells run test fun log' r => Q' (log ++ log') r) :
    (Course.after x f).Tells run test Q' := by
  induction x generalizing Q Q' with
  | done a => exact hf [] a hx
  | take step next ih =>
    refine .take hx.1 fun y => ih y (hx.2 y) fun log a hlog => ?_
    simpa only [List.append_assoc] using hf _ a hlog
  | pause ms next ih => exact .pause (ih () hx hf)

theorem ofScript {x : Script ρ} (hx : x.Tells run test Q) : (Course.ofScript x).Tells run test Q :=
  after hx fun log a hlog => .done (by rwa [List.append_nil])

theorem andThen {f : ρ → Course ρ} (hp : p.Tells run test Q)
    (hf : ∀ log r, Q log r → (f r).Tells run test fun log' r' => Q' (log ++ log') r') :
    (p.andThen f).Tells run test Q' := by
  induction hp generalizing Q' with
  | done hQ => exact hf [] _ hQ
  | take hsigned _ ih =>
    refine .take hsigned fun y => ih y fun log r hlog => ?_
    simpa only [List.append_assoc] using hf _ r hlog
  | pause _ ih => exact .pause (ih hf)
  | fork Qs hb _ _ ihj =>
    refine .fork Qs hb fun ends whole hlength hends hwhole =>
      ihj ends whole hlength hends hwhole fun log r hlog => ?_
    simpa only [List.append_assoc] using hf _ r hlog

/-! ### What it means for a course that runs -/

/-- **A branch may be replaced by what is left of it** once it has reported something, which the
whole has reported then too. -/
theorem fork_set {branches : List (Course ρ)} {join : List ρ → Course ρ} {i : Nat}
    {more : List Occurrence} (hp : (Course.fork branches join).Tells run test Q)
    (hi : branches[i]? = some p)
    (hq : ∀ Q', p.Tells run test Q' → q.Tells run test fun log r => Q' (more ++ log) r) :
    (Course.fork (branches.set i q) join).Tells run test fun log r => Q (more ++ log) r := by
  cases hp with
  | fork Qs hb hj =>
    refine .fork (fun j => if j = i then fun log r => Qs j (more ++ log) r else Qs j)
      (fun j p' hj' => ?_) fun ends whole hlength hends hwhole => ?_
    · rw [List.getElem?_set] at hj'
      split at hj'
      · next heq =>
        subst heq
        rw [if_pos rfl]
        split at hj'
        · cases hj'
          exact hq _ (hb i p hi)
        · cases hj'
      · next hne =>
        rw [if_neg (Ne.symm hne)]
        exact hb j p' hj'
    · -- the log of the branch is that of what is left of it, behind what it has just reported
      rw [List.length_set] at hlength
      have hlt : i < ends.length := hlength ▸ (List.getElem?_eq_some_iff.1 hi).1
      obtain ⟨e, he⟩ : ∃ e, ends[i]? = some e := ⟨_, List.getElem?_eq_getElem hlt⟩
      have hself : ends.set i e = ends := by
        obtain ⟨_, rfl⟩ := List.getElem?_eq_some_iff.1 he
        exact List.set_getElem_self hlt
      have hlogs : (ends.map (·.1))[i]? = some e.1 := by
        rw [List.getElem?_map, he]
        rfl
      have hresults : (ends.set i (more ++ e.1, e.2)).map (·.2) = ends.map (·.2) := by
        rw [List.map_set, show e.2 = (e : List Occurrence × ρ).2 from rfl, ← List.map_set, hself]
      have hwhole' : Interleaves ((ends.set i (more ++ e.1, e.2)).map (·.1)) (more ++ whole) := by
        rw [List.map_set]
        exact hwhole.prepend hlogs more
      have hends' : ∀ j e', (ends.set i (more ++ e.1, e.2))[j]? = some e' → Qs j e'.1 e'.2 := by
        intro j e' hj'
        rw [List.getElem?_set] at hj'
        split at hj'
        · next heq =>
          subst heq
          cases hj'
          simpa using hends _ e he
        · next hne => simpa [Ne.symm hne] using hends j e' hj'
      have hjoin := hj _ _ (by rw [List.length_set, hlength]) hends' hwhole'
      rw [hresults] at hjoin
      simpa only [List.append_assoc] using hjoin

/-- What follows branches that have all ended tells the rest. -/
theorem join_done {results : List ρ} {join : List ρ → Course ρ}
    (hp : (Course.fork (results.map .done) join).Tells run test Q) :
    (join results).Tells run test Q := by
  cases hp with
  | fork Qs hb hj =>
    have hends : ∀ i e, (results.map fun r => (([] : List Occurrence), r))[i]? = some e →
        Qs i e.1 e.2 := by
      intro i e hi
      rw [List.getElem?_map] at hi
      obtain ⟨r, hr, rfl⟩ := Option.map_eq_some_iff.1 hi
      have hdone := hb i (.done r) (by rw [List.getElem?_map, hr]; rfl)
      cases hdone with
      | done h => exact h
    have hjoin := hj (results.map fun r => ([], r)) [] (by simp) hends (.done (by simp))
    simpa [Function.comp_def] using hjoin

/-- One thing that such a course does is signed, and what is left of it tells the rest. -/
theorem goes {t : Option Taken} (hp : p.Tells run test Q) (h : p.Goes t q) :
    (∀ t', t = some t' → t'.step.Signed run test) ∧
      q.Tells run test fun log r => Q ((t.bind (·.step.report?)).toList ++ log) r := by
  induction h generalizing Q with
  | take y =>
    cases hp with
    | take hsigned hn =>
      refine ⟨?_, hn y⟩
      rintro t' ⟨⟩
      exact hsigned
  | pause =>
    cases hp with
    | pause hn => exact ⟨fun _ hnone => (Option.some_ne_none _ hnone.symm).elim, hn⟩
  | @branch before after join p q t h ih =>
    have hat : (before ++ p :: after)[before.length]? = some p := by simp
    have hset : before ++ q :: after = (before ++ p :: after).set before.length q := by simp
    rw [hset]
    refine ⟨?_, hp.fork_set hat fun Q' h => (ih h).2⟩
    cases hp with
    | fork Qs hb _ => exact (ih (hb _ p hat)).1
  | join => exact ⟨fun _ hnone => (Option.some_ne_none _ hnone.symm).elim, hp.join_done⟩

/-- **The events of a session grow by what such a course tells**, in whatever order its branches go
on and whenever time passes. -/
theorem woven {s s' : Session} {r : ρ} (hp : p.Tells run test Q)
    (h : Woven (p, s) (.done r, s')) :
    ∃ events : List Event, s'.events.toList = s.events.toList ++ events ∧
      (∀ e ∈ events, e.run = run ∧ e.test = test) ∧ Q (events.map (·.what)) r := by
  have hinv : ∀ b, Woven (p, s) b → ∃ events : List Event,
      b.2.events.toList = s.events.toList ++ events ∧ (∀ e ∈ events, e.run = run ∧ e.test = test) ∧
        b.1.Tells run test fun log r => Q (events.map (·.what) ++ log) r := by
    intro b hb
    induction hb with
    | refl => exact ⟨[], (List.append_nil _).symm, List.forall_mem_nil _, hp⟩
    | tail _ hstep ih =>
      obtain ⟨events, hevents, hsigned, hrest⟩ := ih
      cases hstep with
      | @goes _ q t step hgoes =>
        obtain ⟨hstep, hq⟩ := hrest.goes hgoes
        obtain ⟨more, hmore, hmoreSigned, hwhat⟩ := t.events_take step (hstep _ rfl)
        refine ⟨events ++ more, ?_, ?_, ?_⟩
        · rw [hmore, hevents, List.append_assoc]
        · exact List.forall_mem_append.2 ⟨hsigned, hmoreSigned⟩
        · rw [List.map_append, hwhat]
          simpa only [List.append_assoc, Option.bind_some] using hq
      | idles hgoes => exact ⟨events, hevents, hsigned, (hrest.goes hgoes).2⟩
      | passes time first =>
        refine ⟨events, ?_, hsigned, hrest⟩
        rw [Session.events_advance, hevents]
  obtain ⟨events, hevents, hsigned, hrest⟩ := hinv _ h
  cases hrest with
  | done hQ => exact ⟨events, hevents, hsigned, by rwa [List.append_nil] at hQ⟩

end Course.Tells

end Tells

end Scenario
