import Mathlib.Logic.Relation
import Scenario.Session.Schedule

/-!
# Every way in which a course can run

`Session.run` runs a course in one way: it is always the branch with the first timer that goes on.
Nothing else depends on this order, and what is to hold of a course should not do so either.  Here a
course goes on step by step, and wherever branches run side by side any of them can be the next.

## What is here

* `Course.Goes` — one thing that a course can do next.  A step may yield anything: what it yields is
  up to the session, and to all others that work on the same session.
* `Course.Does` — the steps that a course takes on its way, and what each of them yielded.
* `Weaves` and `Woven` — a course runs in one session and nobody else is there: each step yields
  what the session has.  Time can pass at any moment, and replies can arrive.
* `Session.woven_run` — a run of the scheduler is one of these ways.
-/

set_option autoImplicit false

namespace Scenario

variable {ρ : Type}

/-! ## Courses on their own -/

/-- A step that was taken. -/
structure Taken where
  step : Step
  /-- What it yielded. -/
  yield : step.Yield

/-- One thing that a course can do next: it takes a step, or a pause ends, or branches that all have
ended are joined.  Of several branches any can go on. -/
inductive Course.Goes : Course ρ → Option Taken → Course ρ → Prop where
  | take {step : Step} {next : step.Yield → Course ρ} (y : step.Yield) :
    Goes (.take step next) (some ⟨step, y⟩) (next y)
  | pause {ms : Nat} {next : Unit → Course ρ} : Goes (.pause ms next) none (next ())
  | branch {before after : List (Course ρ)} {join : List ρ → Course ρ} {p q : Course ρ}
    {t : Option Taken} (h : Goes p t q) :
    Goes (.fork (before ++ p :: after) join) t (.fork (before ++ q :: after) join)
  | join {results : List ρ} {join : List ρ → Course ρ} :
    Goes (.fork (results.map .done) join) none (join results)

/-- The steps that a course takes until it has become another one. -/
inductive Course.Does : Course ρ → List Taken → Course ρ → Prop where
  | refl (p : Course ρ) : Does p [] p
  | step {p q r : Course ρ} {t : Option Taken} {taken : List Taken} (h : p.Goes t q)
    (hs : Does q taken r) : Does p (t.toList ++ taken) r

/-! ## Courses in a session -/

/-- One thing that can happen while a course runs in a session. -/
inductive Weaves : Course ρ × Session → Course ρ × Session → Prop where
  | goes {p q : Course ρ} {s : Session} {step : Step}
    (h : p.Goes (some ⟨step, (s.take step).1⟩) q) : Weaves (p, s) (q, (s.take step).2)
  | idles {p q : Course ρ} {s : Session} (h : p.Goes none q) : Weaves (p, s) (q, s)
  /-- Time passes, and replies arrive. -/
  | passes {p : Course ρ} {s : Session} (time : Nat) (first : Delivery → Bool) :
    Weaves (p, s) (p, s.advance time first)

/-- What a course and its session can become. -/
abbrev Woven : Course ρ × Session → Course ρ × Session → Prop := Relation.ReflTransGen Weaves

namespace Woven

theorem single {a b : Course ρ × Session} (h : Weaves a b) : Woven a b :=
  Relation.ReflTransGen.single h

/-- Whatever a branch can do alone it can do among others. -/
theorem branch {a b : Course ρ × Session} (h : Woven a b) (before after : List (Course ρ))
    (join : List ρ → Course ρ) :
    Woven (.fork (before ++ a.1 :: after) join, a.2)
      (.fork (before ++ b.1 :: after) join, b.2) := by
  induction h with
  | refl => exact .refl
  | tail _ h ih =>
    refine ih.tail ?_
    cases h with
    | goes h => exact .goes (.branch h)
    | idles h => exact .idles (.branch h)
    | passes time first => exact .passes time first

end Woven

/-! ## The scheduler -/

mutual

/-- What a task has still to do. -/
def Task.rest : Task ρ → Course ρ
  | .finished r => .done r
  | .waiting _ _ next => next ()
  | .joining branches join => .fork (restAll branches) join

/-- What several tasks have still to do. -/
def restAll : List (Task ρ) → List (Course ρ)
  | [] => []
  | t :: others => t.rest :: restAll others

end

/-- Tasks that have ended have nothing to do but to give their results. -/
theorem restAll_of_results? {ts : List (Task ρ)} {rs : List ρ} (h : Task.results? ts = some rs) :
    restAll ts = rs.map .done := by
  induction ts generalizing rs with
  | nil =>
    cases h
    rfl
  | cons t others ih =>
    cases t with
    | finished r =>
      rw [Task.results?, Task.result?] at h
      cases hothers : Task.results? others with
      | none =>
        rw [hothers] at h
        cases h
      | some rs' =>
        rw [hothers] at h
        cases h
        rw [restAll, Task.rest, ih hothers]
        rfl
    | waiting => cases h
    | joining => cases h

namespace Woven

/-- Branches are joined as soon as all have ended. -/
theorem of_joined {branches : List (Task ρ)} {join : List ρ → Course ρ} {s : Session}
    (h : ∀ rs, Woven (join rs, s) (((join rs).start s).1.rest, ((join rs).start s).2)) :
    Woven (.fork (restAll branches) join, s)
      ((Task.joined branches join s).1.rest, (Task.joined branches join s).2) := by
  rw [Task.joined]
  split
  · next rs hrs =>
    rw [restAll_of_results? hrs]
    exact .head (.idles .join) (h rs)
  · exact .refl

mutual

/-- A course runs until it pauses. -/
theorem of_start : (p : Course ρ) → (s : Session) →
    Woven (p, s) ((p.start s).1.rest, (p.start s).2)
  | .done r, s => .refl
  | .take step next, s => .head (.goes (.take _)) (of_start (next _) _)
  | .pause 0 next, s => .head (.idles .pause) (of_start (next ()) s)
  | .pause (ms + 1) next, s => .head (.idles .pause) .refl
  | .fork branches join, s => by
    have hbranches := of_startAll branches s [] join
    rw [List.nil_append, List.nil_append] at hbranches
    rw [Course.start]
    exact hbranches.trans (of_joined fun rs => of_start (join rs) _)

/-- Branches run one after the other, each until it pauses. -/
theorem of_startAll : (branches : List (Course ρ)) → (s : Session) → (before : List (Course ρ)) →
    (join : List ρ → Course ρ) → Woven (.fork (before ++ branches) join, s)
      (.fork (before ++ restAll (startAll branches s).1) join, (startAll branches s).2)
  | [], s, before, join => .refl
  | p :: others, s, before, join => by
    have hothers := of_startAll others (p.start s).2 (before ++ [(p.start s).1.rest]) join
    rw [List.append_assoc, List.append_assoc] at hothers
    exact ((of_start p s).branch before others join).trans hothers

end

mutual

/-- The branch with the first timer goes on. -/
theorem of_fire : (t : Task ρ) → (s : Session) → Woven (t.rest, s) ((t.fire s).1.rest, (t.fire s).2)
  | .finished r, s => .refl
  | .waiting _ _ next, s => of_start (next ()) s
  | .joining branches join, s => by
    rw [Task.rest, Task.fire]
    split
    · next τ _ =>
      have hfirst := of_fireFirst τ branches s [] join
      rw [List.nil_append, List.nil_append] at hfirst
      exact hfirst.trans (of_joined fun rs => of_start (join rs) _)
    · exact of_joined fun rs => of_start (join rs) _

/-- The first of several tasks that has a given timer goes on. -/
theorem of_fireFirst (τ : Timer) : (ts : List (Task ρ)) → (s : Session) →
    (before : List (Course ρ)) → (join : List ρ → Course ρ) →
    Woven (.fork (before ++ restAll ts) join, s)
      (.fork (before ++ restAll (Task.fireFirst τ ts s).1) join, (Task.fireFirst τ ts s).2)
  | [], s, before, join => .refl
  | t :: others, s, before, join => by
    rw [Task.fireFirst]
    split
    · exact (of_fire t s).branch before (restAll others) join
    · have hothers := of_fireFirst τ others s (before ++ [t.rest]) join
      rw [List.append_assoc, List.append_assoc] at hothers
      exact hothers

end

/-- Time passes until a task goes on. -/
theorem of_await (t : Task ρ) (s : Session) (p : Course ρ) : Woven (p, s) (p, t.await s) := by
  unfold Task.await
  split
  · exact .single (.passes ..)
  · exact .single (.passes ..)
  · exact .refl

/-- A task runs until it has ended. -/
theorem of_run (t : Task ρ) (s : Session) : Woven (t.rest, s) (.done (t.run s).1, (t.run s).2) := by
  induction t using Task.fires_wf.induction generalizing s with
  | h t ih =>
    rw [Task.run]
    split
    · next r hr =>
      cases t with
      | finished r' =>
        cases hr
        exact .refl
      | waiting | joining => cases hr
    · next hnone =>
      have hfire := (of_await t s t.rest).trans (of_fire t (t.await s))
      exact hfire.trans (ih _ ⟨hnone, t.await s, rfl⟩ _)

end Woven

/-- **A run of a session is one of the ways in which the course can run.** -/
theorem Session.woven_run (s : Session) (p : Course ρ) :
    Woven (p, s) (.done (s.run p).1, (s.run p).2) :=
  (Woven.of_start p s).trans (Woven.of_run _ _)

end Scenario
