import Scenario.Proofs.Session.Ownership

/-!
# One course after another

Where a course goes on with what another one has ended with, every way in which the whole can run
falls into two: a way in which the first one runs to its end, and from there a way in which the
second one runs.  Time can pass in between, and belongs to either of them.

## What is here

* `Session.Elapses` — time passes and replies arrive, and nothing else happens.
* `Woven.done_iff`, `Woven.resume_iff` and `Woven.andThen_iff` — how a course that has ended, one
  that can only go on in one way and one that goes on with another can run to the end.
  `Woven.read_iff` is about a step that looks at variables, which are the same before and after time
  has passed, and `Woven.after_iff` about a course that goes on with the value of a script.
* `Session.run_andThen` — the scheduler runs the second course in what the first one has left.
-/

set_option autoImplicit false

namespace Scenario

variable {ρ : Type}

/-- Whether a session becomes another one while time passes and replies arrive. -/
def Session.Elapses : Session → Session → Prop :=
  Relation.ReflTransGen fun s t => ∃ time first, t = s.advance time first

namespace Session.Elapses

variable {s t : Session}

theorem refl (s : Session) : s.Elapses s := Relation.ReflTransGen.refl

theorem trans {u : Session} (h : s.Elapses t) (h' : t.Elapses u) : s.Elapses u :=
  Relation.ReflTransGen.trans h h'

theorem advance (s : Session) (time : Nat) (first : Delivery → Bool) :
    s.Elapses (s.advance time first) :=
  .single ⟨time, first, rfl⟩

/-- Time changes no variables. -/
theorem scopes_eq (h : s.Elapses t) : t.scopes = s.scopes := by
  induction h with
  | refl => rfl
  | tail _ hlast ih =>
    obtain ⟨time, first, rfl⟩ := hlast
    rw [scopes_advance, ih]

theorem store_eq (h : s.Elapses t) (scope : Nat) : t.store scope = s.store scope := by
  rw [store, h.scopes_eq, store]

/-- A course can wait. -/
theorem woven (h : s.Elapses t) (p : Course ρ) : Woven (p, s) (p, t) := by
  induction h with
  | refl => exact .refl
  | tail _ hlast ih =>
    obtain ⟨time, first, rfl⟩ := hlast
    exact ih.tail (.passes time first)

end Session.Elapses

namespace Course

variable {p q : Course ρ} {f : ρ → Course ρ} {t : Option Taken}

/-- What a course can do next it can do with another course after it. -/
theorem Goes.andThen (h : p.Goes t q) (f : ρ → Course ρ) : (p.andThen f).Goes t (q.andThen f) := by
  cases h with
  | take y => exact .take y
  | pause => exact .pause
  | branch h => exact .branch h
  | join => exact .join

/-- The course after another one waits until that has ended. -/
theorem Goes.of_andThen {next : Course ρ} (h : (p.andThen f).Goes t next) :
    (∃ a, p = .done a) ∨ ∃ q, p.Goes t q ∧ next = q.andThen f := by
  cases p with
  | done a => exact .inl ⟨a, rfl⟩
  | take step more =>
    cases h with
    | take y => exact .inr ⟨_, .take y, rfl⟩
  | pause ms more =>
    cases h with
    | pause => exact .inr ⟨_, .pause, rfl⟩
  | fork branches join =>
    cases h with
    | branch h => exact .inr ⟨_, .branch h, rfl⟩
    | join => exact .inr ⟨_, .join, rfl⟩

theorem eq_done_of_andThen {r : ρ} (h : p.andThen f = .done r) : ∃ a, p = .done a := by
  cases p with
  | done a => exact ⟨a, rfl⟩
  | take | pause | fork => cases h

end Course

/-- A course that has ended can only wait. -/
theorem Weaves.of_done {a : ρ} {s : Session} {b : Course ρ × Session}
    (h : Weaves (.done a, s) b) : ∃ t, b = (.done a, t) ∧ s.Elapses t := by
  cases h with
  | goes h => cases h
  | idles h => cases h
  | passes time first => exact ⟨_, rfl, .advance s time first⟩

/-- A course that takes a step takes it, or waits. -/
theorem Weaves.of_take {step : Step} {next : step.Yield → Course ρ} {s : Session}
    {b : Course ρ × Session} (h : Weaves (.take step next, s) b) :
    b = (next (s.take step).1, (s.take step).2) ∨ ∃ t, b = (.take step next, t) ∧ s.Elapses t := by
  cases h with
  | goes h =>
    cases h with
    | take y => exact .inl rfl
  | idles h => cases h
  | passes time first => exact .inr ⟨_, rfl, .advance s time first⟩

/-- A course that pauses goes on, or waits. -/
theorem Weaves.of_pause {ms : Nat} {next : Unit → Course ρ} {s : Session}
    {b : Course ρ × Session} (h : Weaves (.pause ms next, s) b) :
    b = (next (), s) ∨ ∃ t, b = (.pause ms next, t) ∧ s.Elapses t := by
  cases h with
  | goes h => cases h
  | idles h =>
    cases h with
    | pause => exact .inl rfl
  | passes time first => exact .inr ⟨_, rfl, .advance s time first⟩

/-- A course with another one after it has ended, or goes on by itself. -/
theorem Weaves.of_andThen {p : Course ρ} {f : ρ → Course ρ} {s : Session} {b : Course ρ × Session}
    (h : Weaves (p.andThen f, s) b) :
    (∃ a, p = .done a) ∨ ∃ q t, b = (q.andThen f, t) ∧ Weaves (p, s) (q, t) := by
  cases h with
  | goes h =>
    obtain hdone | ⟨q, hq, rfl⟩ := h.of_andThen
    · exact .inl hdone
    · exact .inr ⟨q, _, rfl, .goes hq⟩
  | idles h =>
    obtain hdone | ⟨q, hq, rfl⟩ := h.of_andThen
    · exact .inl hdone
    · exact .inr ⟨q, s, rfl, .idles hq⟩
  | passes time first => exact .inr ⟨p, _, rfl, .passes time first⟩

namespace Woven

variable {p q : Course ρ} {f : ρ → Course ρ} {s s' : Session} {r : ρ}

theorem andThen (h : Woven (p, s) (q, s')) (f : ρ → Course ρ) :
    Woven (p.andThen f, s) (q.andThen f, s') := by
  generalize hb : (q, s') = b at h
  induction h generalizing q s' with
  | refl => cases hb; exact .refl
  | tail _ hlast ih =>
    cases hb
    cases hlast with
    | goes h => exact (ih rfl).tail (.goes (h.andThen f))
    | idles h => exact (ih rfl).tail (.idles (h.andThen f))
    | passes time first => exact (ih rfl).tail (.passes time first)

theorem done_iff {a : ρ} : Woven (.done a, s) (.done r, s') ↔ r = a ∧ s.Elapses s' := by
  constructor
  · intro h
    have hinv : ∀ b, Woven (.done a, s) b → ∃ t, b = (.done a, t) ∧ s.Elapses t := by
      intro b hb
      induction hb with
      | refl => exact ⟨s, rfl, .refl s⟩
      | tail _ hlast ih =>
        obtain ⟨t, rfl, ht⟩ := ih
        obtain ⟨u, rfl, hu⟩ := hlast.of_done
        exact ⟨u, rfl, ht.trans hu⟩
    obtain ⟨t, heq, ht⟩ := hinv _ h
    cases heq
    exact ⟨rfl, ht⟩
  · rintro ⟨rfl, h⟩
    exact h.woven _

/-- **A course that can only wait or go on in one way** waits, and goes on where that has left the
session. -/
theorem resume_iff {next : Session → Course ρ × Session} (hp : ∀ a, p ≠ .done a)
    (hgoes : ∀ t, Weaves (p, t) (next t))
    (honly : ∀ {t b}, Weaves (p, t) b → b = next t ∨ ∃ u, b = (p, u) ∧ t.Elapses u) :
    Woven (p, s) (.done r, s') ↔ ∃ t, s.Elapses t ∧ Woven (next t) (.done r, s') := by
  constructor
  · intro h
    have hinv : ∀ b, Woven (p, s) b →
        (∃ t, b = (p, t) ∧ s.Elapses t) ∨ ∃ t, s.Elapses t ∧ Woven (next t) b := by
      intro b hb
      induction hb with
      | refl => exact .inl ⟨s, rfl, .refl s⟩
      | tail _ hlast ih =>
        obtain ⟨t, rfl, ht⟩ | ⟨t, ht, hnext⟩ := ih
        · obtain rfl | ⟨u, rfl, hu⟩ := honly hlast
          · exact .inr ⟨t, ht, .refl⟩
          · exact .inl ⟨u, rfl, ht.trans hu⟩
        · exact .inr ⟨t, ht, hnext.tail hlast⟩
    obtain ⟨t, heq, -⟩ | hnext := hinv _ h
    · exact absurd (congrArg Prod.fst heq).symm (hp r)
    · exact hnext
  · rintro ⟨t, ht, hnext⟩
    exact (ht.woven _).trans (.head (hgoes t) hnext)

/-- **A course that takes a step** may wait before. -/
theorem take_iff {step : Step} {next : step.Yield → Course ρ} :
    Woven (.take step next, s) (.done r, s') ↔
      ∃ t, s.Elapses t ∧ Woven (next (t.take step).1, (t.take step).2) (.done r, s') :=
  resume_iff nofun (fun _ => .goes (.take _)) Weaves.of_take

/-- **A course that pauses** may wait in its pause. -/
theorem pause_iff {ms : Nat} {next : Unit → Course ρ} :
    Woven (.pause ms next, s) (.done r, s') ↔
      ∃ t, s.Elapses t ∧ Woven (next (), t) (.done r, s') :=
  resume_iff nofun (fun _ => .idles .pause) Weaves.of_pause

/-- **A look at variables** shows them as they are before the course waits. -/
theorem read_iff {scope : Nat} {next : Store → Course ρ} :
    Woven (.take (.read scope) next, s) (.done r, s') ↔
      Woven (next (s.store scope), s) (.done r, s') := by
  rw [take_iff]
  constructor
  · rintro ⟨t, ht, hnext⟩
    have hlook : Woven (next (t.store scope), t) (.done r, s') := hnext
    rw [ht.store_eq] at hlook
    exact (ht.woven _).trans hlook
  · exact fun hnext => ⟨s, .refl s, hnext⟩

/-- **A course with another one after it** runs to its end first, and then the other one runs. -/
theorem andThen_iff : Woven (p.andThen f, s) (.done r, s') ↔
    ∃ a t, Woven (p, s) (.done a, t) ∧ Woven (f a, t) (.done r, s') := by
  constructor
  · intro h
    have hinv : ∀ b, Woven (p.andThen f, s) b →
        (∃ q t, b = (q.andThen f, t) ∧ Woven (p, s) (q, t)) ∨
        ∃ a t, Woven (p, s) (.done a, t) ∧ Woven (f a, t) b := by
      intro b hb
      induction hb with
      | refl => exact .inl ⟨p, s, rfl, .refl⟩
      | tail _ hlast ih =>
        obtain ⟨q, t, rfl, hq⟩ | ⟨a, t, hp, hnext⟩ := ih
        · obtain ⟨a, rfl⟩ | ⟨q', t', rfl, hstep⟩ := hlast.of_andThen
          · exact .inr ⟨a, t, hq, .single hlast⟩
          · exact .inl ⟨q', t', rfl, hq.tail hstep⟩
        · exact .inr ⟨a, t, hp, hnext.tail hlast⟩
    obtain ⟨q, t, heq, hq⟩ | hnext := hinv _ h
    · obtain ⟨hcourse, rfl⟩ := Prod.mk.inj heq
      obtain ⟨a, rfl⟩ := Course.eq_done_of_andThen hcourse.symm
      refine ⟨a, s', hq, ?_⟩
      rw [hcourse]
      exact .refl
    · exact hnext
  · rintro ⟨a, t, hp, hnext⟩
    exact (hp.andThen f).trans hnext

/-- **A course after a script** runs once the script has ended, whatever that ends with. -/
theorem after_iff {α : Type} {x : Script α} {f : α → Course ρ} :
    Woven (.after x f, s) (.done r, s') ↔
      ∃ a t, Woven (.ofScript x, s) (.done a, t) ∧ Woven (f a, t) (.done r, s') := by
  induction x generalizing s with
  | done a =>
    constructor
    · exact fun h => ⟨a, s, .refl, h⟩
    · rintro ⟨b, t, hend, hnext⟩
      obtain ⟨rfl, ht⟩ := done_iff.1 hend
      exact (ht.woven _).trans hnext
  | take step next ih =>
    constructor
    · intro h
      obtain ⟨t, ht, hmore⟩ := take_iff.1 h
      obtain ⟨a, u, hend, hnext⟩ := (ih _).1 hmore
      exact ⟨a, u, take_iff.2 ⟨t, ht, hend⟩, hnext⟩
    · rintro ⟨a, u, hend, hnext⟩
      obtain ⟨t, ht, hmore⟩ := take_iff.1 hend
      exact take_iff.2 ⟨t, ht, (ih _).2 ⟨a, u, hmore, hnext⟩⟩
  | pause ms next ih =>
    constructor
    · intro h
      obtain ⟨t, ht, hmore⟩ := pause_iff.1 h
      obtain ⟨a, u, hend, hnext⟩ := (ih _).1 hmore
      exact ⟨a, u, pause_iff.2 ⟨t, ht, hend⟩, hnext⟩
    · rintro ⟨a, u, hend, hnext⟩
      obtain ⟨t, ht, hmore⟩ := pause_iff.1 hend
      exact pause_iff.2 ⟨t, ht, (ih _).2 ⟨a, u, hmore, hnext⟩⟩

/-- No scope is ever closed. -/
theorem length_scopes_le {a b : Course ρ × Session} (h : Woven a b) :
    a.2.scopes.length ≤ b.2.scopes.length := by
  induction h with
  | refl => exact Nat.le_refl _
  | tail _ hlast ih =>
    refine ih.trans ?_
    cases hlast with
    | goes h => exact Session.length_scopes_take _ _
    | idles h => exact Nat.le_refl _
    | passes time first => rw [Session.scopes_advance]

end Woven

/-! ## The scheduler -/

namespace Task

/-- Goes on with a course when a task has ended. -/
def andThen : Task ρ → (ρ → Course ρ) → Session → Task ρ × Session
  | finished r, f, s => (f r).start s
  | waiting since due next, f, s => (waiting since due fun u => (next u).andThen f, s)
  | joining branches join, f, s => (joining branches fun rs => (join rs).andThen f, s)

variable {f : ρ → Course ρ}

theorem joined_andThen {branches : List (Task ρ)} {join : List ρ → Course ρ} {s : Session}
    (h : ∀ rs, ((join rs).andThen f).start s =
      ((join rs).start s).1.andThen f ((join rs).start s).2) :
    joined branches (fun rs => (join rs).andThen f) s =
      (joined branches join s).1.andThen f (joined branches join s).2 := by
  rw [joined, joined]
  cases results? branches with
  | some rs => exact h rs
  | none => rfl

end Task

/-- A course with another one after it is started as it is alone. -/
theorem Course.start_andThen (f : ρ → Course ρ) (p : Course ρ) (s : Session) :
    (p.andThen f).start s = (p.start s).1.andThen f (p.start s).2 := by
  cases p with
  | done r => rw [start, andThen, Task.andThen]
  | take step next => rw [andThen, start, start, start_andThen f (next _)]
  | pause ms next =>
    cases ms with
    | zero => rw [andThen, start, start, start_andThen f (next ())]
    | succ ms => rw [andThen, start, start, Task.andThen]
  | fork branches join =>
    rw [andThen, start, start]
    exact Task.joined_andThen fun rs => start_andThen f (join rs) _

namespace Task

/-- A task with a course after it goes on as it does alone. -/
theorem fire_andThen (f : ρ → Course ρ) {t : Task ρ} (h : t.result? = none) (s s' : Session) :
    (t.andThen f s).1.fire s' = (t.fire s').1.andThen f (t.fire s').2 := by
  cases t with
  | finished r => cases h
  | waiting since due next => exact (next ()).start_andThen f s'
  | joining branches join =>
    rw [andThen, fire, fire]
    cases firstTimer? branches with
    | some τ => exact joined_andThen fun rs => (join rs).start_andThen f _
    | none => exact joined_andThen fun rs => (join rs).start_andThen f _

theorem await_andThen (f : ρ → Course ρ) {t : Task ρ} (h : t.result? = none) (s s' : Session) :
    (t.andThen f s).1.await s' = t.await s' := by
  cases t with
  | finished r => cases h
  | waiting | joining => rfl

theorem run_andThen (f : ρ → Course ρ) (t : Task ρ) (s : Session) :
    (t.andThen f s).1.run (t.andThen f s).2 = (t.run s).2.run (f (t.run s).1) := by
  induction t using Task.fires_wf.induction generalizing s with
  | h t ih =>
    cases hresult : t.result? with
    | some r =>
      cases t with
      | finished r' => rw [run_of_result? (t := finished r') rfl, andThen, Session.run]
      | waiting | joining => cases hresult
    | none =>
      have hnext : (t.andThen f s).1.result? = none ∧ (t.andThen f s).2 = s := by
        cases t with
        | finished r => cases hresult
        | waiting | joining => exact ⟨rfl, rfl⟩
      rw [run_of_result?_eq_none hnext.1, hnext.2, await_andThen f hresult,
        fire_andThen f hresult, ih _ ⟨hresult, t.await s, rfl⟩, ← run_of_result?_eq_none hresult]

end Task

/-- **A course after another one runs in what that has left.** -/
theorem Session.run_andThen (s : Session) (p : Course ρ) (f : ρ → Course ρ) :
    s.run (p.andThen f) = (s.run p).2.run (f (s.run p).1) := by
  rw [run, Course.start_andThen]
  exact Task.run_andThen f _ _

end Scenario
