import Mathlib
import Scenario.Failure

/-!
# What is done in order

Much of what can fail is done part by part: the items of a list are read, resolved or built one
after the other, those inside others among them, and the first failure is that of the whole.  A
computation that goes through a tree in this way and one that goes through a list of its nodes have
little to do with each other as programs, but they fail alike, and for a list it is easily said
when that is.

## What is here

* `mapM_eq_error_iff` and `exists_mapM_iff` — a list of computations fails as its first failing one
  does, and has results if each of them has one.
* `FailsAlike` says of two computations that they fail in the same way, whatever their results are.
  It goes through sequences (`FailsAlike.bind`).
-/

set_option autoImplicit false

namespace Scenario

variable {α α' β β' ε : Type}

/-! ## Results in between -/

theorem exists_of_map_eq_ok {f : α → β} {x : Except ε α} {b : β} (h : x.map f = .ok b) :
    ∃ a, x = .ok a ∧ b = f a := by
  cases x with
  | error e => cases h
  | ok a =>
    cases h
    exact ⟨a, rfl, rfl⟩

theorem map_eq_error_iff {f : α → β} {x : Except ε α} {e : ε} :
    x.map f = .error e ↔ x = .error e := by
  cases x <;> simp [Except.map]

theorem exists_of_bind_eq_ok {x : Except ε α} {f : α → Except ε β} {b : β} (h : x >>= f = .ok b) :
    ∃ a, x = .ok a ∧ f a = .ok b := by
  cases x with
  | error e => cases h
  | ok a => exact ⟨a, rfl, h⟩

/-! ## Lists -/

section Lists

variable {f : α → Except ε β} {xs : List α} {e : ε}

/-- The first element that fails decides. -/
theorem mapM_of_fails {before after : List α} {x : α}
    (hbefore : ∀ y ∈ before, ∃ b, f y = .ok b) (hx : f x = .error e) :
    (before ++ x :: after).mapM f = .error e := by
  induction before with
  | nil =>
    rw [List.nil_append, List.mapM_cons, hx]
    rfl
  | cons y before ih =>
    obtain ⟨⟨b, hb⟩, hrest⟩ := List.forall_mem_cons.1 hbefore
    rw [List.cons_append, List.mapM_cons, hb, ih hrest]
    rfl

/-- If no element fails there is a result for each. -/
theorem exists_mapM (h : ∀ x ∈ xs, ∃ b, f x = .ok b) :
    ∃ bs, xs.mapM f = .ok bs ∧ List.Forall₂ (fun x b => f x = .ok b) xs bs := by
  induction xs with
  | nil => exact ⟨[], rfl, .nil⟩
  | cons x xs ih =>
    obtain ⟨⟨b, hb⟩, hrest⟩ := List.forall_mem_cons.1 h
    obtain ⟨bs, hbs, hall⟩ := ih hrest
    refine ⟨b :: bs, ?_, .cons hb hall⟩
    rw [List.mapM_cons, hb, hbs]
    rfl

/-- Either no element fails or there is a first one that does. -/
theorem forall_ok_or_exists_first (f : α → Except ε β) (xs : List α) :
    (∀ x ∈ xs, ∃ b, f x = .ok b) ∨ ∃ before x after e, xs = before ++ x :: after ∧
      (∀ y ∈ before, ∃ b, f y = .ok b) ∧ f x = .error e := by
  induction xs with
  | nil => exact .inl (List.forall_mem_nil _)
  | cons x xs ih =>
    cases hx : f x with
    | error e => exact .inr ⟨[], x, xs, e, rfl, List.forall_mem_nil _, hx⟩
    | ok b =>
      obtain hall | ⟨before, y, after, e, rfl, hbefore, hy⟩ := ih
      · exact .inl (List.forall_mem_cons.2 ⟨⟨b, hx⟩, hall⟩)
      · exact .inr ⟨x :: before, y, after, e, rfl, List.forall_mem_cons.2 ⟨⟨b, hx⟩, hbefore⟩, hy⟩

/-- **A list fails** as its first failing element does. -/
theorem mapM_eq_error_iff : xs.mapM f = .error e ↔
    ∃ before x after, xs = before ++ x :: after ∧ (∀ y ∈ before, ∃ b, f y = .ok b) ∧
      f x = .error e := by
  constructor
  · intro h
    obtain hall | ⟨before, x, after, e', rfl, hbefore, hx⟩ := forall_ok_or_exists_first f xs
    · obtain ⟨bs, hbs, -⟩ := exists_mapM hall
      cases hbs.symm.trans h
    · cases (mapM_of_fails hbefore hx).symm.trans h
      exact ⟨before, x, after, rfl, hbefore, hx⟩
  · rintro ⟨before, x, after, rfl, hbefore, hx⟩
    exact mapM_of_fails hbefore hx

/-- **A list has results** just if each element has one. -/
theorem exists_mapM_iff : (∃ bs, xs.mapM f = .ok bs) ↔ ∀ x ∈ xs, ∃ b, f x = .ok b := by
  constructor
  · rintro ⟨bs, hbs⟩
    obtain hall | ⟨before, x, after, e, rfl, hbefore, hx⟩ := forall_ok_or_exists_first f xs
    · exact hall
    · cases (mapM_of_fails hbefore hx).symm.trans hbs
  · intro h
    obtain ⟨bs, hbs, -⟩ := exists_mapM h
    exact ⟨bs, hbs⟩

end Lists

/-! ## Failing alike -/

/-- Whether two computations fail in the same way, if at all. -/
def FailsAlike (x : Except ε α) (y : Except ε β) : Prop := ∀ e, x = .error e ↔ y = .error e

namespace FailsAlike

variable {x : Except ε α} {y : Except ε β}

theorem error (e : ε) : FailsAlike (.error e : Except ε α) (.error e : Except ε β) := fun _ => by
  simp only [Except.error.injEq]

theorem ok (a : α) (b : β) : FailsAlike (.ok a : Except ε α) (.ok b) :=
  fun _ => iff_of_false nofun nofun

theorem trans {z : Except ε α'} (h : FailsAlike x y) (h' : FailsAlike y z) : FailsAlike x z :=
  fun e => (h e).trans (h' e)

theorem of_map (x : Except ε α) (f : α → α') : FailsAlike x (x.map f) :=
  fun _ => map_eq_error_iff.symm

theorem map (h : FailsAlike x y) (f : α → α') : FailsAlike (x.map f) y :=
  fun e => map_eq_error_iff.trans (h e)

/-- What succeeds with one succeeds with the other. -/
theorem exists_ok_iff (h : FailsAlike x y) : (∃ a, x = .ok a) ↔ ∃ b, y = .ok b := by
  cases x with
  | error e =>
    obtain rfl := (h e).1 rfl
    exact iff_of_false nofun nofun
  | ok a =>
    cases y with
    | error e => cases (h e).2 rfl
    | ok b => exact iff_of_true ⟨a, rfl⟩ ⟨b, rfl⟩

/-- Two computations one after the other. -/
theorem bind (h : FailsAlike x y) {f : α → Except ε α'} {g : β → Except ε β'}
    (hnext : ∀ a b, FailsAlike (f a) (g b)) : FailsAlike (x >>= f) (y >>= g) := by
  cases x with
  | error e =>
    obtain rfl := (h e).1 rfl
    exact .error e
  | ok a =>
    cases y with
    | error e => cases (h e).2 rfl
    | ok b => exact hnext a b

/-- What fails as the first element of a list, and then as the others do. -/
theorem cons {f : β → Except ε β'} {b : β} {bs : List β} (h : FailsAlike x (f b))
    {next : α → Except ε α'} (hnext : ∀ a, FailsAlike (next a) (bs.mapM f)) :
    FailsAlike (x >>= next) ((b :: bs).mapM f) := by
  rw [List.mapM_cons]
  exact h.bind fun a _ => (hnext a).trans (of_map (bs.mapM f) _)

/-- An element that does not fail makes no difference. -/
theorem cons_ok {f : β → Except ε β'} {b : β} {bs : List β} (h : FailsAlike x (bs.mapM f))
    {b' : β'} (hb : f b = .ok b') : FailsAlike x ((b :: bs).mapM f) := by
  rw [List.mapM_cons, hb]
  exact h.trans (of_map (bs.mapM f) _)

/-- A list of one fails as this one does. -/
theorem singleton (f : α → Except ε β) (a : α) : FailsAlike (f a) ([a].mapM f) := by
  rw [List.mapM_cons]
  cases f a with
  | error e => exact .error e
  | ok b => exact .ok b [b]

end FailsAlike

end Scenario
