import Scenario.Session.Course

/-!
# Scripts and courses one after the other

Going on with another script is associative and does nothing where nothing follows, so that scripts
are a lawful monad.  A script that was put together from smaller ones can then be brought into the
form in which its first step stands in front, which is the form in which it is run.  The same holds
of courses, and of courses after scripts.
-/

set_option autoImplicit false

namespace Scenario

namespace Script

variable {α β γ : Type}

theorem bind_assoc (x : Script α) (f : α → Script β) (g : β → Script γ) :
    (x.bind f).bind g = x.bind fun a => (f a).bind g := by
  induction x with
  | done a => rfl
  | take step next ih => simp only [Script.bind, ih]
  | pause ms next ih => simp only [Script.bind, ih]

theorem bind_done (x : Script α) : x.bind done = x := by
  induction x with
  | done a => rfl
  | take step next ih => simp only [Script.bind, ih]
  | pause ms next ih => simp only [Script.bind, ih]

instance : LawfulMonad Script :=
  LawfulMonad.mk' Script (fun x => bind_done x) (fun _ _ => rfl) bind_assoc

end Script

namespace Course

variable {α ρ : Type}

theorem after_andThen (x : Script α) (f : α → Course ρ) (g : ρ → Course ρ) :
    (after x f).andThen g = after x fun a => (f a).andThen g := by
  induction x with
  | done a => rfl
  | take step next ih => simp only [after, andThen, ih]
  | pause ms next ih => simp only [after, andThen, ih]

theorem after_bind {β : Type} (x : Script α) (f : α → Script β) (g : β → Course ρ) :
    after (x.bind f) g = after x fun a => after (f a) g := by
  induction x with
  | done a => rfl
  | take step next ih => simp only [Script.bind, after, ih]
  | pause ms next ih => simp only [Script.bind, after, ih]

theorem andThen_assoc : (p : Course ρ) → (f g : ρ → Course ρ) →
    (p.andThen f).andThen g = p.andThen fun r => (f r).andThen g
  | .done _, _, _ => rfl
  | .take step next, f, g => congrArg (take step) (funext fun y => andThen_assoc (next y) f g)
  | .pause ms next, f, g => congrArg (pause ms) (funext fun u => andThen_assoc (next u) f g)
  | .fork branches join, f, g =>
    congrArg (fork branches) (funext fun rs => andThen_assoc (join rs) f g)

theorem andThen_done : (p : Course ρ) → p.andThen .done = p
  | .done _ => rfl
  | .take step next => congrArg (take step) (funext fun y => andThen_done (next y))
  | .pause ms next => congrArg (pause ms) (funext fun u => andThen_done (next u))
  | .fork branches join => congrArg (fork branches) (funext fun rs => andThen_done (join rs))

theorem ofScript_andThen (x : Script ρ) (g : ρ → Course ρ) : (ofScript x).andThen g = after x g :=
  after_andThen x .done g

end Course

end Scenario
