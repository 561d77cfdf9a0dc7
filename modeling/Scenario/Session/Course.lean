import Scenario.Session.Script

/-!
# Courses

A course is a sequence of steps and pauses that may fork: branches run side by side, and when all
of them have ended the course goes on with their results.

* `Course.andThen` goes on with the result of a course, and `Course.after` with the value of a
  script.
-/

set_option autoImplicit false

namespace Scenario

/-- A sequence of steps and pauses that may fork. -/
inductive Course (ρ : Type) where
  | done (result : ρ)
  | take (step : Step) (next : step.Yield → Course ρ)
  /-- Lets some milliseconds pass. -/
  | pause (ms : Nat) (next : Unit → Course ρ)
  /-- Runs branches side by side and goes on with their results. -/
  | fork (branches : List (Course ρ)) (join : List ρ → Course ρ)

namespace Course

variable {ρ : Type}

/-- Goes on with the result of a course. -/
def andThen : Course ρ → (ρ → Course ρ) → Course ρ
  | done r, f => f r
  | take step next, f => .take step fun y => (next y).andThen f
  | pause ms next, f => .pause ms fun u => (next u).andThen f
  | fork branches join, f => .fork branches fun rs => (join rs).andThen f

/-- Goes on with the value of a script. -/
def after {α : Type} : Script α → (α → Course ρ) → Course ρ
  | .done a, f => f a
  | .take step next, f => .take step fun y => after (next y) f
  | .pause ms next, f => .pause ms fun u => after (next u) f

/-- A script as a course without forks. -/
def ofScript (script : Script ρ) : Course ρ := after script .done

end Course
end Scenario
