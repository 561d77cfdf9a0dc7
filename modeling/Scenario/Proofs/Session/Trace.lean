import Scenario.Proofs.Session.Weave

/-!
# The steps of a script

A script takes its steps one after the other, but what they yield is not up to the script: others
can work in the same session.  So what is known of a script whoever else is there is known of its
steps for all that they can yield.

* `Script.Does` — the steps that a script takes on its way to a value, and what each of them
  yielded.  Such a value is one that the script can end with.
* `Script.Does.of_bind`, `Activity.does_bind` — the steps of what is put together from parts.
* `Course.does_ofScript` — the steps of a course that was made of a script.
-/

set_option autoImplicit false

namespace Scenario

variable {α β : Type}

/-- The steps that a script takes on its way to a value, and what each of them yielded. -/
inductive Script.Does : Script α → List Taken → α → Prop where
  | done (a : α) : Does (.done a) [] a
  | take {step : Step} {next : step.Yield → Script α} {taken : List Taken} {a : α} (y : step.Yield)
    (h : Does (next y) taken a) : Does (.take step next) (⟨step, y⟩ :: taken) a
  | pause {ms : Nat} {next : Unit → Script α} {taken : List Taken} {a : α}
    (h : Does (next ()) taken a) : Does (.pause ms next) taken a

/-- A course that was made of a script takes the steps of the script. -/
theorem Course.does_ofScript {x : Script α} {taken : List Taken} {a : α}
    (h : (Course.ofScript x).Does taken (.done a)) : x.Does taken a := by
  induction x generalizing taken with
  | done b =>
    cases h with
    | refl => exact .done a
    | step hgoes => cases hgoes
  | take step next ih =>
    cases h with
    | step hgoes hrest =>
      cases hgoes with
      | take y => exact .take y (ih y hrest)
  | pause ms next ih =>
    cases h with
    | step hgoes hrest =>
      cases hgoes with
      | pause => exact .pause (ih () hrest)

/-- A script that goes on with another one takes the steps of both. -/
theorem Script.Does.of_bind {x : Script α} {f : α → Script β} {taken : List Taken} {b : β}
    (h : (x.bind f).Does taken b) :
    ∃ before a after, x.Does before a ∧ (f a).Does after b ∧ taken = before ++ after := by
  induction x generalizing taken with
  | done a => exact ⟨[], a, taken, .done a, h, rfl⟩
  | take step next ih =>
    cases h with
    | take y hrest =>
      obtain ⟨before, a, after, hx, hf, rfl⟩ := ih y hrest
      exact ⟨_, a, after, .take y hx, hf, rfl⟩
  | pause ms next ih =>
    cases h with
    | pause hrest =>
      obtain ⟨before, a, after, hx, hf, rfl⟩ := ih () hrest
      exact ⟨before, a, after, .pause hx, hf, rfl⟩

namespace Activity

variable {taken : List Taken}

/-- An activity that goes on with another one takes the steps of both, or fails before. -/
theorem does_bind {x : Activity α} {f : α → Activity β} {outcome : Except Failure β}
    (h : (x >>= f).run.Does taken outcome) :
    (∃ before a after, x.run.Does before (.ok a) ∧ (f a).run.Does after outcome ∧
        taken = before ++ after) ∨
      ∃ failure, x.run.Does taken (.error failure) ∧ outcome = .error failure := by
  obtain ⟨before, result, after, hx, hf, rfl⟩ := Script.Does.of_bind h
  cases result with
  | ok a => exact .inl ⟨before, a, after, hx, hf, rfl⟩
  | error failure =>
    cases hf
    exact .inr ⟨failure, by rwa [List.append_nil], rfl⟩

/-- An activity that goes on with another one and succeeds has succeeded before. -/
theorem does_bind_ok {x : Activity α} {f : α → Activity β} {b : β}
    (h : (x >>= f).run.Does taken (.ok b)) :
    ∃ before a after, x.run.Does before (.ok a) ∧ (f a).run.Does after (.ok b) := by
  rcases does_bind h with ⟨before, a, after, hx, hf, -⟩ | ⟨failure, -, hfailed⟩
  · exact ⟨before, a, after, hx, hf⟩
  · cases hfailed

theorem does_ofExcept {result outcome : Except Failure α}
    (h : (ofExcept result).run.Does taken outcome) : taken = [] ∧ outcome = result := by
  cases h
  exact ⟨rfl, rfl⟩

theorem does_lift {x : Script α} {outcome : Except Failure α}
    (h : (ExceptT.lift x : Activity α).run.Does taken outcome) :
    ∃ a, x.Does taken a ∧ outcome = .ok a := by
  obtain ⟨before, a, after, hx, hf, rfl⟩ := Script.Does.of_bind h
  cases hf
  exact ⟨a, by rwa [List.append_nil], rfl⟩

end Activity

end Scenario
