import Scenario.Proofs.Action.Log
import Scenario.Suite

/-!
# The events of a run

A run of a test case is signed by one identifier and the name of the test, and its events tell the
lives of its actions between the start and the end of the test.

## What is here

* `Suite.Yields` — a run of a test case can end with some result.  Branches may go on in any order;
  `Suite.yields_run` says that the run of the scheduler is one of those.
* `TestCase.Reports` — what the events of such a run are like, and `Suite.Yields.reports` — that all
  are.
-/

set_option autoImplicit false

namespace Scenario

/-! ## Test cases -/

/-- Whether a run of a test case can end with a result and a session, where branches go on in any
order. -/
def Suite.Yields (suite : Suite) (session : Session) (t : TestCase) (result : TestResult)
    (ended : Session) : Prop :=
  let (ctx, begun) := session.begin suite.library (Store.ofFields t.initial) (some t.name)
  ∃ outcome, Woven (suite.course ctx t, begun) (.done outcome, ended) ∧
    result = { name := t.name, run := ctx.run, outcome := outcome,
               duration := Binary64.ofNat (ended.clock - begun.clock) }

/-- The run of the scheduler is one of them. -/
theorem Suite.yields_run (suite : Suite) (session : Session) (t : TestCase) :
    suite.Yields session t (suite.run session t).1 (suite.run session t).2 :=
  ⟨_, Session.woven_run _ _, rfl⟩

/-- The reports of a test case begin with its start and end with its end. -/
theorem Suite.tells_course (suite : Suite) (ctx : Context) (t : TestCase) :
    (suite.course ctx t).Tells (some ctx.run) ctx.test fun log outcome =>
      ∃ inner duration, log = .testStarted t.name :: (inner ++
        [.testFinished t.name outcome.isOk duration]) ∧
        Logs suite.templates (.all t.actions) inner outcome := by
  refine .after (Q := fun log _ => log = [.testStarted t.name])
    ⟨⟨rfl, rfl⟩, fun _ => ⟨trivial, fun _ => rfl⟩⟩ ?_
  rintro _ before rfl
  refine (logs_executeAll (suite.templates.logs_call _) t.actions ctx).andThen
    fun inner outcome hinner => .ofScript ⟨trivial, fun now => ⟨⟨rfl, rfl⟩, fun _ => ?_⟩⟩
  exact ⟨inner, _, rfl, hinner⟩

/-! ## The events of a run -/

/-- Whether events are those of a run of a test case: all are signed by it, the test starts first
and is finished last, and what lies between is a log of its actions. -/
structure TestCase.Reports (t : TestCase) (templates : Templates) (result : TestResult)
    (events : List Event) (log : List Occurrence) (duration : Binary64) : Prop where
  signed : ∀ e ∈ events, e.run = some result.run ∧ e.test = some t.name
  events : events.map (·.what) =
    .testStarted t.name :: (log ++ [.testFinished t.name result.success duration])
  logs : Logs templates (.all t.actions) log result.outcome
  within : ∀ what ∈ log, what.isLifecycle ∨ what.isIncidental
  nested : (∀ a ∈ t.actions, a.Throughout templates fun b => b.isParallel = false) →
    openActions [] log = some []

/-- **The events of a run are well-formed.**  However a run of a test case ends and in whatever
order branches go on, the events that it adds are those of its test and of the lives of its
actions, each of which starts once and then ends once, as its outcome says. -/
theorem Suite.Yields.reports {suite : Suite} {session ended : Session} {t : TestCase}
    {result : TestResult} (h : suite.Yields session t result ended) :
    ∃ events log duration, ended.events.toList = session.events.toList ++ events ∧
      t.Reports suite.templates result events log duration := by
  obtain ⟨outcome, hwoven, rfl⟩ := h
  obtain ⟨events, hevents, hsigned, log, duration, hshape, hlogs⟩ :=
    (suite.tells_course _ t).woven hwoven
  refine ⟨events, log, duration, hevents, hsigned, ?_, hlogs, hlogs.isLifecycle_or_isIncidental,
    fun hsequential => hlogs.openActions hsequential []⟩
  rw [hshape]
  cases outcome <;> rfl

/-- A branch expects a failure, and another one calls a template whose body fails. -/
theorem reports_failing_template :
    let suite : Suite := { templates := [("t", { name := "t", body := [.echo "a", .fail "b"] })] }
    let t : TestCase := {
      name := "n"
      actions := [.parallel "both" .isolated
        [.assertFailure (.fail "c") none, .callTemplate "t" [] none]] }
    (suite.run {} t).1.success = false ∧
      ∃ events log duration, (suite.run {} t).2.events.toList = events ∧ events.length = 15 ∧
        t.Reports suite.templates (suite.run {} t).1 events log duration := by
  intro suite t
  let ctx : Context := (({} : Session).begin suite.library .empty (some t.name)).1
  let begun : Session := (({} : Session).begin suite.library .empty (some t.name)).2
  have hend : ((suite.course ctx t).start begun).1.result?.map (·.isOk) = some false := by
    decide +kernel
  obtain ⟨outcome, houtcome, hfails⟩ := Option.map_eq_some_iff.1 hend
  have hrun : begun.run (suite.course ctx t) = _ := Session.run_of_result? houtcome
  obtain ⟨events, log, duration, hevents, hreports⟩ := (suite.yields_run {} t).reports
  refine ⟨?_, events, log, duration, hevents, ?_, hreports⟩
  · show (TestResult.mk _ _ (begun.run (suite.course ctx t)).1 _).success = false
    rw [hrun]
    cases outcome with
    | ok _ => cases hfails
    | error _ => rfl
  · have hsize : ((suite.course ctx t).start begun).2.events.size = 15 := by decide +kernel
    have hended : (suite.run {} t).2 = ((suite.course ctx t).start begun).2 :=
      congrArg Prod.snd hrun
    rw [← hsize, ← hended, ← Array.length_toList, hevents]
    rfl

end Scenario
