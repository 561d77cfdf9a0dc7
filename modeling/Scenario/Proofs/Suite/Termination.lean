import Scenario.Proofs.Action.Acyclic
import Scenario.Proofs.Action.Scheduled
import Scenario.Suite

/-!
# Runs terminate

A test case ends, whatever is in it: loops with any condition, waits with any timeout, calls in the
bodies of templates, and all of these inside of each other.  The only thing that is asked for is
that templates do not call themselves, and this is needed (`Templates.not_halts_call_self`).

## What is here

* `TestCase.work` — a test case as work, with nothing that counts down, and `Suite.unfolds_work` —
  it is the course that is run.
* `Suite.run_terminates` — the main result: a test case cannot go on for ever, in whatever order
  branches go on and whatever others do to the session meanwhile; it does not stop before it has an
  outcome; and the scheduler comes to the outcome that a run has.
-/

set_option autoImplicit false

namespace Scenario

/-- What a test case does, with the reports of its life around it. -/
def TestCase.work (t : TestCase) (ctx : Context) : Work :=
  .after (do ctx.report (.testStarted t.name); Script.step .now) fun before =>
    .actions ctx t.actions fun outcome =>
      .after (do
        let now ← Script.step .now
        ctx.report (.testFinished t.name outcome.isOk (Binary64.ofNat (now - before)))
        return outcome) .done

namespace Suite

variable {suite : Suite}

/-- **A test case is the course that is run**, whose counts never run out. -/
theorem unfolds_work (h : suite.templates.Acyclic) (ctx : Context) (t : TestCase) (time : Nat) :
    (t.work ctx).Unfolds suite.templates time (suite.course ctx t) := by
  have hcalls : Work.RealizesCalls suite.templates suite.templates.invoke (calleesAll t.actions) :=
    Templates.realizes_invoke h _
  refine Work.unfolds_after fun before time₁ _ => ?_
  exact Work.realizes_actions t.actions hcalls ctx fun outcome time₂ _ =>
    Work.unfolds_after Work.resumes_done

/-- **Runs terminate** if templates do not call themselves.  No run of a test case goes on for ever,
whatever the session is and whatever others do to it meanwhile; where a run cannot go on it has an
outcome; and the scheduler comes to such an end. -/
theorem run_terminates (h : suite.templates.Acyclic) (session : Session) (t : TestCase) :
    let (ctx, begun) := session.begin suite.library (Store.ofFields t.initial) (some t.name)
    let start : Work × Session := (t.work ctx, begun)
    (¬ ∃ run : Nat → Work × Session, run 0 = start ∧
      ∀ n, Work.Later suite.templates (run n) (run (n + 1))) ∧
    (∀ b, Relation.ReflTransGen (Work.Later suite.templates) start b →
      (∀ c, ¬ Work.Later suite.templates b c) → ∃ outcome, b.1 = .done outcome) ∧
    Work.Runs suite.templates start
      (.done (suite.run session t).1.outcome, (suite.run session t).2) := by
  have hunfolds := unfolds_work h
    (session.begin suite.library (Store.ofFields t.initial) (some t.name)).1 t
    (session.begin suite.library (Store.ofFields t.initial) (some t.name)).2.clock
  refine ⟨hunfolds.halts.not_endless, fun b _ hstuck => ?_, Work.runs_run hunfolds⟩
  rcases Work.exists_later b.1 b.2 with hdone | ⟨c, hc⟩
  · exact hdone
  · exact absurd hc (hstuck c)

/-- A template loops while a condition holds that always does, and calls another template in each
pass.  It is stopped at the limit of the loop. -/
theorem run_terminates_at_limit :
    let inner : Template := { name := "inner", body := [.echo "a"] }
    let outer : Template := { name := "outer", body :=
      [.iterate { bound := .condition "true", limit := 2 } [.callTemplate "inner" [] none]] }
    let suite : Suite := { templates := [("inner", inner), ("outer", outer)] }
    let t : TestCase := { name := "n", actions := [.callTemplate "outer" [] none] }
    let (ctx, begun) := ({} : Session).begin suite.library (Store.ofFields t.initial) (some t.name)
    suite.templates.Acyclic ∧
    (¬ ∃ run : Nat → Work × Session, run 0 = (t.work ctx, begun) ∧
      ∀ n, Work.Later suite.templates (run n) (run (n + 1))) ∧
    ∃ e ended, Work.Runs suite.templates (t.work ctx, begun) (.done (.error e), ended) ∧
      e.layers = ["outer"] ∧ e.rootCause.message = (Failure.iterationLimit 2).message := by
  intro inner outer suite t
  let ctx : Context := (({} : Session).begin suite.library .empty (some t.name)).1
  let begun : Session := (({} : Session).begin suite.library .empty (some t.name)).2
  have hacyclic : suite.templates.Acyclic :=
    .of_rank (fun name => if name = "outer" then 1 else 0) (by decide)
  have hend : ((suite.course ctx t).start begun).1.result?.map
        (Except.mapError fun f => (f.layers, f.rootCause.message)) =
      some (.error (["outer"], (Failure.iterationLimit 2).message)) := by
    decide +kernel
  obtain ⟨outcome, houtcome, hfails⟩ := Option.map_eq_some_iff.1 hend
  obtain ⟨hfinite, -, hruns⟩ := run_terminates hacyclic {} t
  refine ⟨hacyclic, hfinite, ?_⟩
  cases outcome with
  | ok _ => cases hfails
  | error e =>
    have he : (suite.run {} t).1.outcome = .error e :=
      congrArg Prod.fst (Session.run_of_result? houtcome)
    have hfailure : (e.layers, e.rootCause.message) = _ := Except.error.inj hfails
    rw [he] at hruns
    exact ⟨e, _, hruns, congrArg Prod.fst hfailure, congrArg Prod.snd hfailure⟩

end Suite
end Scenario
