import Scenario.Action.Execution
import Scenario.Descriptor.Build
import Scenario.Session.Schedule
import Scenario.Settings

/-!
# Test cases

* `TestCase` is a list of actions with variables to begin with, and `TestResult` says how it went.
* `Suite` is what test cases run against: settings, endpoints and templates.
* `Suite.build` makes a test case from its descriptor and registers its templates on the way,
  even if something after them does not make sense.  `Suite.run` runs a test case in a scope of its
  own.
-/

set_option autoImplicit false

namespace Scenario

/-- Actions with variables to begin with. -/
structure TestCase where
  name : String
  initial : Fields Json := []
  actions : List Action := []

/-- How a test case went. -/
structure TestResult where
  name : String
  /-- The identifier of the run. -/
  run : String
  outcome : Outcome
  /-- Milliseconds. -/
  duration : Binary64

namespace TestResult

/-- Whether no action failed. -/
def success (r : TestResult) : Bool :=
  match r.outcome with
  | .ok _ => true
  | .error _ => false

/-- The result as fields. -/
def fields (r : TestResult) : Fields Json :=
  [("duration_ms", .number (.float r.duration)), ("name", .string r.name),
   ("run_id", .string r.run), ("success", .bool r.success)] ++
    match r.outcome with
    | .ok _ => []
    | .error f => [("error", .string f.message), ("error_kind", .string f.kind)]

end TestResult

/-- What test cases run against. -/
structure Suite where
  settings : Settings := {}
  endpoints : Endpoints := []
  templates : Templates := []

namespace Suite

/-- The functions that texts can call. -/
def library (s : Suite) : Library := Library.builtin.withMarker s.settings.marker

/-- Builds templates and registers them, up to the first that makes no sense. -/
def registerAll (s : Suite) : List TemplateDescriptor → Outcome × Suite
  | [] => (.ok (), s)
  | d :: rest =>
    match d.build s.endpoints s.settings.maxIterations with
    | .error f => (.error f, s)
    | .ok t => registerAll { s with templates := s.templates.register t } rest

/-- Makes a test case and registers its templates. -/
def build (s : Suite) (d : TestDescriptor) : Except Failure TestCase × Suite :=
  match s.registerAll d.templates with
  | (.error f, s) => (.error f, s)
  | (.ok _, s) =>
    match Descriptor.buildAll s.endpoints s.settings.maxIterations d.actions with
    | .error f => (.error f, s)
    | .ok actions => (.ok { name := d.name, initial := d.initial, actions := actions }, s)

/-- What a test case does, with the reports of its life around it. -/
def course (s : Suite) (ctx : Context) (t : TestCase) : Course Outcome :=
  .after (do ctx.report (.testStarted t.name); Script.step .now) fun before =>
    (s.templates.runAll ctx t.actions).andThen fun outcome =>
      .ofScript do
        let now ← Script.step .now
        ctx.report (.testFinished t.name outcome.isOk (Binary64.ofNat (now - before)))
        return outcome

/-- Runs a test case. -/
def run (s : Suite) (session : Session) (t : TestCase) : TestResult × Session :=
  let (ctx, begun) := session.begin s.library (Store.ofFields t.initial) (some t.name)
  let (outcome, ended) := begun.run (s.course ctx t)
  ({ name := t.name, run := ctx.run, outcome := outcome,
     duration := Binary64.ofNat (ended.clock - begun.clock) }, ended)

/-- Builds and runs a test case.  One that makes no sense fails at once. -/
def runDescriptor (s : Suite) (session : Session) (d : TestDescriptor) :
    TestResult × Session × Suite :=
  match s.build d with
  | (.ok t, s) =>
    let (result, session) := s.run session t
    (result, session, s)
  | (.error f, s) =>
    let (id, session) := session.generate
    ({ name := d.name, run := id, outcome := .error f, duration := Binary64.zero }, session, s)

end Suite
end Scenario
