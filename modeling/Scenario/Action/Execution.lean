import Scenario.Action.Simple
import Scenario.Condition
import Scenario.Session.Course
import Scenario.Template
import Scenario.Text.Words

/-!
# Running actions

* `Action.execute` is what an action does in a context, as a course.  It is given what a call of
  a template does.
* `bracketed` puts the reports of the life of an action around it, and `executeAll` runs actions
  one after the other until one fails.
* `Templates.call` runs the body of a template, in which calls may nest up to some depth.
* `Templates.run` and `Templates.runAll` run actions with calls nesting as deep as
  `Templates.depth`, which is more than templates that do not call themselves can nest.
-/

set_option autoImplicit false

namespace Scenario

open Text

/-- What a call of a template does. -/
abbrev Caller := (template : String) → (arguments : Fields Json) → Option Sharing → Context →
  Course Outcome

/-- Puts the reports of the life of an action around it. -/
def bracketed (ctx : Context) (name : String) (p : Course Outcome) : Course Outcome :=
  .after (do ctx.report (.actionStarted name); Script.step .now) fun before =>
    p.andThen fun outcome =>
      .ofScript do
        let now ← Script.step .now
        let duration := Binary64.ofNat (now - before)
        match outcome with
        | .ok _ => ctx.report (.actionSucceeded name duration)
        | .error f => ctx.report (.actionFailed name f.message duration)
        return outcome

/-- An activity as a course. -/
def Course.ofActivity (a : Activity Unit) : Course Outcome := .ofScript (ExceptT.run a)

/-- Goes on if a course succeeds. -/
def Course.onSuccess (p : Course Outcome) (next : Unit → Course Outcome) : Course Outcome :=
  p.andThen fun outcome =>
    match outcome with
    | .ok _ => next ()
    | .error f => .done (.error f)

/-! ## Side by side -/

/-- The failures among the outcomes of branches; the first branch has the given index. -/
def branchFailures (index : Nat) : List String → List Outcome → List (Nat × String × Failure)
  | name :: names, .error f :: outcomes =>
    (index, name, f) :: branchFailures (index + 1) names outcomes
  | _ :: names, .ok _ :: outcomes => branchFailures (index + 1) names outcomes
  | _, _ => []

/-- The outcome of actions side by side. -/
def joinOutcomes (names : List String) (outcomes : List Outcome) : Outcome :=
  match branchFailures 0 names outcomes with
  | [] => .ok ()
  | failures => .error (.parallel names.length failures)

/-- What comes of a branch that is joined: what it has ended with, or why it was broken off. -/
inductive Joined where
  | ended (outcome : Outcome)
  | broken (reason : String)

/-- The outcome that a branch counts with. -/
def Joined.outcome : Joined → Outcome
  | ended outcome => outcome
  | broken reason => .error (.internal s!"branch task failed: {reason}")

/-- The outcome of actions side by side whose branches were joined. -/
def joinBranches (names : List String) (joined : List Joined) : Outcome :=
  joinOutcomes names (joined.map Joined.outcome)

/-- Branches that all have ended. -/
theorem joinBranches_ended (names : List String) (outcomes : List Outcome) :
    joinBranches names (outcomes.map .ended) = joinOutcomes names outcomes := by
  rw [joinBranches, List.map_map]
  exact congrArg _ (List.map_id outcomes)

/-! ## Loops -/

namespace Loop

/-- Sets the index. -/
def setIndex (l : Loop) (ctx : Context) (index : Int64) : Script Unit :=
  Script.step (.write ctx.scope l.index (Json.ofInt index.toInt))

/-- Whether a condition holds for an index. -/
def holds (l : Loop) (condition : String) (index : Int64) (lib : Library) (store : Store) :
    Except Failure Bool := do
  let resolved ← resolve lib store condition
  Condition.evaluate (String.ofList
    (substituteWord l.index.toList (Whole.writeInt index.toInt) resolved.toList))

/-- Repeats something a number of times.  An index that leaves its range goes on at the other
end. -/
def repeatCount (l : Loop) (ctx : Context) (body : Course Outcome) :
    Nat → Int64 → Course Outcome
  | 0, index => .after (l.setIndex ctx index) fun _ => .done (.ok ())
  | n + 1, index =>
    .after (l.setIndex ctx index) fun _ =>
      body.onSuccess fun _ => repeatCount l ctx body n (index + l.step)

/-- Sets the index and goes on if the condition holds then. -/
def whenHolds (l : Loop) (ctx : Context) (condition : String) (index : Int64)
    (next : Unit → Course Outcome) : Course Outcome :=
  let check : Script (Except Failure Bool) := do
    l.setIndex ctx index
    let store ← Script.step (.read ctx.scope)
    return l.holds condition index ctx.library store
  .after check fun verdict =>
    match verdict with
    | .error f => .done (.error f)
    | .ok false => .done (.ok ())
    | .ok true => next ()

/-- Repeats something while a condition holds, up to a number of times. -/
def repeatWhile (l : Loop) (ctx : Context) (condition : String) (body : Course Outcome) :
    Nat → Int64 → Course Outcome
  | 0, index =>
    l.whenHolds ctx condition index fun _ => .done (.error (.iterationLimit l.limit))
  | left + 1, index =>
    l.whenHolds ctx condition index fun _ =>
      body.onSuccess fun _ => repeatWhile l ctx condition body left (index + l.step)

/-- Repeats something as a loop says. -/
def repeated (l : Loop) (ctx : Context) (body : Course Outcome) : Course Outcome :=
  match l.bound with
  | .count passes => l.repeatCount ctx body passes l.start
  | .condition text => l.repeatWhile ctx text body l.limit l.start

end Loop

/-! ## Actions -/

mutual

/-- What an action does in a context. -/
def Action.execute (call : Caller) (ctx : Context) : Action → Course Outcome
  | .createVariables assignments => .ofActivity (ctx.assign assignments)
  | .echo message => .ofActivity (ctx.echo message)
  | .sleep milliseconds => .ofActivity (ctx.sleep milliseconds)
  | .fail message => .ofActivity (ctx.fail message)
  | .assertFailure action expected =>
    (bracketed ctx action.name (action.execute call ctx)).andThen fun outcome =>
      .ofActivity (ctx.judgeFailure action.name expected outcome)
  | .send endpoint draft => .ofActivity (ctx.send endpoint draft)
  | .receive endpoint receipt => .ofActivity (ctx.receive endpoint receipt)
  | .callTemplate template arguments sharing => call template arguments sharing ctx
  | .sequence _ sharing actions =>
    .after (ctx.derive sharing) fun inner => executeAll call inner actions
  | .parallel _ sharing actions =>
    .after (ctx.deriveMany sharing actions.length) fun contexts =>
      .fork (executeEach call contexts actions) fun outcomes =>
        .done (joinBranches (actions.map Action.name) (outcomes.map .ended))
  | .iterate loop actions =>
    .after (ctx.derive loop.sharing) fun inner =>
      loop.repeated inner (executeAll call inner actions)
  | .record recording _ capture delay => .ofActivity (ctx.record recording capture delay)

/-- Runs actions one after the other until one fails, each with its reports. -/
def executeAll (call : Caller) (ctx : Context) : List Action → Course Outcome
  | [] => .done (.ok ())
  | action :: rest =>
    (bracketed ctx action.name (action.execute call ctx)).onSuccess fun _ =>
      executeAll call ctx rest

/-- Runs actions in contexts of their own, each with its reports. -/
def executeEach (call : Caller) : List Context → List Action → List (Course Outcome)
  | ctx :: contexts, action :: rest =>
    bracketed ctx action.name (action.execute call ctx) :: executeEach call contexts rest
  | _, _ => []

end

/-! ## Templates -/

namespace Templates

/-- Puts the name of a template around a failure of its body. -/
def wrap (template : String) : Outcome → Outcome
  | .ok _ => .ok ()
  | .error f => .error (.template template f)

/-- What a call does before the body runs: it finds the template and the context of the body. -/
def enter (templates : Templates) (name : String) (arguments : Fields Json)
    (sharing : Option Sharing) (ctx : Context) : Activity (Template × Context) := do
  let template ← Activity.ofExcept (templates.find name)
  let store ← ctx.store
  let bindings ← Activity.ofExcept (template.bind ctx.library store arguments)
  let inner ← ExceptT.lift (ctx.derive (sharing.getD template.sharing))
  inner.setAll bindings
  return (template, inner)

/-- Runs a template; calls in its body may nest up to some depth. -/
def call (templates : Templates) : (depth : Nat) → Caller
  | 0, _, _, _, _ => .done (.error (.internal "template calls nest too deeply"))
  | depth + 1, name, arguments, sharing, ctx =>
    .after (ExceptT.run (templates.enter name arguments sharing ctx)) fun entered =>
      match entered with
      | .error f => .done (.error f)
      | .ok (template, inner) =>
        (executeAll (templates.call depth) inner template.body).andThen fun outcome =>
          .done (wrap name outcome)

/-- How deep calls may nest. -/
def depth (templates : Templates) : Nat := templates.length + 1000000

/-- Calls a template. -/
def invoke (templates : Templates) : Caller := templates.call templates.depth

/-- Runs an action with its reports. -/
def run (templates : Templates) (ctx : Context) (action : Action) : Course Outcome :=
  bracketed ctx action.name (action.execute templates.invoke ctx)

/-- Runs actions one after the other until one fails. -/
def runAll (templates : Templates) (ctx : Context) (actions : List Action) : Course Outcome :=
  executeAll templates.invoke ctx actions

end Templates
end Scenario
