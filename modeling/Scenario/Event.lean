import Scenario.Json.Basic

/-!
# Events

* `Occurrence` is what can be reported of a run.
* `Event` is an occurrence with the run and the test it belongs to and the time it happened.
  `Event.data` is its content as fields sorted by name.
-/

set_option autoImplicit false

namespace Scenario

/-- What can be reported. -/
inductive Occurrence where
  | actionStarted (action : String)
  | actionSucceeded (action : String) (duration : Binary64)
  | actionFailed (action reason : String) (duration : Binary64)
  /-- A wait for a reply under a key ran out. -/
  | keyTimeout (keyName key : String)
  | testStarted (test : String)
  | testFinished (test : String) (success : Bool) (duration : Binary64)
  | echo (message : String)
  | custom (kind : String) (data : Fields Json)
deriving Repr, Inhabited

namespace Occurrence

/-- The name of the kind of occurrence. -/
def kind : Occurrence → String
  | actionStarted _ => "action-started"
  | actionSucceeded _ _ => "action-succeeded"
  | actionFailed _ _ _ => "action-failed"
  | keyTimeout _ _ => "correlation-timeout"
  | testStarted _ => "test-started"
  | testFinished _ _ _ => "test-finished"
  | echo _ => "echo"
  | custom kind _ => kind

/-- The content of an occurrence. -/
def data : Occurrence → Fields Json
  | actionStarted action => [("action", .string action)]
  | actionSucceeded action duration =>
    [("action", .string action), ("duration_ms", .number (.float duration))]
  | actionFailed action reason duration =>
    [("action", .string action), ("duration_ms", .number (.float duration)),
     ("reason", .string reason)]
  | keyTimeout keyName key => [("keyName", .string keyName), ("keyValue", .string key)]
  | testStarted test => [("test", .string test)]
  | testFinished test success duration =>
    [("duration_ms", .number (.float duration)), ("success", .bool success),
     ("test", .string test)]
  | echo message => [("message", .string message)]
  | custom _ data => data

/-- Whether the occurrence reports the life of an action. -/
def isLifecycle : Occurrence → Bool
  | actionStarted _ => true
  | actionSucceeded _ _ => true
  | actionFailed _ _ _ => true
  | _ => false

end Occurrence

/-- Something that happened. -/
structure Event where
  what : Occurrence
  /-- The run it belongs to, if any. -/
  run : Option String := none
  test : Option String := none
  /-- Milliseconds on the clock of the run. -/
  time : Nat := 0
deriving Repr, Inhabited

namespace Event

/-- The content of an event, with its run and test, sorted by name. -/
def data (e : Event) : Fields Json :=
  let withRun := match e.run with
    | some id => (Fields.merge e.what.data).set "run_id" (.string id)
    | none => Fields.merge e.what.data
  let withTest := match e.test with
    | some name => withRun.set "test" (.string name)
    | none => withRun
  withTest.sorted

/-- The text under a name in the content. -/
def text? (e : Event) (name : String) : Option String :=
  (e.data.get? name).bind Json.string?

/-- The events whose kind starts with some text. -/
def ofKind (start : String) (events : List Event) : List Event :=
  events.filter fun e => start.toList.isPrefixOf e.what.kind.toList

/-- The messages of events whose kind starts as that of an echo. -/
def echoed (events : List Event) : List String :=
  (ofKind "echo" events).filterMap (·.text? "message")

end Event
end Scenario
