import Scenario.Endpoint.Basic
import Scenario.Validation

/-!
# Actions

* `Action` is a step of a scenario: one of several simple ones, or one that holds others.
* `Draft` is a message to be sent and `Receipt` what is done with a message received; both have
  texts in them that are resolved when the action runs.
* `Loop` says how often something is repeated.
* `Action.name` is the name under which the life of an action is reported.
-/

set_option autoImplicit false

namespace Scenario

/-- A message to be sent. -/
structure Draft where
  payload : Json := .null
  headers : Fields Json := []
  id : Option String := none
deriving Repr, Inhabited

/-- What is done with a message received. -/
structure Receipt where
  expectation : MessageExpectation := {}
  strictness : Strictness := .strict
  /-- How long to wait, if not as long as the endpoint says. -/
  timeout : Option Nat := none
  /-- The key of the reply, if not that of the last message sent. -/
  selector : Option String := none
  /-- Variables for headers. -/
  headerVariables : Fields String := []
  /-- Variables for parts of the payload, by pointer. -/
  payloadVariables : Fields String := []
deriving Repr, Inhabited

/-- What ends a loop. -/
inductive Bound where
  | count (passes : Nat)
  | condition (text : String)
deriving DecidableEq, Repr, Inhabited

/-- How often something is repeated.  The index is a number of 64 bits. -/
structure Loop where
  bound : Bound
  /-- The variable for the index. -/
  index : String := "i"
  start : Int64 := 1
  step : Int64 := 1
  /-- The largest number of passes while a condition holds. -/
  limit : Nat := 1000
  sharing : Sharing := .shared
deriving DecidableEq, Repr, Inhabited

/-- A step of a scenario. -/
inductive Action where
  /-- Sets variables one after the other. -/
  | createVariables (assignments : Fields Json)
  | echo (message : String)
  | sleep (milliseconds : String)
  | fail (message : String)
  /-- Succeeds if an action fails, perhaps in a certain way. -/
  | assertFailure (action : Action) (expected : Option String)
  | send (endpoint : Endpoint) (draft : Draft)
  | receive (endpoint : Endpoint) (receipt : Receipt)
  /-- Runs the body of a template with arguments. -/
  | callTemplate (template : String) (arguments : Fields Json) (sharing : Option Sharing)
  /-- Runs actions one after the other. -/
  | sequence (name : String) (sharing : Sharing) (actions : List Action)
  /-- Runs actions side by side. -/
  | parallel (name : String) (sharing : Sharing) (actions : List Action)
  | iterate (loop : Loop) (actions : List Action)
  /-- Counts its executions and notes the values of a variable. -/
  | record (recording : Nat) (name : String) (capture : Option String) (delay : Option Nat)

namespace Action

/-- The usual name of a sequence. -/
def sequenceName : String := "sequential"

/-- The usual name of actions side by side. -/
def parallelName : String := "parallel"

/-- The name under which the life of an action is reported. -/
def name : Action → String
  | createVariables _ => "create-variables"
  | echo _ => "echo"
  | sleep _ => "sleep"
  | fail _ => "fail"
  | assertFailure _ _ => "assert-failure"
  | send _ _ => "send"
  | receive _ _ => "receive"
  | callTemplate template _ _ => s!"call-template:{template}"
  | sequence name _ _ => name
  | parallel name _ _ => name
  | iterate _ _ => "iterate"
  | record _ name _ _ => name

end Action
end Scenario
