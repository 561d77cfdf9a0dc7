import Scenario.Context
import Scenario.Json.Basic

/-!
# Descriptors

A descriptor describes an action, a template or a test case as a document does: by names, with
what is left out left out.

* `Descriptor` has a case for each kind of action.
* `Descriptor.Kind` is a kind of action, with its name and the names of its fields.
-/

set_option autoImplicit false

namespace Scenario

/-- What a document says of sending a message. -/
structure SendFields where
  endpoint : String
  payload : Json := .null
  headers : Fields Json := []
  messageId : Option String := none
deriving Repr, Inhabited

/-- What a document says of receiving a message. -/
structure ReceiveFields where
  endpoint : String
  payload : Option Json := none
  headers : Fields String := []
  timeout : Option Nat := none
  selector : Option String := none
  extractHeaders : Fields String := []
  extractPayload : Fields String := []
  lenient : Bool := false
deriving Repr, Inhabited

/-- What a document says of a call of a template. -/
structure CallFields where
  template : String
  parameters : Fields Json := []
  globalContext : Option Bool := none
deriving Repr, Inhabited

/-- What a document says of a loop. -/
structure LoopFields where
  count : Option Nat := none
  condition : Option String := none
  index : Option String := none
  start : Option Int64 := none
  step : Option Int64 := none
  maxIterations : Option Nat := none
  sharing : Sharing := .shared
deriving Repr, Inhabited

/-- The description of an action. -/
inductive Descriptor where
  | createVariables (assignments : Fields Json)
  | echo (message : String)
  | sleep (milliseconds : Json)
  | fail (message : String)
  | assertFailure (action : Descriptor) (message : Option String)
  | send (fields : SendFields)
  | receive (fields : ReceiveFields)
  | callTemplate (fields : CallFields)
  | sequential (actions : List Descriptor) (sharing : Sharing)
  | parallel (actions : List Descriptor) (sharing : Sharing)
  | iterate (actions : List Descriptor) (loop : LoopFields)
deriving Repr, Inhabited

/-- The kinds of actions. -/
inductive Descriptor.Kind where
  | createVariables
  | echo
  | sleep
  | fail
  | assertFailure
  | send
  | receive
  | callTemplate
  | sequential
  | parallel
  | iterate
deriving DecidableEq, Repr, Inhabited

namespace Descriptor.Kind

/-- All kinds. -/
def all : List Kind :=
  [.createVariables, .echo, .sleep, .fail, .assertFailure, .send, .receive, .callTemplate,
   .sequential, .parallel, .iterate]

/-- The name of a kind. -/
def name : Kind → String
  | createVariables => "create-variables"
  | echo => "echo"
  | sleep => "sleep"
  | fail => "fail"
  | assertFailure => "assert-failure"
  | send => "send"
  | receive => "receive"
  | callTemplate => "call-template"
  | sequential => "sequential"
  | parallel => "parallel"
  | iterate => "iterate"

/-- The names of the fields of a description, in order. -/
def fieldNames : Kind → List String
  | createVariables => ["variables"]
  | echo => ["message"]
  | sleep => ["milliseconds"]
  | fail => ["message"]
  | assertFailure => ["action", "message"]
  | send => ["endpoint", "payload", "headers", "message_id"]
  | receive => ["endpoint", "payload", "headers", "timeout_ms", "selector", "extract_headers",
      "extract_payload", "lenient"]
  | callTemplate => ["template", "parameters", "global_context"]
  | sequential => ["actions", "scope"]
  | parallel => ["actions", "scope"]
  | iterate => ["actions", "count", "condition", "index", "start", "step", "max_iterations",
      "scope"]

end Descriptor.Kind

/-- The description of a parameter of a template. -/
structure ParameterDescriptor where
  name : String
  default : Option Json := none
deriving Repr, Inhabited

/-- The description of a template. -/
structure TemplateDescriptor where
  name : String
  parameters : List ParameterDescriptor := []
  globalContext : Bool := true
  actions : List Descriptor
deriving Repr, Inhabited

/-- The description of a test case. -/
structure TestDescriptor where
  name : String
  initial : Fields Json := []
  templates : List TemplateDescriptor := []
  actions : List Descriptor
deriving Repr, Inhabited

end Scenario
