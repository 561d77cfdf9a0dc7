import Scenario.Json.Printer

/-!
# Failures

* `Failure` names what can go wrong while a scenario is set up or runs.  Two kinds wrap others:
  a template whose body failed, and a parallel container with failing branches.
* `kind`, `message` and `report` are three views of a failure: a stable name, a sentence, and a
  document with both and the wrapped failures.
* `rootCause` looks through templates, and `isTimeout` judges what it finds.
-/

set_option autoImplicit false

namespace Scenario

/-- What can go wrong. -/
inductive Failure where
  | unknownVariable (name : String)
  | unresolvable (reference reason : String)
  | function (name reason : String)
  | timeout (message : String) (limit : Nat)
  | unknownTemplate (name : String)
  | template (name : String) (cause : Failure)
  | missingParameter (template parameter : String)
  /-- Failing branches out of `total`, each with its index and the name of its action. -/
  | parallel (total : Nat) (branches : List (Nat × String × Failure))
  | missingKey (keyName : String)
  | validation (detail : String)
  | transport (endpoint reason : String)
  | unknownEndpoint (name : String)
  | unknownOperation (name : String)
  | iterationLimit (limit : Nat)
  | invalidCondition (condition reason : String)
  | action (message : String)
  /-- An action that was expected to fail did not. -/
  | unexpectedSuccess (action : String)
  | configuration (detail : String)
  | serialization (detail : String)
  | io (detail : String)
  | internal (detail : String)
deriving Repr, Inhabited

/-- How a step of a scenario ends. -/
abbrev Outcome := Except Failure Unit

namespace Failure

/-- The stable name of the kind of failure. -/
def kind : Failure → String
  | unknownVariable _ => "UnknownVariable"
  | unresolvable _ _ => "UnresolvableReference"
  | function _ _ => "FunctionEvaluationError"
  | timeout _ _ => "ActionTimeout"
  | unknownTemplate _ => "UnknownTemplate"
  | template _ _ => "TemplateFailed"
  | missingParameter _ _ => "MissingTemplateParameter"
  | parallel _ _ => "ParallelFailure"
  | missingKey _ => "CorrelationKeyMissing"
  | validation _ => "ValidationError"
  | transport _ _ => "TransportError"
  | unknownEndpoint _ => "UnknownEndpoint"
  | unknownOperation _ => "UnknownOperation"
  | iterationLimit _ => "IterationLimit"
  | invalidCondition _ _ => "InvalidCondition"
  | action _ => "ActionFailed"
  | unexpectedSuccess _ => "ExpectedFailure"
  | configuration _ => "ConfigurationError"
  | serialization _ => "SerializationError"
  | io _ => "IoError"
  | internal _ => "InternalError"

mutual

/-- The failure in a sentence. -/
def message : Failure → String
  | unknownVariable name => s!"Unknown variable '{name}'"
  | unresolvable reference reason => s!"Unable to resolve reference '{reference}': {reason}"
  | function name reason => s!"Failed to evaluate function '{name}': {reason}"
  | timeout text limit => s!"Action timeout after {limit}ms: {text}"
  | unknownTemplate name => s!"Unknown template '{name}'"
  | template name cause => s!"Template '{name}' failed: " ++ message cause
  | missingParameter owner parameter => s!"Missing parameter '{parameter}' for template '{owner}'"
  | parallel total branches =>
    s!"{branches.length} of {total} parallel branches failed: " ++
      String.intercalate "; " (branchMessages branches)
  | missingKey keyName => s!"Missing correlation key '{keyName}' in test context"
  | validation detail => s!"Validation failed: {detail}"
  | transport endpoint reason => s!"Transport error on endpoint '{endpoint}': {reason}"
  | unknownEndpoint name => s!"Unknown endpoint '{name}'"
  | unknownOperation name => s!"Unsupported operation '{name}'"
  | iterationLimit limit => s!"Iteration limit of {limit} exceeded"
  | invalidCondition condition reason => s!"Invalid condition '{condition}': {reason}"
  | action text => text
  | unexpectedSuccess name => s!"Expected action '{name}' to fail, but it succeeded"
  | configuration detail => s!"Configuration error: {detail}"
  | serialization detail => s!"Serialization error: {detail}"
  | io detail => s!"IO error: {detail}"
  | internal detail => s!"Internal error: {detail}"

/-- One sentence for each failing branch. -/
def branchMessages : List (Nat × String × Failure) → List String
  | [] => []
  | (index, name, error) :: rest =>
    (s!"[{index}] {name}: " ++ message error) :: branchMessages rest

end

/-- The failure inside all templates around it. -/
def rootCause : Failure → Failure
  | template _ cause => cause.rootCause
  | f => f

/-- Whether a wait ran out, possibly inside templates. -/
def isTimeout : Failure → Bool
  | timeout _ _ => true
  | template _ cause => cause.isTimeout
  | _ => false

mutual

/-- The failure as a document. -/
def report : Failure → Json
  | f@(template name cause) =>
    .object [("cause", report cause), ("message", .string f.message), ("template", .string name),
      ("type", .string f.kind)]
  | f@(parallel total branches) =>
    .object [("failures", .array (branchReports branches)), ("message", .string f.message),
      ("total", Json.ofNat total), ("type", .string f.kind)]
  | f@(timeout _ limit) =>
    .object [("message", .string f.message), ("timeout_ms", Json.ofNat limit),
      ("type", .string f.kind)]
  | f => .object [("message", .string f.message), ("type", .string f.kind)]

/-- The failing branches as documents. -/
def branchReports : List (Nat × String × Failure) → List Json
  | [] => []
  | (index, name, error) :: rest =>
    .object [("action", .string name), ("error", report error), ("index", Json.ofNat index)] ::
      branchReports rest

end

end Failure
end Scenario
