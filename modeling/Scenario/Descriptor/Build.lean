import Scenario.Descriptor.Basic
import Scenario.Template

/-!
# From descriptors to actions

`Descriptor.build` makes the action that a descriptor describes.  It looks up endpoints, and gives
loops their usual guard; templates are looked up only when they are called.  The first descriptor
that does not make sense decides the failure: that of a container before those inside it.
-/

set_option autoImplicit false

namespace Scenario

/-- Whether something works on the variables of what is around it. -/
def Sharing.ofGlobal (globalContext : Bool) : Sharing :=
  if globalContext then .shared else .isolated

/-- What a draft is to hold. -/
def SendFields.draft (f : SendFields) : Draft :=
  { payload := f.payload, headers := f.headers, id := f.messageId }

/-- What is to be done with a message received. -/
def ReceiveFields.receipt (f : ReceiveFields) : Receipt where
  expectation := { payload := f.payload, headers := f.headers }
  strictness := if f.lenient then .lenient else .strict
  timeout := f.timeout
  selector := f.selector
  headerVariables := f.extractHeaders
  payloadVariables := f.extractPayload

/-- The loop with some guard. -/
def LoopFields.loop (f : LoopFields) (limit : Nat) : Except Failure Loop :=
  let loop (bound : Bound) : Loop :=
    { bound := bound, index := f.index.getD "i", start := f.start.getD 1, step := f.step.getD 1,
      limit := f.maxIterations.getD limit, sharing := f.sharing }
  match f.count, f.condition with
  | some passes, none => .ok (loop (.count passes))
  | none, some text => .ok (loop (.condition text))
  | _, _ => .error (.configuration "iterate needs exactly one of 'count' or 'condition'")

namespace Descriptor

mutual

/-- The action that is described. -/
def build (endpoints : Endpoints) (limit : Nat) : Descriptor → Except Failure Action
  | createVariables assignments => .ok (.createVariables assignments)
  | echo message => .ok (.echo message)
  | sleep milliseconds => .ok (.sleep milliseconds.asText)
  | fail message => .ok (.fail message)
  | assertFailure action message => do
    let action ← build endpoints limit action
    return .assertFailure action message
  | send fields => do
    let endpoint ← endpoints.find fields.endpoint
    return .send endpoint fields.draft
  | receive fields => do
    let endpoint ← endpoints.find fields.endpoint
    return .receive endpoint fields.receipt
  | callTemplate fields =>
    .ok (.callTemplate fields.template fields.parameters
      (fields.globalContext.map Sharing.ofGlobal))
  | sequential actions sharing => do
    let actions ← buildAll endpoints limit actions
    return .sequence Action.sequenceName sharing actions
  | parallel actions sharing => do
    let actions ← buildAll endpoints limit actions
    return .parallel Action.parallelName sharing actions
  | iterate actions fields => do
    let loop ← fields.loop limit
    let actions ← buildAll endpoints limit actions
    return .iterate loop actions

/-- The actions that are described, in order. -/
def buildAll (endpoints : Endpoints) (limit : Nat) :
    List Descriptor → Except Failure (List Action)
  | [] => .ok []
  | d :: rest => do
    let action ← build endpoints limit d
    let actions ← buildAll endpoints limit rest
    return action :: actions

end

end Descriptor

/-- The parameter that is described. -/
def ParameterDescriptor.build (p : ParameterDescriptor) : Parameter :=
  { name := p.name, default := p.default }

/-- The template that is described. -/
def TemplateDescriptor.build (endpoints : Endpoints) (limit : Nat) (t : TemplateDescriptor) :
    Except Failure Template := do
  let body ← Descriptor.buildAll endpoints limit t.actions
  return {
    name := t.name, parameters := t.parameters.map ParameterDescriptor.build,
    sharing := .ofGlobal t.globalContext, body := body }

end Scenario
