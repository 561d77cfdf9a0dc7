import Scenario.Descriptor.Basic
import Scenario.Json.Reader
import Scenario.Json.Record

/-!
# Reading descriptors

* An action is a record with a tag: an object with a member `type`, or an array that begins with
  the kind.  `Descriptor.read?` reads it from a document, and `TemplateDescriptor.read?` and
  `TestDescriptor.read?` read what holds actions.
* In an action that is inside another one the kind may also be given by its number.
-/

set_option autoImplicit false

namespace Scenario

open Record

/-- The two words for sharing. -/
def Sharing.words : List (String × Sharing) := [("shared", .shared), ("isolated", .isolated)]

/-- Reads the word for sharing. -/
def Sharing.read? : RawJson → Option Sharing := choice? false Sharing.words

namespace Descriptor

/-- Reads the tag of an action; `inside` says that it is inside another one. -/
def kind? (inside : Bool) : RawJson → Option Kind
  | .string name => Kind.all.find? fun k => k.name == name
  | .number (.integer (.ofNat n)) => if inside then Kind.all[n]? else none
  | _ => none

/-- The kind of an action and the fields that a document gives. -/
def tagged? (inside : Bool) : RawJson → Option (Kind × Fields RawJson)
  | .object members =>
    match members.filter fun (name, _) => name == "type" with
    | [(_, tag)] => do
      let kind ← kind? inside tag
      let fields ← fields? kind.fieldNames (.object members)
      return (kind, fields)
    | _ => none
  | .array (tag :: values) => do
    let kind ← kind? inside tag
    let fields ← fields? kind.fieldNames (.array values)
    return (kind, fields)
  | _ => none

/-- Reads the sharing of a container. -/
def sharing? (fields : Fields RawJson) (default : Sharing) : Option Sharing :=
  defaulted fields "scope" default (choice? true Sharing.words)

/-- Reads what is said of sending. -/
def sendFields? (fields : Fields RawJson) : Option SendFields := do
  let endpoint ← required fields "endpoint" text?
  let payload ← defaulted fields "payload" .null value?
  let headers ← defaulted fields "headers" [] (map? value?)
  let messageId ← optional fields "message_id" text?
  return { endpoint := endpoint, payload := payload, headers := headers, messageId := messageId }

/-- Reads what is said of receiving. -/
def receiveFields? (fields : Fields RawJson) : Option ReceiveFields := do
  let endpoint ← required fields "endpoint" text?
  let payload ← optional fields "payload" value?
  let headers ← defaulted fields "headers" [] (map? text?)
  let timeout ← optional fields "timeout_ms" natural?
  let selector ← optional fields "selector" text?
  let extractHeaders ← defaulted fields "extract_headers" [] (map? text?)
  let extractPayload ← defaulted fields "extract_payload" [] (map? text?)
  let lenient ← defaulted fields "lenient" false flag?
  return {
    endpoint := endpoint, payload := payload, headers := headers, timeout := timeout,
    selector := selector, extractHeaders := extractHeaders, extractPayload := extractPayload,
    lenient := lenient }

/-- Reads what is said of a call. -/
def callFields? (fields : Fields RawJson) : Option CallFields := do
  let template ← required fields "template" text?
  let parameters ← defaulted fields "parameters" [] (map? value?)
  let globalContext ← optional fields "global_context" flag?
  return { template := template, parameters := parameters, globalContext := globalContext }

/-- Reads what is said of a loop. -/
def loopFields? (fields : Fields RawJson) : Option LoopFields := do
  let count ← optional fields "count" natural?
  let condition ← optional fields "condition" text?
  let index ← optional fields "index" text?
  let start ← optional fields "start" integer?
  let step ← optional fields "step" integer?
  let maxIterations ← optional fields "max_iterations" natural?
  let sharing ← sharing? fields .shared
  return {
    count := count, condition := condition, index := index, start := start, step := step,
    maxIterations := maxIterations, sharing := sharing }

/-- Reads an action of a kind from its fields, and the actions in it by `inner`. -/
def actionFields? (inner : RawJson → Option Descriptor) (kind : Kind) (fields : Fields RawJson) :
    Option Descriptor :=
  let actions? := required fields "actions" (list? inner)
  match kind with
  | .createVariables => (required fields "variables" (map? value?)).map .createVariables
  | .echo => (required fields "message" text?).map .echo
  | .sleep => (required fields "milliseconds" value?).map .sleep
  | .fail => (required fields "message" text?).map .fail
  | .assertFailure => do
    let action ← required fields "action" inner
    let message ← optional fields "message" text?
    return .assertFailure action message
  | .send => (sendFields? fields).map .send
  | .receive => (receiveFields? fields).map .receive
  | .callTemplate => (callFields? fields).map .callTemplate
  | .sequential => do
    let actions ← actions?
    let sharing ← sharing? fields .shared
    return .sequential actions sharing
  | .parallel => do
    let actions ← actions?
    let sharing ← sharing? fields .isolated
    return .parallel actions sharing
  | .iterate => do
    let actions ← actions?
    let loop ← loopFields? fields
    return .iterate actions loop

/-- Reads an action in which others nest up to some depth. -/
def readNested? : Nat → (inside : Bool) → RawJson → Option Descriptor
  | 0, _, _ => none
  | depth + 1, inside, doc =>
    match tagged? inside doc with
    | none => none
    | some (kind, fields) => actionFields? (readNested? depth true) kind fields

/-- Reads an action from a document.  Since its fields are known only by its tag, all of it must be
readable, those parts included that do not matter. -/
def read? (doc : RawJson) : Option Descriptor :=
  if doc.isReadable then readNested? (RawJson.nesting + 1) false doc else none

end Descriptor

/-- Reads a parameter of a template. -/
def ParameterDescriptor.read? (doc : RawJson) : Option ParameterDescriptor := do
  let fields ← fields? ["name", "default"] doc
  let name ← required fields "name" text?
  let default ← optional fields "default" value?
  return { name := name, default := default }

/-- Reads a template. -/
def TemplateDescriptor.read? (doc : RawJson) : Option TemplateDescriptor := do
  let fields ← fields? ["name", "parameters", "global_context", "actions"] doc
  let name ← required fields "name" text?
  let parameters ← defaulted fields "parameters" [] (list? ParameterDescriptor.read?)
  let globalContext ← defaulted fields "global_context" true flag?
  let actions ← required fields "actions" (list? Descriptor.read?)
  return {
    name := name, parameters := parameters, globalContext := globalContext,
    actions := actions }

/-- Reads a test case. -/
def TestDescriptor.read? (doc : RawJson) : Option TestDescriptor := do
  let fields ← fields? ["name", "variables", "templates", "actions"] doc
  let name ← required fields "name" text?
  let initial ← defaulted fields "variables" [] (map? value?)
  let templates ← defaulted fields "templates" [] (list? TemplateDescriptor.read?)
  let actions ← required fields "actions" (list? Descriptor.read?)
  return { name := name, initial := initial, templates := templates, actions := actions }

/-! ## Documents -/

/-- Reads a document that describes something, in which containers nest as deeply as allowed. -/
def readRecord {α : Type} (read : RawJson → Option α) (doc : RawJson) : Except Failure α :=
  match read (doc.limited RawJson.nesting) with
  | some x => .ok x
  | none => .error (.serialization "malformed document")

/-- Reads a text that holds such a document. -/
def readText {α : Type} (read : RawJson → Option α) (text : String) : Except Failure α :=
  match RawJson.read? text with
  | some doc => readRecord read doc
  | none => .error (.serialization "malformed document")

end Scenario
