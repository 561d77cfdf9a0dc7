import Scenario.Descriptor.Basic
import Scenario.Json.Printer
import Scenario.Json.Record

/-!
# Writing descriptors

`document` is a descriptor as a document: the kind first, then the fields in order.  Fields that
may be left out are left out when they say nothing.
-/

set_option autoImplicit false

namespace Scenario

open Record

/-- The word for sharing. -/
def Sharing.word : Sharing → String
  | shared => "shared"
  | isolated => "isolated"

/-- The fields of sending. -/
def SendFields.members (f : SendFields) : Fields Json :=
  [("endpoint", .string f.endpoint), ("payload", f.payload)] ++
    mapField "headers" id f.headers ++
    optionalField "message_id" .string f.messageId

/-- The fields of receiving. -/
def ReceiveFields.members (f : ReceiveFields) : Fields Json :=
  [("endpoint", .string f.endpoint)] ++
    optionalField "payload" id f.payload ++
    mapField "headers" .string f.headers ++
    optionalField "timeout_ms" Json.ofNat f.timeout ++
    optionalField "selector" .string f.selector ++
    mapField "extract_headers" .string f.extractHeaders ++
    mapField "extract_payload" .string f.extractPayload ++
    [("lenient", .bool f.lenient)]

/-- The fields of a call. -/
def CallFields.members (f : CallFields) : Fields Json :=
  [("template", .string f.template)] ++
    mapField "parameters" id f.parameters ++
    optionalField "global_context" .bool f.globalContext

/-- The fields of a loop. -/
def LoopFields.members (f : LoopFields) : Fields Json :=
  optionalField "count" Json.ofNat f.count ++
    optionalField "condition" .string f.condition ++
    optionalField "index" .string f.index ++
    optionalField "start" (Json.ofInt ·.toInt) f.start ++
    optionalField "step" (Json.ofInt ·.toInt) f.step ++
    optionalField "max_iterations" Json.ofNat f.maxIterations ++
    [("scope", .string f.sharing.word)]

namespace Descriptor

/-- A description of a kind with its fields. -/
def tagged (kind : Kind) (fields : Fields Json) : Json :=
  .object (("type", .string kind.name) :: fields)

mutual

/-- An action as a document. -/
def document : Descriptor → Json
  | createVariables assignments =>
    tagged .createVariables [("variables", .object assignments)]
  | echo message => tagged .echo [("message", .string message)]
  | sleep milliseconds => tagged .sleep [("milliseconds", milliseconds)]
  | fail message => tagged .fail [("message", .string message)]
  | assertFailure action message =>
    tagged .assertFailure
      (("action", document action) :: optionalField "message" .string message)
  | send fields => tagged .send fields.members
  | receive fields => tagged .receive fields.members
  | callTemplate fields => tagged .callTemplate fields.members
  | sequential actions sharing =>
    tagged .sequential
      [("actions", .array (documents actions)), ("scope", .string sharing.word)]
  | parallel actions sharing =>
    tagged .parallel
      [("actions", .array (documents actions)), ("scope", .string sharing.word)]
  | iterate actions loop =>
    tagged .iterate (("actions", .array (documents actions)) :: loop.members)

/-- Actions as documents. -/
def documents : List Descriptor → List Json
  | [] => []
  | d :: rest => document d :: documents rest

end

end Descriptor

/-- A parameter of a template as a document. -/
def ParameterDescriptor.document (p : ParameterDescriptor) : Json :=
  .object (("name", .string p.name) :: optionalField "default" id p.default)

/-- A template as a document. -/
def TemplateDescriptor.document (t : TemplateDescriptor) : Json :=
  .object
    [("name", .string t.name),
     ("parameters", .array (t.parameters.map ParameterDescriptor.document)),
     ("global_context", .bool t.globalContext),
     ("actions", .array (Descriptor.documents t.actions))]

/-- A test case as a document. -/
def TestDescriptor.document (t : TestDescriptor) : Json :=
  let templates : Fields Json :=
    if t.templates.isEmpty then []
    else [("templates", .array (t.templates.map TemplateDescriptor.document))]
  .object
    ([("name", .string t.name)] ++ mapField "variables" id t.initial ++ templates ++
      [("actions", .array (Descriptor.documents t.actions))])

/-- A test case as a text. -/
def TestDescriptor.text (t : TestDescriptor) : String := t.document.text

end Scenario
