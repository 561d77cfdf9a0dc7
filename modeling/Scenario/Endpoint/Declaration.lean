import Scenario.Endpoint.Basic
import Scenario.Settings

/-!
# Declared endpoints

Endpoints with transports in memory can be declared in a document.

* `EndpointDeclaration` is what a document says of an endpoint, and `EndpointDeclaration.read?`
  reads it.
* `Installation` is a set of endpoints in a session.  Endpoints that name the same manager share
  a correlation table; the first of them decides how it is used.
-/

set_option autoImplicit false

namespace Scenario

open Record

/-- What a document says of an endpoint. -/
structure EndpointDeclaration where
  name : String
  transport : Transport
  /-- Whether the messages sent are of interest. -/
  recorded : Bool := false
  correlator : Correlator := .messageId
  settings : Option Endpoint.Settings := none
  /-- The name of a correlation table to share. -/
  manager : Option String := none

/-- Reads what an operation does: the word `echo`, or an object that says what to reply or how to
fail. -/
def Operation.read? : RawJson → Option Operation
  | .string word => if word = "echo" then some .echo else none
  | doc =>
    match doc.member? "reply" with
    | some payload => (value? payload).map .reply
    | none => ((doc.member? "fail").bind text?).map .fail

/-- Reads a prepared reply; null stands for no reply. -/
def PreparedReply.read? : RawJson → Option (Option PreparedReply)
  | .null => some none
  | doc => do
    let fields ← fields? ["payload", "id", "headers"] doc
    let payload ← defaulted fields "payload" .null value?
    let id ← optional fields "id" text?
    let headers ← optional fields "headers" (map? value?)
    return some { payload := payload, id := id, headers := headers.getD [] }

/-- Reads a transport by its kind. -/
def Transport.read? (doc : RawJson) : Option Transport := do
  let kind ← (doc.member? "kind").bind text?
  let fields := (doc.members?).getD []
  if kind = "echo" then
    let latency ← optional fields "latency_ms" natural?
    return .echo (latency.getD 0)
  else if kind = "record" then return .silent
  else if kind = "fail" then
    let reason ← required fields "reason" text?
    return .failing reason
  else if kind = "script" then
    let replies ← optional fields "replies" (list? PreparedReply.read?)
    return .scripted (replies.getD [])
  else if kind = "later" then
    let delay ← optional fields "delay_ms" natural?
    let payload ← defaulted fields "payload" .null value?
    return .late (delay.getD 0) payload
  else if kind = "dispatcher" then
    let operations ← optional fields "operations" (map? Operation.read?)
    return .dispatcher (operations.getD [])
  else none

/-- The correlator for a header; an empty name stands for the correlation header. -/
def Correlator.ofHeader (header : Option String) : Correlator :=
  match header with
  | none => .messageId
  | some name => .header (if name = "" then Message.correlationHeader else name)

/-- Reads a declaration. -/
def EndpointDeclaration.read? (doc : RawJson) : Option EndpointDeclaration := do
  let fields ← fields? ["name", "transport", "header", "config", "manager"] doc
  let name ← required fields "name" text?
  let transport ← required fields "transport" Transport.read?
  let kind ← required fields "transport" fun t => (t.member? "kind").bind text?
  let header ← optional fields "header" text?
  let settings ← optional fields "config" Endpoint.Settings.read?
  let manager ← optional fields "manager" text?
  return {
    name := name, transport := transport, recorded := kind = "record",
    correlator := .ofHeader header, settings := settings, manager := manager }

/-- Endpoints in a session. -/
structure Installation where
  endpoints : Endpoints := []
  /-- The correlation tables that have names. -/
  managers : Fields Manager := []
  /-- The endpoints whose messages are of interest, with their channels. -/
  recorded : List (String × Nat) := []

namespace Installation

/-- Finds the correlation table for a declared endpoint or opens one. -/
def manager (i : Installation) (s : Session) (settings : Endpoint.Settings)
    (name : Option String) : Manager × Installation × Session :=
  match name with
  | none =>
    let (m, s) := s.openManager settings
    (m, i, s)
  | some name =>
    match i.managers.get? name with
    | some m => (m, i, s)
    | none =>
      let (m, s) := s.openManager settings
      (m, { i with managers := i.managers.set name m }, s)

/-- Adds a declared endpoint. -/
def add (i : Installation) (s : Session) (usual : Endpoint.Settings) (d : EndpointDeclaration) :
    Installation × Session :=
  let settings := d.settings.getD usual
  let (m, i, s) := i.manager s settings d.manager
  let (channel, s) := s.openChannel
  let e : Endpoint :=
    { name := d.name, settings := settings, correlator := d.correlator, manager := m,
      transport := d.transport, channel := channel }
  ({ i with
      endpoints := i.endpoints.set d.name e
      recorded := if d.recorded then i.recorded ++ [(d.name, channel)] else i.recorded }, s)

/-- Adds declared endpoints in order; `usual` are the settings of those that give none. -/
def addAll (s : Session) (usual : Endpoint.Settings) (ds : List EndpointDeclaration) :
    Installation × Session :=
  ds.foldl (fun (i, s) d => i.add s usual d) ({}, s)

end Installation
end Scenario
