import Scenario.Failure
import Scenario.Message

/-!
# Transports

A transport takes messages and may answer them.  What it is like is said by the time it needs and
by its response to each message.

* `Response` is what may come of a message: a failure, nothing, a reply at once, or a reply that
  arrives later.
* `Transport.echo`, `silent`, `failing`, `scripted`, `late` and `dispatcher` are transports that
  keep everything in memory.
* `Operations.invoke` answers a request by the operation that its header names.
-/

set_option autoImplicit false

namespace Scenario

/-- What comes of a message. -/
inductive Response where
  | failure (f : Failure)
  | silence
  | reply (m : Message)
  /-- A reply that arrives after a delay. -/
  | later (delay : Nat) (m : Message)
deriving Repr

/-- What a transport is asked. -/
structure Dispatch where
  endpoint : String
  /-- The number of messages before this one. -/
  earlier : Nat
  request : Message
  /-- An answer to the request without a payload. -/
  blank : Message
deriving Repr

/-- A way for messages to take. -/
structure Transport where
  /-- The time a message needs. -/
  latency : Nat := 0
  respond : Dispatch → Response

namespace Dispatch

/-- The answer to the request with a payload. -/
def answer (d : Dispatch) (payload : Json) : Message := { d.blank with payload := payload }

end Dispatch

/-! ## Operations -/

/-- What an operation does with a request. -/
inductive Operation where
  /-- Replies with the payload of the request. -/
  | echo
  | reply (payload : Json)
  | fail (message : String)
deriving Repr

/-- Operations by name. -/
abbrev Operations := Fields Operation

namespace Operation

/-- The payload of the reply to a request. -/
def apply (request : Message) : Operation → Except Failure Json
  | echo => .ok request.payload
  | reply payload => .ok payload
  | fail message => .error (.action message)

end Operation

namespace Operations

/-- The names of all operations in order. -/
def listed (operations : Operations) : List String := (Fields.sorted operations).names

/-- Answers a request by the operation that it names; `blank` is the answer without a payload. -/
def invoke (operations : Operations) (request blank : Message) : Except Failure Message :=
  let name := (request.headerText? Message.operationHeader).getD ""
  match operations.get? name with
  | none => .error (.unknownOperation name)
  | some operation => do
    let payload ← operation.apply request
    return { blank with payload := payload }.withHeader Message.operationHeader (.string name)

end Operations

/-! ## Transports in memory -/

/-- A prepared reply. -/
structure PreparedReply where
  payload : Json := .null
  id : Option String := none
  headers : Fields Json := []
deriving Repr

/-- The prepared reply as an answer to a request. -/
def PreparedReply.complete (p : PreparedReply) (blank : Message) : Message :=
  { blank with payload := p.payload, id := p.id.getD blank.id }.withHeaders p.headers

namespace Transport

/-- Answers with the payload and the headers of the request. -/
def echo (latency : Nat) : Transport where
  latency := latency
  respond d := .reply ((d.answer d.request.payload).copyHeaders d.request.headers)

/-- Never answers. -/
def silent : Transport where
  respond _ := .silence

/-- Always fails. -/
def failing (reason : String) : Transport where
  respond d := .failure (.transport d.endpoint reason)

/-- Answers each message by the next of several prepared replies, as long as there are some. -/
def scripted (replies : List (Option PreparedReply)) : Transport where
  respond d :=
    match replies[d.earlier]? with
    | some (some prepared) => .reply (prepared.complete d.blank)
    | _ => .silence

/-- Answers after a delay, with the headers of the request. -/
def late (delay : Nat) (payload : Json) : Transport where
  respond d := .later delay ((d.answer payload).copyHeaders d.request.headers)

/-- Answers by the operation that a request names. -/
def dispatcher (operations : Operations) : Transport where
  respond d :=
    match operations.invoke d.request d.blank with
    | .ok m => .reply m
    | .error f => .failure f

end Transport
end Scenario
