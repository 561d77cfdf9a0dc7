import Scenario.Correlation.Table
import Scenario.Json.Printer
import Scenario.Json.Record
import Scenario.Validation

/-!
# Documents

Messages, expectations, states of keys and events as documents: `read?` reads one, and `document`
writes it with its fields in order.
-/

set_option autoImplicit false

namespace Scenario

open Record Correlation

/-- Reads a message. -/
def Message.read? (doc : RawJson) : Option Message := do
  let fields ← fields? ["id", "headers", "payload", "timestamp"] doc
  let id ← required fields "id" text?
  let headers ← defaulted fields "headers" [] (map? value?)
  let payload ← defaulted fields "payload" .null value?
  let timestamp ← required fields "timestamp" text?
  return { id := id, headers := headers, payload := payload, timestamp := timestamp }

/-- A message as a document. -/
def Message.document (m : Message) : Json :=
  .object
    ([("id", .string m.id)] ++ mapField "headers" (fun v => v) m.headers ++
      [("payload", m.payload), ("timestamp", .string m.timestamp)])

/-- Reads an expectation. -/
def MessageExpectation.read? (doc : RawJson) : Option MessageExpectation := do
  let fields ← fields? ["payload", "headers"] doc
  let payload ← optional fields "payload" value?
  let headers ← defaulted fields "headers" [] (map? text?)
  return { payload := payload, headers := headers }

/-- An expectation as a document. -/
def MessageExpectation.document (e : MessageExpectation) : Json :=
  .object (optionalField "payload" (fun v => v) e.payload ++ mapField "headers" .string e.headers)

namespace Correlation.KeyState

/-- All states. -/
def all : List KeyState := [created, stored, expired]

/-- The word for a state. -/
def word : KeyState → String
  | created => "created"
  | stored => "stored"
  | expired => "expired"

/-- Reads the word for a state. -/
def read? : RawJson → Option KeyState := choice? false (all.map fun s => (s.word, s))

end Correlation.KeyState

/-- An event as it is kept by others: a kind, a time and any content. -/
structure EventRecord where
  kind : String
  timestamp : String
  data : Fields Json := []
deriving Repr, Inhabited

/-- Reads an event. -/
def EventRecord.read? (doc : RawJson) : Option EventRecord := do
  let fields ← fields? ["type", "timestamp", "data"] doc
  let kind ← required fields "type" text?
  let timestamp ← required fields "timestamp" text?
  let data ← defaulted fields "data" [] (map? value?)
  return { kind := kind, timestamp := timestamp, data := data }

/-- An event as a document. -/
def EventRecord.document (e : EventRecord) : Json :=
  .object
    [("data", .object e.data.sorted), ("timestamp", .string e.timestamp),
     ("type", .string e.kind)]

end Scenario
