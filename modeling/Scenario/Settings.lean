import Scenario.Endpoint.Basic
import Scenario.Json.Reader
import Scenario.Json.Record
import Scenario.Text.Utf8

/-!
# Settings

* `Settings` are the settings of a run of test cases, and `Settings.validate` finds the first one
  that makes no sense.
* `Settings.ofFile` takes them from the bytes of a file, and `Settings.override` puts the values of
  named texts in their place.
* `Settings.document` and `Endpoint.Settings.document` write settings.
-/

set_option autoImplicit false

namespace Scenario

open Record Text

/-- How reports are written to a log. -/
structure LogSettings where
  level : String := "info"
  /-- Whether each line is a JSON document. -/
  json : Bool := false
deriving DecidableEq, Repr, Inhabited

/-- The settings of a run of test cases. -/
structure Settings where
  /-- How long a receive waits, in milliseconds. -/
  receiveTimeout : Nat := 5000
  /-- The time between two looks for a reply. -/
  polling : Nat := 500
  /-- How long an entry of a correlation table is kept. -/
  retention : Nat := 30000
  /-- The marker of calls of functions. -/
  marker : String := Library.usualMarker
  /-- The largest number of passes while a condition holds. -/
  maxIterations : Nat := 1000
  logging : LogSettings := {}
deriving DecidableEq, Repr, Inhabited

namespace Settings

/-- Whether a text can mark calls of functions. -/
def isMarker (marker : String) : Bool :=
  marker ≠ "" && marker.toList.all fun c => c.isAlphanum || c == '_'

/-- Fails at the first setting that makes no sense. -/
def validate (s : Settings) : Outcome :=
  if s.polling = 0 then
    .error (.configuration "polling_interval_ms must be greater than zero")
  else if !isMarker s.marker then
    .error (.configuration s!"function_prefix '{s.marker}' must be a non-empty identifier")
  else if s.maxIterations = 0 then
    .error (.configuration "max_iterations must be greater than zero")
  else .ok ()

/-- The settings of endpoints. -/
def endpoint (s : Settings) : Endpoint.Settings :=
  { timeout := s.receiveTimeout, polling := s.polling, retention := s.retention }

end Settings

/-! ## Documents -/

/-- Reads how reports are logged. -/
def LogSettings.read? (doc : RawJson) : Option LogSettings := do
  let fields ← fields? ["level", "json"] doc
  let level ← defaulted fields "level" "info" text?
  let json ← defaulted fields "json" false flag?
  return { level := level, json := json }

/-- How reports are logged, as a document. -/
def LogSettings.document (s : LogSettings) : Json :=
  .object [("level", .string s.level), ("json", .bool s.json)]

/-- Reads settings. -/
def Settings.read? (doc : RawJson) : Option Settings := do
  let fields ← fields? ["receive_timeout_ms", "polling_interval_ms", "retention_ms",
    "function_prefix", "max_iterations", "logging"] doc
  let receiveTimeout ← defaulted fields "receive_timeout_ms" 5000 natural?
  let polling ← defaulted fields "polling_interval_ms" 500 natural?
  let retention ← defaulted fields "retention_ms" 30000 natural?
  let marker ← defaulted fields "function_prefix" Library.usualMarker text?
  let maxIterations ← defaulted fields "max_iterations" 1000 natural?
  let logging ← defaulted fields "logging" {} LogSettings.read?
  return {
    receiveTimeout := receiveTimeout, polling := polling, retention := retention,
    marker := marker, maxIterations := maxIterations, logging := logging }

/-- Settings as a document. -/
def Settings.document (s : Settings) : Json :=
  .object
    [("receive_timeout_ms", Json.ofNat s.receiveTimeout),
     ("polling_interval_ms", Json.ofNat s.polling),
     ("retention_ms", Json.ofNat s.retention),
     ("function_prefix", .string s.marker),
     ("max_iterations", Json.ofNat s.maxIterations),
     ("logging", s.logging.document)]

/-- Reads the settings of an endpoint. -/
def Endpoint.Settings.read? (doc : RawJson) : Option Endpoint.Settings := do
  let fields ← fields? ["timeout_ms", "polling_interval_ms", "retention_ms",
    "message_id_variable"] doc
  let timeout ← defaulted fields "timeout_ms" 5000 natural?
  let polling ← defaulted fields "polling_interval_ms" 500 natural?
  let retention ← defaulted fields "retention_ms" 30000 natural?
  let messageIdVariable ← optional fields "message_id_variable" text?
  return {
    timeout := timeout, polling := polling, retention := retention,
    messageIdVariable := messageIdVariable }

/-- The settings of an endpoint as a document. -/
def Endpoint.Settings.document (s : Endpoint.Settings) : Json :=
  .object
    ([("timeout_ms", Json.ofNat s.timeout),
      ("polling_interval_ms", Json.ofNat s.polling),
      ("retention_ms", Json.ofNat s.retention)] ++
      optionalField "message_id_variable" .string s.messageIdVariable)

namespace Settings

/-! ## Files -/

/-- Settings from a document. -/
def ofDocument (doc : RawJson) : Except Failure Settings :=
  match read? (doc.limited RawJson.nesting) with
  | none => .error (.configuration "invalid config file")
  | some s => do
    s.validate
    return s

/-- Settings from the bytes of a file; `none` if there is no file. -/
def ofFile : Option (List Nat) → Except Failure Settings
  | none => .error (.io "No such file or directory (os error 2)")
  | some bytes =>
    match Utf8.decode bytes with
    | .error _ => .error (.io "stream did not contain valid UTF-8")
    | .ok cs =>
      match RawJson.readChars? cs with
      | none => .error (.configuration "invalid config file")
      | some doc => ofDocument doc

/-! ## Overrides -/

/-- The text of an override that is not blank. -/
def given? (overrides : Fields String) (name : String) : Option String :=
  (overrides.get? name).filter fun value => !(trim value.toList).isEmpty

/-- The value of an override, or what it is without. -/
def overridden {α : Type} (overrides : Fields String) (name : String)
    (read : List Char → Option α) (current : α) : Except Failure α :=
  match given? overrides name with
  | none => .ok current
  | some value =>
    match read (trim value.toList) with
    | some x => .ok x
    | none => .error (.configuration s!"{name} has invalid value '{value}'")

/-- Reads a natural number of 64 bits. -/
def readNatural (cs : List Char) : Option Nat := (Whole.read Whole.max64 cs).toOption

/-- Reads a truth value. -/
def readFlag (cs : List Char) : Option Bool :=
  if cs = "true".toList then some true
  else if cs = "false".toList then some false
  else none

/-- Takes any text. -/
def readAny (cs : List Char) : Option String := some (String.ofList cs)

/-- Puts overrides in place of settings, in a fixed order, and validates the result. -/
def override (s : Settings) (overrides : Fields String) : Except Failure Settings := do
  let receiveTimeout ←
    overridden overrides "TESTFLOW_RECEIVE_TIMEOUT_MS" readNatural s.receiveTimeout
  let polling ← overridden overrides "TESTFLOW_POLLING_INTERVAL_MS" readNatural s.polling
  let retention ← overridden overrides "TESTFLOW_RETENTION_MS" readNatural s.retention
  let marker ← overridden overrides "TESTFLOW_FUNCTION_PREFIX" readAny s.marker
  let maxIterations ←
    overridden overrides "TESTFLOW_MAX_ITERATIONS" readNatural s.maxIterations
  let level ← overridden overrides "TESTFLOW_LOG_LEVEL" readAny s.logging.level
  let json ← overridden overrides "TESTFLOW_LOG_JSON" readFlag s.logging.json
  let changed : Settings :=
    { receiveTimeout := receiveTimeout, polling := polling, retention := retention,
      marker := marker, maxIterations := maxIterations,
      logging := { level := level, json := json } }
  changed.validate
  return changed

end Settings
end Scenario
