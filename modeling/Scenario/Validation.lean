import Scenario.Message
import Scenario.Resolve.Matchers

/-!
# Expectations on messages

* `MessageExpectation` says what the headers and the payload of a message should be.
* `MessageExpectation.validate` compares headers first, in order, and then the payload: objects
  member by member, arrays item by item, and texts as expectations of the text form of a value.
  A strict comparison refuses members that are not expected.
-/

set_option autoImplicit false

namespace Scenario

/-- What a message is expected to hold. -/
structure MessageExpectation where
  payload : Option Json := none
  headers : Fields String := []
deriving Repr, Inhabited

/-- Whether a comparison refuses members that are not expected. -/
inductive Strictness where
  | strict
  | lenient
deriving DecidableEq, Repr, Inhabited

namespace MessageExpectation

/-- Whether nothing is expected. -/
def isEmpty (e : MessageExpectation) : Bool := e.payload.isNone && e.headers.isEmpty

/-- Fails if there is a member that is not expected, naming the first one. -/
def refuseExtra (strictness : Strictness) (path : String) (expected actual : Fields Json) :
    Outcome :=
  match strictness with
  | .lenient => .ok ()
  | .strict =>
    match actual.names.find? fun name => !expected.has name with
    | some extra => .error (.validation s!"unexpected field '{path}.{extra}'")
    | none => .ok ()

mutual

/-- Compares an actual value with an expected one. -/
def compare (lib : Library) (store : Store) (strictness : Strictness) (path : String)
    (expected actual : Json) : Outcome :=
  match expected, actual with
  | .string text, actual => Expectation.validate lib store path text actual.asText
  | .object members, .object actuals => do
    compareMembers lib store strictness path members actuals
    refuseExtra strictness path members actuals
  | .array items, .array actuals =>
    if items.length ≠ actuals.length then
      .error (.validation
        s!"array at '{path}' has {actuals.length} elements but expected {items.length}")
    else compareItems lib store strictness path 0 items actuals
  | expected, actual =>
    if expected == actual then .ok ()
    else .error (.validation
      s!"value at '{path}' was {actual.text} but expected {expected.text}")

/-- Compares the expected members in order. -/
def compareMembers (lib : Library) (store : Store) (strictness : Strictness) (path : String)
    (expected actual : Fields Json) : Outcome :=
  match expected with
  | [] => .ok ()
  | (name, value) :: rest =>
    match actual.get? name with
    | none => .error (.validation s!"missing field '{path}.{name}'")
    | some found => do
      compare lib store strictness s!"{path}.{name}" value found
      compareMembers lib store strictness path rest actual

/-- Compares items in order; the first one has the given index. -/
def compareItems (lib : Library) (store : Store) (strictness : Strictness) (path : String)
    (index : Nat) (expected actual : List Json) : Outcome :=
  match expected, actual with
  | value :: rest, found :: more => do
    compare lib store strictness s!"{path}[{index}]" value found
    compareItems lib store strictness path (index + 1) rest more
  | _, _ => .ok ()

end

/-- Compares the expected headers in order. -/
def validateHeaders (lib : Library) (store : Store) (m : Message) : Fields String → Outcome
  | [] => .ok ()
  | (name, expected) :: rest =>
    match m.headerText? name with
    | none => .error (.validation s!"missing header '{name}'")
    | some actual => do
      Expectation.validate lib store s!"header:{name}" expected actual
      validateHeaders lib store m rest

/-- Fails if a message is not as expected. -/
def validate (lib : Library) (store : Store) (strictness : Strictness) (e : MessageExpectation)
    (m : Message) : Outcome := do
  validateHeaders lib store m e.headers
  match e.payload with
  | some payload => compare lib store strictness "$" payload m.payload
  | none => pure ()

end MessageExpectation
end Scenario
