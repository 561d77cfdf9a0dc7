import Scenario.Json.Raw
import Scenario.Text.Whole

/-!
# Reading records from JSON

Documents describe things by records.  A record is an object, whose unknown members do not
matter, or an array with the values of its fields by position.

* `Record.fields?` finds the fields that a document gives, and `required`, `optional` and
  `defaulted` read one of them.
* `text?`, `flag?`, `natural?`, `integer?`, `list?`, `map?` and `choice?` read values.
-/

set_option autoImplicit false

namespace Scenario.Record

open Text

variable {α : Type}

/-! ## Values -/

/-- A text. -/
def text? : RawJson → Option String := RawJson.string?

/-- A truth value. -/
def flag? : RawJson → Option Bool
  | .bool b => some b
  | _ => none

/-- A natural number of 64 bits. -/
def natural? : RawJson → Option Nat
  | .number (.integer (.ofNat n)) => if n ≤ Whole.max64 then some n else none
  | _ => none

/-- A signed integer of 64 bits. -/
def integer? : RawJson → Option Int64
  | .number (.integer i) =>
    if Int64.minValue.toInt ≤ i ∧ i ≤ Int64.maxValue.toInt then some (.ofInt i) else none
  | _ => none

/-- Any value. -/
def value? : RawJson → Option Json := RawJson.value?

/-- Values in order. -/
def list? (read : RawJson → Option α) : RawJson → Option (List α)
  | .array items => items.mapM read
  | _ => none

/-- Values by name, each name once. -/
def map? (read : RawJson → Option α) : RawJson → Option (Fields α)
  | .object members =>
    (members.mapM fun m => (read m.2).map fun x => (m.1, x)).map Fields.merge
  | _ => none

/-- One of several words, as a text or as the name of the only member of an object.  The value of
the member is null, or perhaps an object without members. -/
def choice? (emptyObject : Bool) (words : List (String × α)) : RawJson → Option α
  | .string word => words.lookup word
  | .object [(word, .null)] => words.lookup word
  | .object [(word, .object [])] => if emptyObject then words.lookup word else none
  | _ => none

/-! ## Fields -/

/-- The fields that a document gives of a record.  A known name must not repeat, and there must
not be more values than fields. -/
def fields? (names : List String) : RawJson → Option (Fields RawJson)
  | .object members =>
    let known := members.filter fun (name, _) => names.contains name
    if (Fields.merge known).length = known.length then some known else none
  | .array items => if items.length ≤ names.length then some (names.zip items) else none
  | _ => none

/-- A field that must be there. -/
def required (fields : Fields RawJson) (name : String) (read : RawJson → Option α) : Option α :=
  (fields.get? name).bind read

/-- A field that may be left out or null. -/
def optional (fields : Fields RawJson) (name : String) (read : RawJson → Option α) :
    Option (Option α) :=
  match fields.get? name with
  | none => some none
  | some .null => some none
  | some v => (read v).map some

/-- A field that may be left out. -/
def defaulted (fields : Fields RawJson) (name : String) (default : α) (read : RawJson → Option α) :
    Option α :=
  match fields.get? name with
  | none => some default
  | some v => read v

/-! ## Writing -/

/-- A text as a field that may be left out. -/
def optionalField (name : String) (write : α → Json) : Option α → Fields Json
  | some x => [(name, write x)]
  | none => []

/-- Values by name as a field that is left out if there are none. -/
def mapField (name : String) (write : α → Json) (fields : Fields α) : Fields Json :=
  if fields.isEmpty then [] else [(name, .object (fields.map fun (n, x) => (n, write x)))]

end Scenario.Record
