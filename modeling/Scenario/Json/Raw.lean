import Scenario.Json.Basic

/-!
# Raw documents

A text can be a well-formed document and still say things that no value stands for: a number that
is too large, half of a pair of surrogates, more nesting than is allowed.  That only matters to
who reads that part of the document; who passes over it does not notice.

* `RawJson` is a document as it was written: members in any order, names that may repeat, and
  parts that are `unreadable`.
* `RawJson.limited` makes what nests too deeply unreadable.
* `RawJson.value?` is the value a document stands for, if all of it can be read.
-/

set_option autoImplicit false

namespace Scenario

/-- A document as it was written. -/
inductive RawJson where
  | null
  | bool (b : Bool)
  | number (n : Numeral)
  | string (s : String)
  | array (items : List RawJson)
  | object (members : List (String × RawJson))
  /-- What is well-formed and stands for no value. -/
  | unreadable
deriving Repr, Inhabited

namespace RawJson

/-- How deep containers may nest. -/
def nesting : Nat := 127

mutual

/-- The document with containers that nest deeper than `depth` made unreadable. -/
def limited (depth : Nat) : RawJson → RawJson
  | .array items =>
    match depth with
    | 0 => .unreadable
    | depth + 1 => .array (limitedItems depth items)
  | .object members =>
    match depth with
    | 0 => .unreadable
    | depth + 1 => .object (limitedMembers depth members)
  | v => v

/-- The items of an array, each limited. -/
def limitedItems (depth : Nat) : List RawJson → List RawJson
  | [] => []
  | v :: rest => v.limited depth :: limitedItems depth rest

/-- The members of an object, each limited. -/
def limitedMembers (depth : Nat) : Fields RawJson → Fields RawJson
  | [] => []
  | (n, v) :: rest => (n, v.limited depth) :: limitedMembers depth rest

end

mutual

/-- The value a document stands for: members sorted by name, the last of equal names winning. -/
def value? : RawJson → Option Json
  | .null => some .null
  | .bool b => some (.bool b)
  | .number n => some (.number n)
  | .string s => some (.string s)
  | .array items => (valueItems? items).map .array
  | .object members => (valueMembers? members).map fun ms => .object (Fields.sorted ms)
  | .unreadable => none

/-- The values of the items of an array. -/
def valueItems? : List RawJson → Option (List Json)
  | [] => some []
  | v :: rest =>
    match v.value?, valueItems? rest with
    | some w, some ws => some (w :: ws)
    | _, _ => none

/-- The values of the members of an object, in order. -/
def valueMembers? : Fields RawJson → Option (Fields Json)
  | [] => some []
  | (n, v) :: rest =>
    match v.value?, valueMembers? rest with
    | some w, some ws => some ((n, w) :: ws)
    | _, _ => none

end

/-- Whether all of a document can be read. -/
def isReadable (doc : RawJson) : Bool := doc.value?.isSome

/-- The text of a string. -/
def string? : RawJson → Option String
  | .string s => some s
  | _ => none

/-- The members of an object. -/
def members? : RawJson → Option (Fields RawJson)
  | .object members => some members
  | _ => none

/-- The member of an object under a name. -/
def member? (name : String) : RawJson → Option RawJson
  | .object members => Fields.get? members name
  | _ => none

end RawJson
end Scenario
