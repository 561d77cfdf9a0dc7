import Scenario.Number.Binary64

/-!
# JSON values

* `Json` keeps the members of an object in a list, in the order in which they are written.
* `Fields.sorted` puts values in the order of their names, which is the order in a value that was
  read from a document.
* `Json.same` is equality of values.  An integer is never equal to a floating-point number, and
  the two zeros are equal.
-/

set_option autoImplicit false

namespace Scenario

/-- A JSON number: a 64-bit integer, signed or unsigned, or a floating-point number. -/
inductive Numeral where
  | integer (i : Int)
  | float (x : Binary64)
deriving DecidableEq, Repr, Inhabited

/-- Equality of numbers. -/
def Numeral.same : Numeral → Numeral → Bool
  | .integer i, .integer j => i == j
  | .float x, .float y => x.sameValue y
  | _, _ => false

/-- A JSON value, or what is to be written as one. -/
inductive Json where
  | null
  | bool (b : Bool)
  | number (n : Numeral)
  | string (s : String)
  | array (items : List Json)
  | object (members : List (String × Json))
deriving Repr, Inhabited

/-- Values by name, in order. -/
abbrev Fields (α : Type) := List (String × α)

namespace Fields

variable {α : Type}

/-- The value under a name. -/
def get? (fields : Fields α) (name : String) : Option α := fields.lookup name

/-- Whether there is a value under a name. -/
def has (fields : Fields α) (name : String) : Bool := fields.any (·.1 == name)

/-- The names in order. -/
def names (fields : Fields α) : List String := fields.map (·.1)

/-- Puts a value under a name: in place if the name is known, else at the end. -/
def set (fields : Fields α) (name : String) (value : α) : Fields α :=
  if fields.has name then fields.map fun (n, v) => if n == name then (n, value) else (n, v)
  else fields ++ [(name, value)]

/-- Removes a name; the others keep their order. -/
def remove (fields : Fields α) (name : String) : Fields α := fields.filter (·.1 != name)

/-- Makes names distinct: the first position of a name with its last value. -/
def merge (fields : Fields α) : Fields α :=
  fields.foldl (fun acc (n, v) => acc.set n v) []

/-- Puts a value under a name where the order of names has it. -/
def insertSorted (name : String) (value : α) : Fields α → Fields α
  | [] => [(name, value)]
  | (n, v) :: rest =>
    if name < n then (name, value) :: (n, v) :: rest
    else if name = n then (name, value) :: rest
    else (n, v) :: insertSorted name value rest

/-- Sorts by name; of equal names the last wins. -/
def sorted (fields : Fields α) : Fields α :=
  fields.foldl (fun acc (n, v) => insertSorted n v acc) []

end Fields

namespace Json

mutual

/-- Equality of values. -/
def same : Json → Json → Bool
  | .null, .null => true
  | .bool a, .bool b => a == b
  | .number a, .number b => a.same b
  | .string a, .string b => a == b
  | .array a, .array b => sameItems a b
  | .object a, .object b => sameMembers a b
  | _, _ => false

/-- Equality of lists of values. -/
def sameItems : List Json → List Json → Bool
  | [], [] => true
  | a :: as, b :: bs => a.same b && sameItems as bs
  | _, _ => false

/-- Equality of lists of named values. -/
def sameMembers : Fields Json → Fields Json → Bool
  | [], [] => true
  | (m, a) :: as, (n, b) :: bs => m == n && a.same b && sameMembers as bs
  | _, _ => false

end

instance : BEq Json := ⟨same⟩

/-- A natural number as a value. -/
def ofNat (n : Nat) : Json := .number (.integer n)

/-- An integer as a value. -/
def ofInt (i : Int) : Json := .number (.integer i)

/-- The items of an array. -/
def items? : Json → Option (List Json)
  | .array items => some items
  | _ => none

/-- The members of an object. -/
def members? : Json → Option (Fields Json)
  | .object members => some members
  | _ => none

/-- The text of a string. -/
def string? : Json → Option String
  | .string s => some s
  | _ => none

/-- The member of an object under a name. -/
def member? (name : String) : Json → Option Json
  | .object members => Fields.get? members name
  | _ => none

end Json
end Scenario
