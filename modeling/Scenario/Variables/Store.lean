import Scenario.Failure

/-!
# Variable stores

A store is an ordered map from names to values.  Names are distinct and listed by the time they
were first set since they were last removed; setting a name again keeps its place.
-/

set_option autoImplicit false

namespace Scenario

/-- Variables in order. -/
structure Store where
  entries : Fields Json := []
deriving Repr, Inhabited

namespace Store

/-- The store without variables. -/
def empty : Store := {}

/-- The store with some variables set one after the other. -/
def ofFields (fields : Fields Json) : Store := ⟨fields.merge⟩

/-- The value of a variable, if there is one. -/
def get? (s : Store) (name : String) : Option Json := s.entries.get? name

/-- The value of a variable. -/
def get (s : Store) (name : String) : Except Failure Json :=
  match s.get? name with
  | some v => .ok v
  | none => .error (.unknownVariable name)

/-- Whether a variable is defined. -/
def has (s : Store) (name : String) : Bool := s.entries.has name

/-- Sets a variable. -/
def set (s : Store) (name : String) (value : Json) : Store := ⟨s.entries.set name value⟩

/-- Sets variables one after the other. -/
def setAll (s : Store) (fields : Fields Json) : Store :=
  fields.foldl (fun acc (name, value) => acc.set name value) s

/-- Removes a variable. -/
def remove (s : Store) (name : String) : Store := ⟨s.entries.remove name⟩

/-- The names of all variables in order. -/
def names (s : Store) : List String := s.entries.names

/-- The number of variables. -/
def size (s : Store) : Nat := s.entries.length

end Store
end Scenario
