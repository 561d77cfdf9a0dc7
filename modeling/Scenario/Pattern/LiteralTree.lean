/-!
# Trees of literals

`LiteralTree` holds byte strings that are alternatives of each other.  Strings with the same
beginning share a path, as long as this keeps their order of preference: beyond a place where a
string ends, later strings branch off anew.
-/

set_option autoImplicit false

namespace Scenario.Pattern

/-- The strings that go on from a place: the branches before each string that ends there, and
those after the last one. -/
inductive LiteralTree where
  | node (closed : List (List (Nat × LiteralTree))) (latest : List (Nat × LiteralTree))
deriving Inhabited

namespace LiteralTree

/-- The tree without strings. -/
def empty : LiteralTree := node [] []

/-- The branches between strings that end here. -/
def chunks : LiteralTree → List (List (Nat × LiteralTree))
  | node closed latest => closed ++ [latest]

/-- Whether nothing goes on from here. -/
def isLeaf (tree : LiteralTree) : Bool := tree.chunks.all (·.isEmpty)

/-- Replaces the branch for a byte, which is in order with the others. -/
def putBranch (byte : Nat) (tree : LiteralTree) :
    List (Nat × LiteralTree) → List (Nat × LiteralTree)
  | [] => [(byte, tree)]
  | (b, t) :: rest =>
    if b < byte then (b, t) :: putBranch byte tree rest
    else if b = byte then (byte, tree) :: rest
    else (byte, tree) :: (b, t) :: rest

/-- Adds a string after the others. -/
def insert : List Nat → LiteralTree → LiteralTree
  | [], node closed latest =>
    if closed ≠ [] ∧ closed.all (·.isEmpty) ∧ latest.isEmpty then node closed latest
    else node (closed ++ [latest]) []
  | byte :: rest, node closed latest =>
    let branch := (latest.find? (·.1 == byte)).elim empty (·.2)
    node closed (putBranch byte (insert rest branch) latest)

/-- The tree of strings in order of preference. -/
def ofStrings (strings : List (List Nat)) : LiteralTree :=
  strings.foldl (fun tree s => tree.insert s) empty

end LiteralTree
end Scenario.Pattern
