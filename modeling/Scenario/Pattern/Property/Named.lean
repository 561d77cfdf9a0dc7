import Scenario.Pattern.CodeSet

/-!
# Named sets

`NamedSet` is a set of characters put together from tables, under the names it has in patterns.
Names are compared in their plain form: in lower case and without separators.
-/

set_option autoImplicit false

namespace Scenario.Pattern

open Text

/-- The members of `parts` that are not in `except`, and those of `also`. -/
structure NamedSet where
  names : List String
  parts : List Spans
  except : List Spans := []
  also : List Spans := []

namespace CodeSet

/-- The members of one of several tables. -/
def ofTables (tables : List Spans) : CodeSet := ofRanges (tables.flatMap Spans.toRanges)

end CodeSet

namespace NamedSet

/-- The members. -/
def members (s : NamedSet) : CodeSet :=
  CodeSet.ofTables s.parts \ CodeSet.ofTables s.except ∪ CodeSet.ofTables s.also

/-- The members of the set with a name. -/
def find? (sets : List NamedSet) (name : String) : Option CodeSet :=
  (sets.find? (·.names.contains name)).map members

end NamedSet

/-- The members of a written table under a name. -/
def findRuns? (tables : List (List String × List String)) (name : String) : Option CodeSet :=
  (tables.find? (·.1.contains name)).map fun (_, lines) => CodeSet.ofSpans (Spans.ofLines lines)

/-- The name of a set in its plain form, without what does not matter in it: the case of letters,
spaces, hyphens, underscores, whatever is not ASCII, and `is` at the start.  The name `isc` is not
taken for the short name `c`. -/
def plainName (name : List Char) : String :=
  let plain (cs : List Char) : String :=
    String.ofList ((cs.filter fun c =>
      c.toNat < asciiBound && c != '_' && c != '-' && c != ' ').map Char.toLower)
  match name with
  | i :: s :: rest =>
    if (i == 'i' || i == 'I') && (s == 's' || s == 'S') then
      if plain rest = "c" then "isc" else plain rest
    else plain name
  | _ => plain name

end Scenario.Pattern
