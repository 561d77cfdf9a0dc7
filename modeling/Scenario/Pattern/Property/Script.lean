import Scenario.Pattern.Property.Named
import Scenario.Text.Table.Script
import Scenario.Text.Table.ScriptExtension
import Scenario.Text.Table.Age

/-!
# Scripts and ages

* `script?` gives the characters of a script, `extendedScript?` those that occur in it.
* `age?` gives the characters of an edition of Unicode.
-/

set_option autoImplicit false

namespace Scenario.Pattern

open Text Table

/-- The characters that are counted with a script. -/
def script? (name : String) : Option CodeSet := findRuns? scripts name

/-- The characters that occur in a script: those counted with it, except where it is known in
which scripts a character occurs, and those known to occur in it. -/
def extendedScript? (name : String) : Option CodeSet := do
  let (names, lines) ← scripts.find? (·.1.contains name)
  let known := CodeSet.ofTables (scriptExtensions.map fun (lines, _) => Spans.ofLines lines)
  let here := scriptExtensions.filter fun (_, codes) => codes.any names.contains
  let added := CodeSet.ofTables (here.map fun (lines, _) => Spans.ofLines lines)
  return CodeSet.ofSpans (Spans.ofLines lines) \ known ∪ added

/-- The characters that an edition and those before it have added. -/
def age? (name : String) : Option CodeSet := do
  let last ← ages.findIdx? (·.1.contains name)
  return CodeSet.ofTables ((ages.take (last + 1)).map fun (_, lines) => Spans.ofLines lines)

end Scenario.Pattern
