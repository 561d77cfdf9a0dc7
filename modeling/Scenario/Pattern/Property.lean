import Scenario.Pattern.Property.Break
import Scenario.Pattern.Property.Script

/-!
# Named properties of characters

* `property?` finds the characters meant by a name alone, such as `L`, `Greek` or `White_Space`.
* `valuedProperty?` finds the characters for which a property has a value, such as `sc` and
  `Greek`.
* The sets for digits, white space and characters of words have versions with ASCII characters
  only.
-/

set_option autoImplicit false

namespace Scenario.Pattern

open Text Table

/-- The characters meant by a name. -/
def property? (name : List Char) : Option CodeSet :=
  let name := plainName name
  NamedSet.find? traits name <|> NamedSet.find? categories name <|> script? name

/-- The characters whose property `key` has the given value. -/
def valuedProperty? (key value : List Char) : Option CodeSet :=
  let key := plainName key
  let value := plainName value
  if key = "gc" ∨ key = "generalcategory" then NamedSet.find? categories value
  else if key = "sc" ∨ key = "script" then script? value
  else if key = "scx" ∨ key = "scriptextensions" then extendedScript? value
  else if key = "age" then age? value
  else if key = "gcb" ∨ key = "graphemeclusterbreak" then NamedSet.find? characterBreaks value
  else if key = "wb" ∨ key = "wordbreak" then NamedSet.find? wordBreaks value
  else if key = "sb" ∨ key = "sentencebreak" then NamedSet.find? sentenceBreaks value
  else none

/-- Decimal digits of every script. -/
def digits : CodeSet := .ofSpans decimalNumber

/-- White space. -/
def spaces : CodeSet := .ofSpans whiteSpace

/-- The characters of words: alphabetic characters, marks, decimal digits, connectors and
joiners. -/
def wordChars : CodeSet :=
  .ofTables (alphabeticTables ++ markTables ++ [decimalNumber, connectorPunctuation, joiners])

/-- ASCII digits. -/
def asciiDigits : CodeSet := .read "30..39"

/-- ASCII white space. -/
def asciiSpaces : CodeSet := .read "9..d 20"

/-- ASCII letters, digits and the underscore. -/
def asciiWordChars : CodeSet := .read "30..39 41..5a 5f 61..7a"

end Scenario.Pattern
