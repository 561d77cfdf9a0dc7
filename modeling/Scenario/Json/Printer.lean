import Scenario.Json.Basic
import Scenario.Number.Decimal
import Scenario.Text.Whole

/-!
# Writing JSON

* `Json.chars` is the compact text of a value: no spaces, and only quotes, backslashes and
  control characters escaped.
* `Json.text` is the same as a string, and `Json.asText` the text form in which a value enters
  other texts: a string stands for itself and null for nothing.
-/

set_option autoImplicit false

namespace Scenario

open Text

/-- A hexadecimal digit in lower case. -/
def hexDigit (n : Nat) : Char :=
  if n < 10 then Char.ofNat ('0'.toNat + n) else Char.ofNat ('a'.toNat + (n - 10))

/-- How a character is written inside quotes. -/
def escapeChar (c : Char) : List Char :=
  if c = '"' then ['\\', '"']
  else if c = '\\' then ['\\', '\\']
  else if c.toNat = 8 then ['\\', 'b']
  else if c.toNat = 9 then ['\\', 't']
  else if c.toNat = 10 then ['\\', 'n']
  else if c.toNat = 12 then ['\\', 'f']
  else if c.toNat = 13 then ['\\', 'r']
  else if c.toNat < 32 then
    ['\\', 'u', '0', '0', hexDigit (c.toNat / 16), hexDigit (c.toNat % 16)]
  else [c]

/-- A text in quotes. -/
def quotedChars (cs : List Char) : List Char := '"' :: cs.flatMap escapeChar ++ ['"']

/-- The text of a number. -/
def Numeral.chars : Numeral → List Char
  | .integer i => Whole.writeInt i
  | .float x => x.scientific

namespace Json

mutual

/-- The compact text of a value. -/
def chars : Json → List Char
  | .null => ['n', 'u', 'l', 'l']
  | .bool true => ['t', 'r', 'u', 'e']
  | .bool false => ['f', 'a', 'l', 's', 'e']
  | .number n => n.chars
  | .string s => quotedChars s.toList
  | .array items => '[' :: itemChars items ++ [']']
  | .object members => '{' :: memberChars members ++ ['}']

/-- Values separated by commas. -/
def itemChars : List Json → List Char
  | [] => []
  | [v] => v.chars
  | v :: rest => v.chars ++ ',' :: itemChars rest

/-- Named values separated by commas. -/
def memberChars : Fields Json → List Char
  | [] => []
  | [(n, v)] => quotedChars n.toList ++ ':' :: v.chars
  | (n, v) :: rest => quotedChars n.toList ++ ':' :: v.chars ++ ',' :: memberChars rest

end

/-- The compact text of a value. -/
def text (v : Json) : String := String.ofList v.chars

/-- The text form of a value. -/
def asText : Json → String
  | .string s => s
  | .null => ""
  | v => v.text

end Json
end Scenario
