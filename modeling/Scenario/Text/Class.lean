import Scenario.Text.Table.Letter
import Scenario.Text.Table.Mark
import Scenario.Text.Table.Numeral
import Scenario.Text.Table.Recent
import Scenario.Text.Table.Sign
import Scenario.Text.Table.Space

/-!
# Classes of characters

* `isBlank` is white space, and `trim` removes it at both ends of a text.
* `isAlphanumeric` holds of letters and numerals of every script; `isWordChar` adds the
  underscore.  Words of a text are its longest runs of such characters.
* `isNameChar` is the ASCII part of `isWordChar`.
-/

set_option autoImplicit false

namespace Scenario.Text

open Table

/-- Below this bound the tables are not consulted. -/
def asciiBound : Nat := 128

/-- ASCII letters and digits. -/
def isAsciiAlphanumeric (c : Char) : Bool := c.isAlpha || c.isDigit

/-- White space. -/
def isBlank (c : Char) : Bool :=
  if c.toNat < asciiBound then c == ' ' || (9 ≤ c.toNat && c.toNat ≤ 13)
  else whiteSpace.has c.toNat

/-- Letters, in the widest sense. -/
def isAlphabetic (c : Char) : Bool :=
  if c.toNat < asciiBound then c.isAlpha
  else
    lowercaseLetter.has c.toNat || uppercaseLetter.has c.toNat || otherLetter.has c.toNat ||
    otherAlphabetic.has c.toNat || modifierLetter.has c.toNat || letterNumber.has c.toNat ||
    titlecaseLetter.has c.toNat || recentAlphabetic.has c.toNat

/-- Numerals of every kind. -/
def isNumeric (c : Char) : Bool :=
  if c.toNat < asciiBound then c.isDigit
  else
    decimalNumber.has c.toNat || letterNumber.has c.toNat || otherNumber.has c.toNat ||
    recentNumeric.has c.toNat

/-- Letters and numerals. -/
def isAlphanumeric (c : Char) : Bool := isAlphabetic c || isNumeric c

/-- The characters that words consist of. -/
def isWordChar (c : Char) : Bool := isAlphanumeric c || c == '_'

/-- The characters that names of functions consist of. -/
def isNameChar (c : Char) : Bool := isAsciiAlphanumeric c || c == '_'

/-- The letter for the pharyngeal fricative, which has no longer a case of its own. -/
def pharyngeal : Char := Char.ofNat 0x295

/-- Whether upper, lower or title case applies to the character. -/
def isCased (c : Char) : Bool :=
  if c.toNat < asciiBound then c.isAlpha
  else
    c != pharyngeal &&
    (lowercaseLetter.has c.toNat || uppercaseLetter.has c.toNat || titlecaseLetter.has c.toNat ||
    otherCased.has c.toNat || recentCased.has c.toNat)

/-- Whether the case of a word ignores the character. -/
def isCaseIgnorable (c : Char) : Bool :=
  nonspacingMark.has c.toNat || enclosingMark.has c.toNat || format.has c.toNat ||
  modifierLetter.has c.toNat || modifierSymbol.has c.toNat || otherCaseIgnorable.has c.toNat ||
  recentCaseIgnorable.has c.toNat

/-! ## White space at the ends -/

/-- The text without white space at its start. -/
def trimStart (cs : List Char) : List Char := cs.dropWhile isBlank

/-- The text without white space at its end. -/
def trimEnd (cs : List Char) : List Char := (cs.reverse.dropWhile isBlank).reverse

/-- The text without white space at its ends. -/
def trim (cs : List Char) : List Char := trimEnd (trimStart cs)

/-- The text without white space at its ends. -/
def trimmed (s : String) : String := String.ofList (trim s.toList)

theorem length_trimStart_le (cs : List Char) : (trimStart cs).length ≤ cs.length :=
  (List.dropWhile_sublist _).length_le

theorem length_trimEnd_le (cs : List Char) : (trimEnd cs).length ≤ cs.length := by
  have h := (List.dropWhile_sublist isBlank (l := cs.reverse)).length_le
  simpa [trimEnd] using h

theorem length_trim_le (cs : List Char) : (trim cs).length ≤ cs.length :=
  Nat.le_trans (length_trimEnd_le _) (length_trimStart_le _)

end Scenario.Text
