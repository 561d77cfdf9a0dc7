import Scenario.Text.Class
import Scenario.Text.Table.CaseMap

/-!
# Upper and lower case

* `upper` and `lower` map a text character by character to its forms in one case; a form may
  have several characters, and a sigma at the end of a word has a form of its own.
* `caseFamilies` lists the families of characters that differ only in case.
-/

set_option autoImplicit false

namespace Scenario.Text

open Table

/-- The upper-case form of a character. -/
def upperChars (c : Char) : List Char :=
  if c.toNat < asciiBound then [c.toUpper]
  else match upperExpansions.lookup c.toNat with
    | some codes => codes.map Char.ofNat
    | none => match upperShifts.image? c.toNat with
      | some code => [Char.ofNat code]
      | none => [c]

/-- The lower-case form of a character that stands alone. -/
def lowerChars (c : Char) : List Char :=
  if c.toNat < asciiBound then [c.toLower]
  else if c.toNat = 0x130 then ['i', Char.ofNat 0x307]
  else match lowerShifts.image? c.toNat with
    | some code => [Char.ofNat code]
    | none => [c]

/-- A text in upper case. -/
def upper (cs : List Char) : List Char := cs.flatMap upperChars

/-- Whether the first character that the case of a word does not ignore has case. -/
def meetsCased (cs : List Char) : Bool :=
  match cs.dropWhile isCaseIgnorable with
  | [] => false
  | c :: _ => isCased c

/-- The capital sigma. -/
def capitalSigma : Char := Char.ofNat 0x3A3

/-- The lower-case form of a sigma between the characters before it, nearest first, and those
after it: the final form if a word ends with it. -/
def lowerSigma (before after : List Char) : Char :=
  if meetsCased before && !meetsCased after then Char.ofNat 0x3C2 else Char.ofNat 0x3C3

/-- The lower-case forms of the characters after those of `before`, which is in reverse. -/
def lowerFrom (before : List Char) : List Char → List Char
  | [] => []
  | c :: rest =>
    (if c = capitalSigma then [lowerSigma before rest] else lowerChars c) ++
      lowerFrom (c :: before) rest

/-- A text in lower case. -/
def lower (cs : List Char) : List Char := lowerFrom [] cs

/-- The families of characters that differ only in case. -/
def caseFamilies : List (List Nat) := foldShifts.pairs.map (fun (a, b) => [a, b]) ++ foldFamilies

end Scenario.Text
