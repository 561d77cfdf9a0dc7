import Scenario.Pattern.Property

/-!
# Conditions on places

`Look` is a condition on a place between characters, such as the start of a line or the edge of a
word.  `Look.holds` tells whether the characters on both sides meet it.
-/

set_option autoImplicit false

namespace Scenario.Pattern

/-- A condition on a place between characters. -/
inductive Look where
  | textStart
  | textEnd
  | lineStart
  | lineEnd
  /-- The start of a line where also a carriage return ends one, alone or before a line feed. -/
  | returnLineStart
  /-- The end of such a line. -/
  | returnLineEnd
  | wordEdge (ascii : Bool)
  | noWordEdge (ascii : Bool)
  | wordStart (ascii : Bool)
  | wordEnd (ascii : Bool)
  | wordStartHalf (ascii : Bool)
  | wordEndHalf (ascii : Bool)
deriving DecidableEq, Repr

namespace Look

/-- The characters of words, to be looked up. -/
def wordLookup : CodeSet.Lookup := wordChars.toLookup

/-- The ASCII characters of words, to be looked up. -/
def asciiWordLookup : CodeSet.Lookup := asciiWordChars.toLookup

/-- Whether there is a word character. -/
def isWord (ascii : Bool) : Option Char → Bool
  | none => false
  | some c => (if ascii then asciiWordLookup else wordLookup).has c.toNat

/-- Whether the condition holds between two characters, or at an end of the text. -/
def holds (look : Look) (before after : Option Char) : Bool :=
  match look with
  | textStart => before == none
  | textEnd => after == none
  | lineStart => before == none || before == some '\n'
  | lineEnd => after == none || after == some '\n'
  | returnLineStart =>
    before == none || before == some '\n' || (before == some '\r' && after != some '\n')
  | returnLineEnd =>
    after == none || after == some '\r' || (after == some '\n' && before != some '\r')
  | wordEdge a => isWord a before != isWord a after
  | noWordEdge a => isWord a before == isWord a after
  | wordStart a => !isWord a before && isWord a after
  | wordEnd a => isWord a before && !isWord a after
  | wordStartHalf a => !isWord a before
  | wordEndHalf a => !isWord a after

end Look
end Scenario.Pattern
