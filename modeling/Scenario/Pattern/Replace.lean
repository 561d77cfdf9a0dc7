import Scenario.Pattern.Extent
import Scenario.Pattern.Machine
import Scenario.Pattern.Reader

/-!
# Searching and replacing

* `Compiled.matchesIn` lists the matches in a text one after the other.  No match is empty where
  the one before has just ended.
* `Compiled.replaceAll` puts a replacement in place of each match.  In it, a dollar sign and a
  number or a name, in braces if need be, stand for what a group matched; two dollar signs stand
  for one.
* `compile` reads and compiles a pattern, or says why it cannot.
-/

set_option autoImplicit false

namespace Scenario.Pattern

open Text

namespace Compiled

/-- A group of a match: where it begins and ends. -/
def groupSpan? (slots : Slots) (index : Nat) : Option (Nat × Nat) :=
  match slots.lookup (2 * index), slots.lookup (2 * index + 1) with
  | some first, some last => some (first, last)
  | _, _ => none

/-- The next match from a place on, which is not empty at `lastEnd`. -/
def nextMatch (p : Compiled) (visits : Visits) (cursor : Cursor) (lastEnd : Option Nat) :
    Visits × Option Slots :=
  let (visits, found) := p.find visits cursor
  match found.bind (groupSpan? · 0) with
  | some (first, last) =>
    if first = last ∧ some last = lastEnd then
      match cursor.rest with
      | [] => (visits, none)
      | _ => p.find visits (cursor.skip 1)
    else (visits, found)
  | none => (visits, none)

/-- The matches in a text from a place on. -/
def matchesFrom (p : Compiled) : Nat → Visits → Cursor → Option Nat → List Slots
  | 0, _, _, _ => []
  | fuel + 1, visits, cursor, lastEnd =>
    let (visits, found) := p.nextMatch visits cursor lastEnd
    match found with
    | none => []
    | some slots =>
      match groupSpan? slots 0 with
      | none => []
      | some (_, last) =>
        slots :: p.matchesFrom fuel visits (cursor.skip (last - cursor.place)) (some last)

/-- The matches in a text. -/
def matchesIn (p : Compiled) (text : List Char) : List Slots :=
  p.matchesFrom (text.length + 2) (.empty p.code) ⟨none, 0, text⟩ none

/-- Whether a text has a match. -/
def isMatch (p : Compiled) (text : List Char) : Bool :=
  (p.find (.empty p.code) ⟨none, 0, text⟩).2.isSome

end Compiled

/-! ## Replacements -/

/-- A part of a replacement. -/
inductive Piece where
  | char (c : Char)
  /-- What the group of a number or name matched. -/
  | group (name : List Char)
deriving Repr

/-- Reads a replacement. -/
def readPieces : Nat → List Char → List Piece
  | 0, _ => []
  | fuel + 1, cs =>
    match cs with
    | [] => []
    | '$' :: '$' :: rest => .char '$' :: readPieces fuel rest
    | '$' :: '\x7b' :: rest =>
      match rest.dropWhile (· != '\x7d') with
      | [] => .char '$' :: readPieces fuel ('\x7b' :: rest)
      | _ :: more => .group (rest.takeWhile (· != '\x7d')) :: readPieces fuel more
    | '$' :: rest =>
      match rest.takeWhile isNameChar with
      | [] => .char '$' :: readPieces fuel rest
      | name => .group name :: readPieces fuel (rest.dropWhile isNameChar)
    | c :: rest => .char c :: readPieces fuel rest

namespace Compiled

/-- The index of a group given by number or name. -/
def groupIndex? (p : Compiled) (name : List Char) : Option Nat :=
  match Whole.read Whole.max64 name with
  | .ok n => some n
  | .error _ => p.names.lookup (String.ofList name)

/-- The characters of a text from one place to another. -/
def slice (text : Array Char) (first last : Nat) : List Char := (text.extract first last).toList

/-- What a piece of a replacement stands for in a match. -/
def expand (p : Compiled) (text : Array Char) (slots : Slots) : Piece → List Char
  | .char c => [c]
  | .group name =>
    match (p.groupIndex? name).bind (groupSpan? slots) with
    | some (first, last) => slice text first last
    | none => []

/-- Puts replacements in place of matches, from a place on. -/
def replaceFrom (p : Compiled) (text : Array Char) (pieces : List Piece) (place : Nat) :
    List Slots → List Char
  | [] => slice text place text.size
  | slots :: rest =>
    match groupSpan? slots 0 with
    | none => slice text place text.size
    | some (first, last) =>
      slice text place first ++ (pieces.flatMap (p.expand text slots) ++
        p.replaceFrom text pieces last rest)

/-- Replaces every match in a text. -/
def replaceAll (p : Compiled) (text replacement : List Char) : List Char :=
  p.replaceFrom text.toArray (readPieces (replacement.length + 1) replacement) 0
    (p.matchesIn text)

end Compiled

/-- Reads and compiles a pattern. -/
def compile (pattern : List Char) : Except String Compiled :=
  match Regex.read? pattern with
  | none => .error "regex parse error:"
  | some r =>
    if Extent.fits r.body then .ok (.ofRegex r)
    else .error s!"Compiled regex exceeds size limit of {Extent.limit} bytes."

end Scenario.Pattern
