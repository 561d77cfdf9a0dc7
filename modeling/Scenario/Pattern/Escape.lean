import Scenario.Pattern.Flags
import Scenario.Pattern.Look

/-!
# Escapes

`readEscape?` reads what follows a backslash: a character, a class of characters, or a condition
on a place.
-/

set_option autoImplicit false

namespace Scenario.Pattern

open Text

/-- The characters that mean something of their own in a pattern. -/
def isMeta (c : Char) : Bool := "\\.+*?()|[]\x7b\x7d^$#&-~".toList.contains c

/-- Whether a character may be escaped to stand for itself. -/
def canEscape (c : Char) : Bool :=
  isMeta c || (c.toNat < asciiBound && !isAsciiAlphanumeric c && c != '<' && c != '>')

/-- One thing that is written by an escape. -/
inductive Escape where
  | char (c : Char)
  | cls (members : CodeSet)
  | look (condition : Look)

/-! ## Code points -/

/-- The value of hexadecimal digits. -/
def hexNumber? (cs : List Char) : Option Nat :=
  cs.foldlM (fun n c =>
    if c.isDigit then some (n * 16 + (c.toNat - 48))
    else if 'a' ≤ c ∧ c ≤ 'f' then some (n * 16 + (c.toNat - 87))
    else if 'A' ≤ c ∧ c ≤ 'F' then some (n * 16 + (c.toNat - 55))
    else none) 0

/-- The character with a code point given in hexadecimal digits. -/
def hexChar? (cs : List Char) : Option Char := do
  let n ← hexNumber? cs
  if cs ≠ [] ∧ n.isValidChar then some (Char.ofNat n) else none

/-- Takes a number of characters with what is ignored between them. -/
def takeSkipping? (flags : Flags) : Nat → List Char → Option (List Char × List Char)
  | 0, cs => some ([], cs)
  | n + 1, cs =>
    match skip flags cs with
    | [] => none
    | c :: rest => (takeSkipping? flags n rest).map fun (taken, more) => (c :: taken, more)

/-- Reads a code point, in braces or with a fixed number of digits, and whether it is in braces. -/
def readHex? (flags : Flags) (size : Nat) (cs : List Char) : Option (Char × Bool × List Char) := do
  match skip flags cs with
  | '\x7b' :: rest =>
    let (digits, more) ← readBraced? flags (rest.length + 1) rest
    let c ← hexChar? digits
    return (c, true, more)
  | cs =>
    let (digits, more) ← takeSkipping? flags size cs
    let c ← hexChar? digits
    return (c, false, more)

/-! ## Classes -/

/-- A class with its case variants if case is ignored. -/
def folded (flags : Flags) (members : CodeSet) : CodeSet :=
  if ¬ flags.ignoreCase then members
  else if flags.unicode then members.foldUnicode
  else members.foldAscii

/-- A class or its complement. -/
def negatedIf (negated : Bool) (members : CodeSet) : CodeSet :=
  if negated then members.compl else members

/-- A class or its complement; without Unicode only the class itself can be matched. -/
def shorthandClass? (flags : Flags) (negated : Bool) (full ascii : CodeSet) : Option Escape :=
  if flags.unicode then some (.cls (negatedIf negated full))
  else if negated then none
  else some (.cls ascii)

/-- Splits a text at the first place where a separator stands. -/
def splitAt? (separator : List Char) : List Char → Option (List Char × List Char)
  | [] => none
  | c :: rest =>
    if separator.isPrefixOf (c :: rest) then some ([], (c :: rest).drop separator.length)
    else (splitAt? separator rest).map fun (before, after) => (c :: before, after)

/-- The characters of a property in braces, and whether all others are meant. -/
def bracedProperty? (inside : List Char) : Option (CodeSet × Bool) :=
  match splitAt? ['!', '='] inside with
  | some (key, value) => (valuedProperty? key value).map (·, true)
  | none =>
    match splitAt? [':'] inside <|> splitAt? ['='] inside with
    | some (key, value) => (valuedProperty? key value).map (·, false)
    | none => (property? inside).map (·, false)

/-- Reads a property after its `p`. -/
def readProperty? (flags : Flags) (negated : Bool) (cs : List Char) :
    Option (Escape × List Char) := do
  if ¬ flags.unicode then none
  else match skip flags cs with
    | [] => none
    | '\x7b' :: rest =>
      let (inside, more) ← readBraced? flags (rest.length + 1) rest
      let (members, unequal) ← bracedProperty? inside
      return (.cls (negatedIf (negated != unequal) (folded flags members)), more)
    | c :: more =>
      let members ← property? [c]
      return (.cls (negatedIf negated (folded flags members)), more)

/-! ## Word edges -/

/-- Whether a character can be part of the name of a kind of word edge. -/
def isEdgeChar (c : Char) : Bool := c.isAlpha || c == '-'

/-- The kind of word edge with a name. -/
def edgeKind? (ascii : Bool) (name : String) : Option Look :=
  if name = "start" then some (.wordStart ascii)
  else if name = "end" then some (.wordEnd ascii)
  else if name = "start-half" then some (.wordStartHalf ascii)
  else if name = "end-half" then some (.wordEndHalf ascii)
  else none

/-- Reads a word edge after its `b`.  Braces hold its kind, unless they hold a number of
repetitions. -/
def readEdge? (flags : Flags) (cs : List Char) : Option (Escape × List Char) :=
  let ascii := !flags.unicode
  let plain : Option (Escape × List Char) := some (.look (.wordEdge ascii), cs)
  match cs with
  | '\x7b' :: rest =>
    match skip flags rest with
    | [] => none
    | c :: _ =>
      if isEdgeChar c then do
        let (name, more) ← readBraced? flags (rest.length + 1) rest
        if name.all isEdgeChar then
          let kind ← edgeKind? ascii (String.ofList name)
          return (.look kind, more)
        else none
      else plain
  | _ => plain

/-! ## All escapes -/

/-- Reads an escape after its backslash. -/
def readEscape? (flags : Flags) (cs : List Char) : Option (Escape × List Char) :=
  match cs with
  | [] => none
  | c :: rest =>
    let ascii := !flags.unicode
    if c = 'd' ∨ c = 'D' then (shorthandClass? flags (c == 'D') digits asciiDigits).map (·, rest)
    else if c = 's' ∨ c = 'S' then
      (shorthandClass? flags (c == 'S') spaces asciiSpaces).map (·, rest)
    else if c = 'w' ∨ c = 'W' then
      (shorthandClass? flags (c == 'W') wordChars asciiWordChars).map (·, rest)
    else if c = 'p' ∨ c = 'P' then readProperty? flags (c == 'P') rest
    else if c = 'x' then
      (readHex? flags 2 rest).bind fun (d, braced, more) =>
        if ascii ∧ asciiBound ≤ d.toNat ∧ ¬ braced then none else some (.char d, more)
    else if c = 'u' then (readHex? flags 4 rest).map fun (d, _, more) => (.char d, more)
    else if c = 'U' then (readHex? flags 8 rest).map fun (d, _, more) => (.char d, more)
    else if c = 'a' then some (.char (Char.ofNat 7), rest)
    else if c = 'f' then some (.char (Char.ofNat 12), rest)
    else if c = 't' then some (.char '\t', rest)
    else if c = 'n' then some (.char '\n', rest)
    else if c = 'r' then some (.char '\r', rest)
    else if c = 'v' then some (.char (Char.ofNat 11), rest)
    else if c = 'A' then some (.look .textStart, rest)
    else if c = 'z' then some (.look .textEnd, rest)
    else if c = 'b' then readEdge? flags rest
    else if c = 'B' then some (.look (.noWordEdge ascii), rest)
    else if c = '<' then some (.look (.wordStart ascii), rest)
    else if c = '>' then some (.look (.wordEnd ascii), rest)
    else if canEscape c then some (.char c, rest)
    else none

end Scenario.Pattern
