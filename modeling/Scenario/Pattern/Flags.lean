import Scenario.Text.Class

/-!
# Flags

What the flags of a pattern say, and what a verbose pattern ignores: white space, and comments
from a number sign to the end of the line.
-/

set_option autoImplicit false

namespace Scenario.Pattern

open Text

/-- What the flags of a pattern say. -/
structure Flags where
  ignoreCase : Bool := false
  multiLine : Bool := false
  dotAll : Bool := false
  swapGreed : Bool := false
  unicode : Bool := true
  verbose : Bool := false
  carriage : Bool := false
deriving DecidableEq, Repr

namespace Flags

/-- The flags with one of them set or cleared. -/
def put? (flags : Flags) (c : Char) (value : Bool) : Option Flags :=
  if c = 'i' then some { flags with ignoreCase := value }
  else if c = 'm' then some { flags with multiLine := value }
  else if c = 's' then some { flags with dotAll := value }
  else if c = 'U' then some { flags with swapGreed := value }
  else if c = 'u' then some { flags with unicode := value }
  else if c = 'x' then some { flags with verbose := value }
  else if c = 'R' then some { flags with carriage := value }
  else none

end Flags

/-- Reads flags up to a colon or a closing parenthesis, and whether it was a colon.  No flag may
occur twice, and one hyphen at most separates those to set from those to clear; it may not stand
last. -/
def readFlags? (flags : Flags) (seen : List Char) (clearing : Option Bool) :
    List Char → Option (Flags × Bool × List Char)
  | [] => none
  | ':' :: rest => if clearing = some false then none else some (flags, true, rest)
  | ')' :: rest =>
    if clearing = some false ∨ (seen = [] ∧ clearing = none) then none
    else some (flags, false, rest)
  | '-' :: rest =>
    if clearing = none then readFlags? flags seen (some false) rest else none
  | c :: rest =>
    if seen.contains c then none
    else match flags.put? c (clearing == none) with
      | none => none
      | some changed =>
        readFlags? changed (c :: seen) (if clearing = none then none else some true) rest

/-! ## What is ignored -/

/-- Skips what a verbose pattern ignores, from within a comment or outside. -/
def skipVerbose (inComment : Bool) : List Char → List Char
  | [] => []
  | c :: rest =>
    if inComment then skipVerbose (c != '\n') rest
    else if c = '#' then skipVerbose true rest
    else if isBlank c then skipVerbose false rest
    else c :: rest

/-- Skips white space and comments if the pattern is verbose. -/
def skip (flags : Flags) (cs : List Char) : List Char :=
  if flags.verbose then skipVerbose false cs else cs

/-- Skips white space and a number sign. -/
def skipBlanks (sign : Bool) : List Char → List Char
  | [] => []
  | c :: rest =>
    if isBlank c then skipBlanks sign rest
    else if sign && c == '#' then skipBlanks false rest
    else c :: rest

/-- The character that decides whether a hyphen before it makes a range.  In a verbose pattern
this is the next one that is neither white space nor the number sign of a comment, even within
this comment. -/
def peek (flags : Flags) (cs : List Char) : Option Char :=
  if flags.verbose then (skipBlanks true cs).head? <|> cs.head? else cs.head?

/-- Reads characters up to a closing brace with what is ignored between them, after an opening
brace. -/
def readBraced? (flags : Flags) : Nat → List Char → Option (List Char × List Char)
  | 0, _ => none
  | fuel + 1, cs =>
    match skip flags cs with
    | [] => none
    | '\x7d' :: rest => some ([], rest)
    | c :: rest => (readBraced? flags fuel rest).map fun (inside, more) => (c :: inside, more)

end Scenario.Pattern
