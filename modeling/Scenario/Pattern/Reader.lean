import Scenario.Pattern.Bracket
import Scenario.Pattern.Node
import Scenario.Text.Whole

/-!
# Reading patterns

`Regex.read?` reads the text of a pattern; `none` means that it is not a pattern.  Flags apply
from where they are set to the end of the group around them, across its alternatives.  A pattern
may be nested up to a limit: sequences, alternatives, groups, repetitions and classes each add one
to the depth of what they hold.
-/

set_option autoImplicit false

namespace Scenario.Pattern

open Text

/-- What is known of the groups read so far. -/
structure Groups where
  count : Nat := 0
  names : List (String × Nat) := []

/-- A part of a pattern. -/
structure Item where
  node : Node
  /-- How deep it is nested. -/
  depth : Nat := 0
  /-- Whether it only sets flags, so that it cannot be repeated. -/
  isFlags : Bool := false

namespace Item

/-- A change of flags. -/
def ofFlags : Item := { node := .empty, isFlags := true }

/-- A pattern that holds another one. -/
def around (inner : Item) (node : Node) : Item := { node, depth := inner.depth + 1 }

end Item

/-! ## Groups -/

/-- Whether a character may stand in the name of a group. -/
def isGroupNameChar (first : Bool) (c : Char) : Bool :=
  c == '_' || (if first then isAlphabetic c
    else c == '.' || c == '[' || c == ']' || isAlphanumeric c)

/-- Reads the name of a group up to the closing angle bracket. -/
def readGroupName? (cs : List Char) : Option (String × List Char) :=
  let name := cs.takeWhile (· != '>')
  match name, cs.dropWhile (· != '>') with
  | c :: others, _ :: rest =>
    if isGroupNameChar true c && others.all (isGroupNameChar false) then
      some (String.ofList name, rest)
    else none
  | _, _ => none

/-- How a group opens. -/
inductive Opening where
  /-- Flags for what follows in the group around. -/
  | flags (changed : Flags)
  /-- A group without an index. -/
  | plain (inside : Flags)
  /-- A group with the next index. -/
  | capture (groups : Groups)

/-- Reads what follows an opening parenthesis. -/
def readOpening? (flags : Flags) (groups : Groups) (cs : List Char) :
    Option (Opening × List Char) :=
  let named (rest : List Char) : Option (Opening × List Char) := do
    let (name, more) ← readGroupName? rest
    if groups.names.any (·.1 == name) then none
    else some (.capture ⟨groups.count + 1, (name, groups.count + 1) :: groups.names⟩, more)
  match skip flags cs with
  | '?' :: '=' :: _ => none
  | '?' :: '!' :: _ => none
  | '?' :: '<' :: '=' :: _ => none
  | '?' :: '<' :: '!' :: _ => none
  | '?' :: 'P' :: '<' :: rest => named rest
  | '?' :: '<' :: rest => named rest
  | '?' :: rest => do
    let (changed, opens, more) ← readFlags? flags [] none rest
    some (if opens then .plain changed else .flags changed, more)
  | rest => some (.capture { groups with count := groups.count + 1 }, rest)

/-! ## Repetition -/

/-- Reads decimal digits with what is ignored after each. -/
def readDigits (flags : Flags) : Nat → List Char → List Char × List Char
  | 0, cs => ([], cs)
  | fuel + 1, cs =>
    match cs with
    | [] => ([], [])
    | c :: rest =>
      if c.isDigit then
        let (digits, more) := readDigits flags fuel (skip flags rest)
        (c :: digits, more)
      else ([], cs)

/-- Skips white space, and what is ignored after it. -/
def skipTrailing (flags : Flags) (cs : List Char) : List Char :=
  match cs with
  | [] => []
  | c :: rest => if isBlank c then skip flags (trimStart rest) else cs

/-- Reads a decimal number with space around it. -/
def readCount? (flags : Flags) (cs : List Char) : Option (Nat × List Char) :=
  let cs := trimStart cs
  let (digits, rest) := readDigits flags cs.length cs
  if digits = [] then none
  else match Whole.read (Nat.pow 2 32 - 1) digits with
    | .ok n => some (n, skipTrailing flags rest)
    | .error _ => none

/-- Reads the bounds of a repetition after the opening brace. -/
def readBounds? (flags : Flags) (cs : List Char) : Option (Nat × Option Nat × List Char) := do
  let (least, rest) ← readCount? flags (skip flags cs)
  match rest with
  | '\x7d' :: more => some (least, some least, more)
  | ',' :: more =>
    match skip flags more with
    | '\x7d' :: tail => some (least, none, tail)
    | more =>
      let (most, tail) ← readCount? flags more
      match tail with
      | '\x7d' :: tail => if least ≤ most then some (least, some most, tail) else none
      | _ => none
  | _ => none

/-- Repeats the last of the items read so far, which are in reverse. -/
def repeatLast? (flags : Flags) (least : Nat) (most : Option Nat) (items : List Item)
    (cs : List Char) : Option (List Item × List Char) :=
  let (lazily, rest) := match cs with
    | '?' :: more => (true, more)
    | _ => (false, cs)
  match items with
  | [] => none
  | item :: others =>
    if item.isFlags ∨ nestingLimit ≤ item.depth then none
    else
      let node := Node.ofLoop least most ((!lazily) != flags.swapGreed) item.node
      some (item.around node :: others, rest)

/-! ## Patterns -/

/-- The depth of what holds some items. -/
def depthAround (items : List Item) : Nat := items.foldl (fun n item => max n item.depth) 0 + 1

/-- One item for items in reverse. -/
def sequence : List Item → Item
  | [] => { node := .empty }
  | [item] => item
  | items => { node := .ofSequence (items.reverse.map (·.node)), depth := depthAround items }

/-- One item for finished alternatives in reverse and the items of the last one. -/
def alternatives (branches : List Item) (items : List Item) : Item :=
  match branches with
  | [] => sequence items
  | _ =>
    let all := (sequence items :: branches).reverse
    { node := .ofAlternatives (all.map (·.node)), depth := depthAround all }

/-- The class of the dot. -/
def dotClass? (flags : Flags) : Option CodeSet :=
  if ¬ flags.unicode then none
  else if flags.dotAll then some .all
  else if flags.carriage then some (CodeSet.read "a d").compl
  else some (CodeSet.single '\n').compl

/-- The start of a text or of a line. -/
def startLook (flags : Flags) : Look :=
  if ¬ flags.multiLine then .textStart else if flags.carriage then .returnLineStart else .lineStart

/-- The end of a text or of a line. -/
def endLook (flags : Flags) : Look :=
  if ¬ flags.multiLine then .textEnd else if flags.carriage then .returnLineEnd else .lineEnd

/-- A character, or its class if case is ignored. -/
def charNode (flags : Flags) (c : Char) : Node :=
  if flags.ignoreCase then .ofClass (folded flags (.single c)) else .literal [c]

/-- Reads alternatives up to the end of a group or of the text, within `nesting` groups. -/
def readItems? (nesting : Nat) (flags : Flags) (groups : Groups) (branches items : List Item) :
    Nat → List Char → Option (Item × Groups × List Char)
  | 0, _ => none
  | fuel + 1, cs =>
    if nestingLimit < nesting then none
    else match skip flags cs with
    | [] => some (alternatives branches items, groups, [])
    | c :: rest =>
      if c = ')' then some (alternatives branches items, groups, c :: rest)
      else if c = '|' then
        readItems? nesting flags groups (sequence items :: branches) [] fuel rest
      else if c = '(' then
        match readOpening? flags groups rest with
        | none => none
        | some (.flags changed, more) =>
          readItems? nesting changed groups branches (.ofFlags :: items) fuel more
        | some (.plain inside, more) =>
          match readItems? (nesting + 1) inside groups [] [] fuel more with
          | some (body, groups, ')' :: tail) =>
            readItems? nesting flags groups branches (body.around body.node :: items) fuel tail
          | _ => none
        | some (.capture opened, more) =>
          match readItems? (nesting + 1) flags opened [] [] fuel more with
          | some (body, groups, ')' :: tail) =>
            let item := body.around (.group opened.count body.node)
            readItems? nesting flags groups branches (item :: items) fuel tail
          | _ => none
      else if c = '[' then
        match readClass? flags 0 fuel rest with
        | none => none
        | some (cls, more) =>
          let item : Item := { node := .ofClass cls.members, depth := cls.depth }
          readItems? nesting flags groups branches (item :: items) fuel more
      else if c = '*' ∨ c = '+' ∨ c = '?' then
        match repeatLast? flags (if c = '+' then 1 else 0) (if c = '?' then some 1 else none)
            items rest with
        | none => none
        | some (items, more) => readItems? nesting flags groups branches items fuel more
      else if c = '\x7b' then
        match readBounds? flags rest with
        | none => none
        | some (least, most, more) =>
          match repeatLast? flags least most items (skip flags more) with
          | none => none
          | some (items, more) => readItems? nesting flags groups branches items fuel more
      else if c = '\\' then
        match readEscape? flags rest with
        | none => none
        | some (escape, more) =>
          let node := match escape with
            | .char d => charNode flags d
            | .cls members => .ofClass members
            | .look condition => .look condition
          readItems? nesting flags groups branches ({ node } :: items) fuel more
      else if c = '.' then
        match dotClass? flags with
        | none => none
        | some members =>
          readItems? nesting flags groups branches ({ node := .ofClass members } :: items) fuel rest
      else
        let node :=
          if c = '^' then .look (startLook flags)
          else if c = '$' then .look (endLook flags)
          else charNode flags c
        readItems? nesting flags groups branches ({ node } :: items) fuel rest

/-- Reads a pattern. -/
def Regex.read? (cs : List Char) : Option Regex :=
  match readItems? 0 {} {} [] [] (2 * cs.length + 2) cs with
  | some (item, groups, []) =>
    if item.depth ≤ nestingLimit then some ⟨item.node, groups.names⟩ else none
  | _ => none

end Scenario.Pattern
