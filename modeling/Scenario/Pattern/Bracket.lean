import Scenario.Pattern.Escape

/-!
# Classes in brackets

`readClass?` reads a class such as `[a-z&&[^aeiou]]` after its opening bracket.  The depth of a
class counts the brackets, lists of items and operators that are nested in it.
-/

set_option autoImplicit false

namespace Scenario.Pattern

open Text

/-- How deep a pattern may be nested. -/
def nestingLimit : Nat := 250

/-- A set of characters and how deep its description is nested. -/
structure ClassItem where
  members : CodeSet
  depth : Nat := 0

/-- The ASCII classes by name. -/
def asciiClass? (name : String) : Option CodeSet :=
  [("alnum", "30..39 41..5a 61..7a"), ("alpha", "41..5a 61..7a"), ("ascii", "0..7f"),
   ("blank", "9 20"), ("cntrl", "0..1f 7f"), ("digit", "30..39"), ("graph", "21..7e"),
   ("lower", "61..7a"), ("print", "20..7e"), ("punct", "21..2f 3a..40 5b..60 7b..7e"),
   ("space", "9..d 20"), ("upper", "41..5a"), ("word", "30..39 41..5a 5f 61..7a"),
   ("xdigit", "30..39 41..46 61..66")].lookup name |>.map CodeSet.read

/-- Reads an ASCII class such as `[:alpha:]` after its `[:`, and whether it is the complement. -/
def readAsciiClass? (flags : Flags) (cs : List Char) : Option (CodeSet × Bool × List Char) :=
  let (negated, cs) := match cs with
    | '^' :: rest => (true, rest)
    | _ => (false, cs)
  let name := cs.takeWhile (· != ':')
  match cs.dropWhile (· != ':') with
  | ':' :: ']' :: more =>
    (asciiClass? (String.ofList name)).map fun members =>
      (negatedIf negated (folded flags members), negated, more)
  | _ => none

/-- How two classes are combined. -/
inductive ClassOp where
  | inter
  | minus
  | differ

/-- Combines a finished class with the next operand. -/
def ClassOp.apply (flags : Flags) (op : ClassOp) (a b : ClassItem) : ClassItem :=
  let s := folded flags a.members
  let t := folded flags b.members
  let members := match op with
    | inter => s ∩ t
    | minus => s \ t
    | differ => s.symmDiff t
  ⟨members, max a.depth b.depth + 1⟩

/-- The class of items. -/
def ClassItem.ofList : List ClassItem → ClassItem
  | [] => ⟨⟨[]⟩, 0⟩
  | [item] => item
  | items =>
    ⟨.ofRanges (items.flatMap (·.members.ranges)), items.foldl (fun n i => max n i.depth) 0 + 1⟩

/-- The class of the items read since the last operator, combined with what stands before it. -/
def closeClass (flags : Flags) (pending : Option (ClassOp × ClassItem))
    (items : List ClassItem) : ClassItem :=
  match pending with
  | none => .ofList items
  | some (op, left) => op.apply flags left (.ofList items)

/-- Reads one item of a class, which is no bracket and no operator. -/
def readClassItem? (flags : Flags) (cs : List Char) : Option (Escape × List Char) :=
  let item := match cs with
    | [] => none
    | '\\' :: rest => readEscape? flags rest
    | c :: rest => some (.char c, rest)
  item.filter fun (escape, _) =>
    match escape with
    | .char c => flags.unicode || c.toNat < asciiBound
    | _ => true

/-- Reads an item or a range. -/
def readClassRange? (flags : Flags) (cs : List Char) : Option (CodeSet × List Char) := do
  let (first, rest) ← readClassItem? flags cs
  let rest := skip flags rest
  let alone : Option (CodeSet × List Char) := match first with
    | .char c => some (.single c, rest)
    | .cls members => some (members, rest)
    | .look _ => none
  match rest with
  | [] => none
  | '-' :: more =>
    let decider := peek flags more
    if decider = some ']' ∨ decider = some '-' then alone
    else
      let (last, rest) ← readClassItem? flags (skip flags more)
      match first, last with
      | .char a, .char b => if a ≤ b then some (.range a.toNat b.toNat, rest) else none
      | _, _ => none
  | _ => alone

/-- Reads leading hyphens of a class. -/
def readHyphens (flags : Flags) : Nat → List Char → List ClassItem × List Char
  | 0, cs => ([], cs)
  | fuel + 1, cs =>
    match cs with
    | '-' :: rest =>
      let (items, more) := readHyphens flags fuel (skip flags rest)
      (⟨.single '-', 0⟩ :: items, more)
    | _ => ([], cs)

/-- Reads what stands as itself at the start of a class: hyphens, or else a closing bracket. -/
def readClassHead (flags : Flags) (fuel : Nat) (cs : List Char) : List ClassItem × List Char :=
  match readHyphens flags fuel cs with
  | ([], ']' :: rest) => ([⟨.single ']', 0⟩], skip flags rest)
  | head => head

mutual

/-- Reads a class after its opening bracket, within `nesting` classes. -/
def readClass? (flags : Flags) (nesting : Nat) : Nat → List Char → Option (ClassItem × List Char)
  | 0, _ => none
  | fuel + 1, cs =>
    if nestingLimit < nesting then none else
    let cs := skip flags cs
    let (negated, cs) := match cs with
      | '^' :: rest => (true, skip flags rest)
      | _ => (false, cs)
    let (items, cs) := readClassHead flags fuel cs
    match readClassItems? flags nesting fuel none items cs with
    | none => none
    | some (item, more) =>
      if negated ∧ ¬ flags.unicode then none
      else some (⟨negatedIf negated (folded flags item.members), item.depth + 1⟩, more)

/-- Reads items and operators up to the closing bracket; the items since the last operator are in
reverse. -/
def readClassItems? (flags : Flags) (nesting : Nat) :
    Nat → Option (ClassOp × ClassItem) → List ClassItem → List Char →
    Option (ClassItem × List Char)
  | 0, _, _, _ => none
  | fuel + 1, pending, items, cs =>
    match skip flags cs with
    | [] => none
    | ']' :: rest => some (closeClass flags pending items, rest)
    | '[' :: rest =>
      let ascii := match rest with
        | ':' :: inside => readAsciiClass? flags inside
        | _ => none
      match ascii with
      | some (members, negated, more) =>
        if negated ∧ ¬ flags.unicode then none
        else readClassItems? flags nesting fuel pending (⟨members, 0⟩ :: items) more
      | none =>
        match readClass? flags (nesting + 1) fuel rest with
        | none => none
        | some (item, more) => readClassItems? flags nesting fuel pending (item :: items) more
    | '&' :: '&' :: rest =>
      readClassItems? flags nesting fuel (some (.inter, closeClass flags pending items)) [] rest
    | '-' :: '-' :: rest =>
      readClassItems? flags nesting fuel (some (.minus, closeClass flags pending items)) [] rest
    | '~' :: '~' :: rest =>
      readClassItems? flags nesting fuel (some (.differ, closeClass flags pending items)) [] rest
    | more =>
      match readClassRange? flags more with
      | none => none
      | some (members, rest) =>
        readClassItems? flags nesting fuel pending (⟨members, 0⟩ :: items) rest

end

end Scenario.Pattern
