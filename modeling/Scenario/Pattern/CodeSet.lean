import Scenario.Text.Case

/-!
# Sets of code points

`CodeSet` is a set of code points as ranges, in order and apart: of two neighbours, the second
begins beyond the code point after the first.  A character is a code point that is no surrogate,
so the bounds of a range are never surrogates; a range may still reach across them.

* `CodeSet.ofRanges` makes a set of any ranges, and `CodeSet.read` of a written table.
* `∪`, `∩` and `\` are the operations on sets; `compl` is the complement among all code points.
* `fold` adds what differs from a member in case only.
* `CodeSet.Lookup` is a set prepared for looking up many characters.
-/

set_option autoImplicit false

namespace Scenario.Pattern

open Text

/-- A set of code points as ranges in order that do not touch. -/
structure CodeSet where
  ranges : List (Nat × Nat)
deriving DecidableEq, Repr, Inhabited

namespace CodeSet

/-- The greatest code point. -/
def lastCode : Nat := 0x10FFFF

/-- The character after a code point, beyond the surrogates. -/
def next (c : Nat) : Nat := if c = 0xD7FF then 0xE000 else c + 1

/-- The character before a code point, below the surrogates. -/
def previous (c : Nat) : Nat := if c = 0xE000 then 0xD7FF else c - 1

/-- Joins a range to those after it that it touches; they are in the order of their first
members. -/
def join (first last : Nat) : List (Nat × Nat) → List (Nat × Nat)
  | [] => [(first, last)]
  | (a, b) :: rest =>
    if a ≤ last + 1 then join first (max last b) rest else (first, last) :: join a b rest

/-- The set of the members of ranges. -/
def ofRanges (ranges : List (Nat × Nat)) : CodeSet :=
  match ranges.mergeSort fun r s => r.1 ≤ s.1 with
  | [] => ⟨[]⟩
  | (a, b) :: rest => ⟨join a b rest⟩

/-- The code points from the first to the last. -/
def range (first last : Nat) : CodeSet := ⟨[(first, last)]⟩

/-- The set of one character. -/
def single (c : Char) : CodeSet := range c.toNat c.toNat

/-- All code points. -/
def all : CodeSet := range 0 lastCode

/-- The set of a table. -/
def ofSpans (table : Spans) : CodeSet := ofRanges table.toRanges

/-- The set of a table in its written form. -/
def read (text : String) : CodeSet := ofSpans (Spans.read text)

/-- Whether a code point is a member. -/
def has (s : CodeSet) (c : Nat) : Bool := s.ranges.any fun (a, b) => a ≤ c && c ≤ b

/-- The only member. -/
def only? (s : CodeSet) : Option Char :=
  match s.ranges with
  | [(a, b)] => if a = b then some (Char.ofNat a) else none
  | _ => none

/-- Whether all members are ASCII characters. -/
def isAscii (s : CodeSet) : Bool := s.ranges.all fun (_, b) => b < asciiBound

/-! ## Operations -/

/-- The set of the members of both. -/
def union (s t : CodeSet) : CodeSet := ofRanges (s.ranges ++ t.ranges)

/-- The ranges between `last` and the ranges after it, and beyond these.  Where only surrogates
lie between two ranges, the code points on both sides of them are taken. -/
def gaps (last : Nat) : List (Nat × Nat) → List (Nat × Nat)
  | [] => if last < lastCode then [(next last, lastCode)] else []
  | (a, b) :: rest =>
    (min (next last) (previous a), max (next last) (previous a)) :: gaps b rest

/-- All other code points. -/
def compl (s : CodeSet) : CodeSet :=
  match s.ranges with
  | [] => all
  | (a, b) :: rest => ⟨(if 0 < a then [(0, previous a)] else []) ++ gaps b rest⟩

/-- What ranges have in common. -/
def common : List (Nat × Nat) → List (Nat × Nat) → List (Nat × Nat)
  | [], _ => []
  | _, [] => []
  | (a, b) :: rs, (c, d) :: ss =>
    let rest := if b < d then common rs ((c, d) :: ss) else common ((a, b) :: rs) ss
    if max a c ≤ min b d then (max a c, min b d) :: rest else rest
termination_by rs ss => rs.length + ss.length

/-- The common members. -/
def inter (s t : CodeSet) : CodeSet := ⟨common s.ranges t.ranges⟩

/-- What of ranges is not in others. -/
def without : List (Nat × Nat) → List (Nat × Nat) → List (Nat × Nat)
  | [], _ => []
  | rs, [] => rs
  | (a, b) :: rs, (c, d) :: ss =>
    if b < c then (a, b) :: without rs ((c, d) :: ss)
    else if d < a then without ((a, b) :: rs) ss
    else
      let rest := if d < b then without ((next d, b) :: rs) ss else without rs ((c, d) :: ss)
      if a < c then (a, previous c) :: rest else rest
termination_by rs ss => rs.length + ss.length

/-- The members of the first that are not in the second. -/
def sdiff (s t : CodeSet) : CodeSet := ⟨without s.ranges t.ranges⟩

instance : Union CodeSet := ⟨union⟩
instance : Inter CodeSet := ⟨inter⟩
instance : SDiff CodeSet := ⟨sdiff⟩

/-- The members of exactly one of two sets. -/
def symmDiff (s t : CodeSet) : CodeSet := (s ∪ t) \ (s ∩ t)

/-! ## Looking up -/

/-- Ranges in order, to be searched by halving. -/
abbrev Lookup := Array (Nat × Nat)

/-- The set prepared for looking up. -/
def toLookup (s : CodeSet) : Lookup := s.ranges.toArray

/-- Whether a code point lies in a range from the place `low` on and before the place `high`. -/
def Lookup.hasBetween (ranges : Lookup) (c low high : Nat) : Bool :=
  if low < high then
    let middle := low + (high - low) / 2
    match ranges[middle]? with
    | none => false
    | some (a, b) =>
      if c < a then hasBetween ranges c low middle
      else if b < c then hasBetween ranges c (middle + 1) high
      else true
  else false
termination_by high - low

/-- Whether a code point is a member. -/
def Lookup.has (ranges : Lookup) (c : Nat) : Bool := ranges.hasBetween c 0 ranges.size

/-! ## Case -/

/-- The set with all that differs from a member in case only. -/
def foldUnicode (s : CodeSet) : CodeSet :=
  let members := s.toLookup
  let families := caseFamilies.filter (·.any members.has)
  s ∪ ofRanges (families.flatMap fun family => family.map fun c => (c, c))

/-- The set with the other case of its ASCII letters. -/
def foldAscii (s : CodeSet) : CodeSet :=
  let moved (first last other : Nat) : List (Nat × Nat) :=
    (s ∩ range first last).ranges.map fun (a, b) => (a - first + other, b - first + other)
  s ∪ ofRanges (moved 0x41 0x5A 0x61 ++ moved 0x61 0x7A 0x41)

end CodeSet
end Scenario.Pattern
