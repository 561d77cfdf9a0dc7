/-!
# Tables of characters

Sets of characters and maps between them, given by runs of code points.

* `Spans` is a set: runs of equally spaced code points.  `Spans.read` reads its written form.
* `Shifts` is a map that moves each member of a run by the same distance.
-/

set_option autoImplicit false

namespace Scenario.Text

/-- Runs of code points: the first, the last, and the step from one member to the next. -/
abbrev Spans := List (Nat × Nat × Nat)

/-- Runs of code points as in `Spans`, and the distance from a member to its image. -/
abbrev Shifts := List (Nat × Nat × Nat × Int)

/-- Whether a code point lies in a run. -/
def inSpan (c first last step : Nat) : Bool :=
  first ≤ c && c ≤ last && (c - first) % step == 0

namespace Spans

/-- The value of a hexadecimal digit in lower case. -/
def digit (c : Char) : Nat := if c.isDigit then c.toNat - '0'.toNat else c.toNat - 'a'.toNat + 10

/-- The value of hexadecimal digits in lower case. -/
def number (digits : String) : Nat := digits.toList.foldl (fun n c => n * 16 + digit c) 0

/-- Reads a run: `41` is one code point, `41..5a` goes from the first to the last, and
`100..12e/2` takes every second one. -/
def readRun (run : String) : Nat × Nat × Nat :=
  match run.splitOn ".." with
  | [first, rest] =>
    match rest.splitOn "/" with
    | [last, step] => (number first, number last, step.toNat?.getD 1)
    | _ => (number first, number rest, 1)
  | _ => (number run, number run, 1)

/-- Reads runs with a space between them. -/
def read (text : String) : Spans := ((text.splitOn " ").filter (· != "")).map readRun

/-- Reads lines of runs. -/
def ofLines (lines : List String) : Spans := lines.flatMap read

/-- Whether a code point lies in one of the runs. -/
def has (table : Spans) (c : Nat) : Bool :=
  table.any fun (first, last, step) => inSpan c first last step

/-- The members of a run with a step between `first` and `last`. -/
def members (first last step : Nat) : List Nat :=
  (List.range ((last - first) / step + 1)).map fun i => first + i * step

/-- The runs as ranges without a step. -/
def toRanges (table : Spans) : List (Nat × Nat) :=
  table.flatMap fun (first, last, step) =>
    if step = 1 then [(first, last)] else (members first last step).map fun c => (c, c)

end Spans

namespace Shifts

/-- The image of a code point, if it lies in one of the runs. -/
def image? (table : Shifts) (c : Nat) : Option Nat :=
  table.findSome? fun (first, last, step, distance) =>
    if inSpan c first last step then some (c + distance).toNat else none

/-- The members of the runs with their images. -/
def pairs (table : Shifts) : List (Nat × Nat) :=
  table.flatMap fun (first, last, step, distance) =>
    (Spans.members first last step).map fun c => (c, (c + distance).toNat)

end Shifts
end Scenario.Text
