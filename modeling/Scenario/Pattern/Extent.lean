import Scenario.Pattern.ByteRanges
import Scenario.Pattern.LiteralTree
import Scenario.Pattern.Node

/-!
# The extent of automata

A pattern may be as large as the automaton that reads the bytes of a text for it, and the one that
reads them backwards, stay within a limit.  The automata are not built, but measured.

* `Extent` counts states and the room they take: a state takes `stateRoom`, each way out of a
  state with several ways `wayRoom`, and each step on a range of bytes out of a state with several
  of them `stepRoom`.
* A part of an automaton starts at one state and ends at another.  It is measured by what it adds
  to an extent, and by whether its end is a choice, which takes a way more when the part is joined
  to what follows.
* A class of characters is measured by joining equal endings of the bytes of its characters, as
  far as a table of limited size remembers them (`Endings`).
-/

set_option autoImplicit false

namespace Scenario.Pattern

open Text

/-- What an automaton consists of. -/
structure Extent where
  /-- The number of states, which is also the number of the next state. -/
  states : Nat := 0
  /-- The room they take. -/
  room : Nat := 0
deriving DecidableEq, Repr

namespace Extent

/-- The most room that an automaton may take. -/
def limit : Nat := 10485760

/-- The room of a state. -/
def stateRoom : Nat := 32

/-- The room of a way out of a choice. -/
def wayRoom : Nat := 4

/-- The room of one of several steps. -/
def stepRoom : Nat := 8

/-- Whether the automaton is too large. -/
def isOver (e : Extent) : Bool := limit < e.room

/-- Adds states without ways or steps to count. -/
def plain (e : Extent) (count : Nat) : Extent := ⟨e.states + count, e.room + count * stateRoom⟩

/-- Adds a state with steps. -/
def steps (e : Extent) (count : Nat) : Extent :=
  ⟨e.states + 1, e.room + stateRoom + count * stepRoom⟩

/-- Adds ways out of choices. -/
def ways (e : Extent) (count : Nat) : Extent := { e with room := e.room + count * wayRoom }

/-- Adds the way out of an end that is a choice. -/
def leave (e : Extent) (isChoice : Bool) : Extent := if isChoice then e.ways 1 else e

end Extent

/-! ## Remembered endings -/

/-- A step on a range of bytes to a state. -/
structure ByteStep where
  first : Nat
  last : Nat
  target : Nat
deriving DecidableEq, Repr

/-- What has been built of a class: states by their steps, each at a place that its steps decide.
A state takes the place of the one that was there before. -/
abbrev Endings := Array (List ByteStep × Nat)

namespace Endings

/-- No states, with a number of places. -/
def empty (size : Nat) : Endings := Array.replicate size ([], 0)

/-- Mixes a number into a hash value. -/
def mix (hash : UInt64) (n : Nat) : UInt64 := (hash ^^^ n.toUInt64) * 1099511628211

/-- The place that numbers decide. -/
def place (size : Nat) (key : List Nat) : Nat := (key.foldl mix 14695981039346656037).toNat % size

/-- The state with the given steps, if it is remembered. -/
def find? (endings : Endings) (place : Nat) (key : List ByteStep) : Option Nat :=
  match endings[place]? with
  | some (steps, state) => if steps = key then some state else none
  | none => none

/-- Remembers a state. -/
def put (endings : Endings) (place : Nat) (key : List ByteStep) (state : Nat) : Endings :=
  endings.setIfInBounds place (key, state)

end Endings

/-- The part of a class that has been built. -/
structure ClassBuild where
  extent : Extent
  endings : Endings

namespace ClassBuild

/-- The state with the given steps: one that is remembered, or else a new one. -/
def stateOf (b : ClassBuild) (steps : List ByteStep) : Nat × ClassBuild :=
  let place := Endings.place b.endings.size (steps.flatMap fun s => [s.first, s.last, s.target])
  match b.endings.find? place steps with
  | some state => (state, b)
  | none =>
    let state := b.extent.states
    (state, ⟨b.extent.steps steps.length, b.endings.put place steps state⟩)

/-- A state on the way of the last sequence: its finished steps, the last one first, and the range
of the step that goes on. -/
abbrev OpenState := List ByteStep × ByteRange

/-- Finishes the states on a way, from its end, and returns the first of them. -/
def finish (b : ClassBuild) (target : Nat) : List OpenState → Nat × ClassBuild
  | [] => (target, b)
  | (steps, range) :: rest =>
    let (next, b) := b.finish target rest
    b.stateOf (⟨range.1, range.2, next⟩ :: steps).reverse

/-- Goes from the way of the last sequence to that of the next one, which shares its beginning. -/
def advance (b : ClassBuild) (target : Nat) :
    List OpenState → List ByteRange → List OpenState × ClassBuild
  | (steps, range) :: rest, r :: more =>
    if range = r then
      let (rest, b) := b.advance target rest more
      ((steps, range) :: rest, b)
    else
      let (next, b) := b.finish target rest
      ((⟨range.1, range.2, next⟩ :: steps, r) :: more.map ([], ·), b)
  | way, [] => (way, b)
  | [], ranges => (ranges.map ([], ·), b)

/-- Builds a class from its first byte on, so that equal endings are one, and equal beginnings of
neighbours too. -/
def forwards (e : Extent) (sequences : List (List ByteRange)) : Extent :=
  let target := e.states
  let start : ClassBuild := ⟨e.plain 1, Endings.empty 10000⟩
  let (way, b) := sequences.foldl (fun (way, b) s => b.advance target way s) ([], start)
  (b.finish target way).2.extent

/-- Adds the way of one sequence backwards, each byte as a state of its own. -/
def backwardsWay (b : ClassBuild) (target : Nat) (sequence : List ByteRange) : ClassBuild :=
  (sequence.foldl (fun (target, b) range =>
    let place := Endings.place b.endings.size [target, range.1, range.2]
    let key := [⟨range.1, range.2, target⟩]
    match b.endings.find? place key with
    | some state => (state, b)
    | none =>
      let state := b.extent.states
      (state, ⟨b.extent.plain 1, b.endings.put place key state⟩)) (target, b)).2

/-- Builds a class from its last byte on: a choice between sequences, of which equal beginnings are
one. -/
def backwards (e : Extent) (sequences : List (List ByteRange)) : Extent :=
  let start : ClassBuild := ⟨e.plain 2, Endings.empty 1000⟩
  let b := sequences.foldl (fun b s => b.backwardsWay (e.states + 1) s) start
  b.extent.ways sequences.length

end ClassBuild

namespace Extent

/-! ## Parts of automata -/

/-- Adds a class of characters. -/
def cls (forward : Bool) (members : CodeSet) (e : Extent) : Extent :=
  if members.isAscii then (e.plain 1).steps members.ranges.length
  else
    let sequences := members.ranges.flatMap fun (a, b) => byteSequences a b
    if forward then ClassBuild.forwards e sequences else ClassBuild.backwards e sequences

mutual

/-- Adds the states of a tree of literals other than its leaves. -/
def tree : LiteralTree → Extent → Extent
  | .node closed latest, e =>
    let (count, e) := treeChunks closed e
    let (last, e) := treeBranches latest e
    let chunk := if last = 0 then 0 else 1
    let e := if last = 0 then e else if last = 1 then e.plain 1 else e.steps last
    (e.plain 1).ways (count + chunk + closed.length)

/-- Adds the states of finished branches, and counts those that are not empty. -/
def treeChunks : List (List (Nat × LiteralTree)) → Extent → Nat × Extent
  | [], e => (0, e)
  | branches :: rest, e =>
    let (size, e) := treeBranches branches e
    let e := if size = 0 then e else if size = 1 then e.plain 1 else e.steps size
    let (count, e) := treeChunks rest e
    (if size = 0 then count else count + 1, e)

/-- Adds the states beyond branches, and counts these. -/
def treeBranches : List (Nat × LiteralTree) → Extent → Nat × Extent
  | [], e => (0, e)
  | (_, t) :: rest, e =>
    let e := if t.isLeaf then e else tree t e
    let (count, e) := treeBranches rest e
    (count + 1, e)

end

/-- The literals of alternatives that are all literals. -/
def literals? (nodes : List Node) : Option (List (List Nat)) :=
  nodes.mapM fun
    | .literal text => some (Utf8.encode text)
    | _ => none

/-- Adds a part a number of times, each joined to the one before, until the limit is passed. -/
def repeated (part : Extent → Extent × Bool) : Nat → Extent × Bool → Extent × Bool
  | 0, r => r
  | n + 1, (e, isChoice) =>
    if e.isOver then (e, isChoice) else repeated part n (part (e.leave isChoice))

/-- Adds a part exactly a number of times. -/
def exactly (part : Extent → Extent × Bool) (e : Extent) : Nat → Extent × Bool
  | 0 => (e.plain 1, false)
  | n + 1 => repeated part n (part e)

/-- Adds a part a number of times, each after a choice to go past all of them. -/
def optional (part : Extent → Extent × Bool) : Nat → Extent × Bool → Extent × Bool
  | 0, r => r
  | n + 1, (e, isChoice) =>
    if e.isOver then (e, isChoice)
    else optional part n (part (((e.leave isChoice).plain 1).ways 2))

/-- Adds a part that is repeated, where `needsText` tells that it never matches the empty text. -/
def loop (least : Nat) (most : Option Nat) (needsText : Bool) (part : Extent → Extent × Bool)
    (e : Extent) : Extent × Bool :=
  match least, most with
  | 0, some 1 =>
    let (e, isChoice) := part (e.plain 1)
    (((e.plain 1).ways 2).leave isChoice, false)
  | 0, none =>
    if needsText then
      let (e, isChoice) := part (e.plain 1)
      ((e.ways 1).leave isChoice, true)
    else
      let (e, isChoice) := part e
      (((e.plain 3).ways 4).leave isChoice, false)
  | 1, none =>
    let (e, isChoice) := part e
    (((e.plain 1).ways 1).leave isChoice, true)
  | n, none =>
    let (e, before) := exactly part e (n - 1)
    let (e, isChoice) := part e
    ((((e.leave before).plain 1).ways 1).leave isChoice, true)
  | least, some most =>
    let (e, before) := exactly part e least
    if least = most then (e, before)
    else
      let (e, isChoice) := optional part (most - least) (e.plain 1, before)
      (e.leave isChoice, false)

mutual

/-- Adds a pattern. -/
def node (forward : Bool) : Node → Extent → Extent × Bool
  | .empty, e => (e.plain 1, false)
  | .literal text, e => (e.plain (Utf8.encode text).length, false)
  | .cls members, e => (cls forward members e, false)
  | .look _, e => (e.plain 1, false)
  | .group _ body, e =>
    if forward then
      let (e, isChoice) := node forward body (e.plain 1)
      ((e.plain 1).leave isChoice, false)
    else node forward body e
  | .seq parts, e => sequence forward parts e false
  | .alt branches, e =>
    match literals? branches with
    | some strings => (tree (.ofStrings strings) (e.plain 1), false)
    | none => (choice forward branches e 0, false)
  | .loop least most _ body, e => loop least most body.needsText (node forward body) e

/-- Adds patterns in sequence after an end. -/
def sequence (forward : Bool) : List Node → Extent → Bool → Extent × Bool
  | [], e, isChoice => (e, isChoice)
  | part :: rest, e, isChoice =>
    let (e, isChoice) := node forward part (e.leave isChoice)
    sequence forward rest e isChoice

/-- Adds alternatives; the states that choose and that end them come after the first two. -/
def choice (forward : Bool) : List Node → Extent → Nat → Extent
  | [], e, _ => e
  | branch :: rest, e, index =>
    let (e, isChoice) := node forward branch e
    let e := if index = 1 then e.plain 2 else e
    choice forward rest ((e.ways 1).leave isChoice) (index + 1)

end

/-- The automaton of a pattern with its groups, which may begin anywhere in a text unless the
pattern needs its start. -/
def ofPattern (body : Node) : Extent :=
  let e : Extent := {}
  let e := if body.startsWith .textStart then e.plain 1 else ((e.plain 2).steps 1).ways 2
  (node true (.group 0 body) e).1.plain 1

/-- The automaton of a pattern that reads the text backwards, without its groups. -/
def ofBackwards (body : Node) : Extent :=
  let body := body.backwards
  let e : Extent := {}
  let e := if body.startsWith .textEnd then e.plain 1 else ((e.plain 2).steps 1).ways 2
  let (e, isChoice) := node false body e
  (e.leave isChoice).plain 1

/-- Whether the automata of a pattern are within the limit. -/
def fits (body : Node) : Bool := !(ofPattern body).isOver && !(ofBackwards body).isOver

end Extent
end Scenario.Pattern
