import Scenario.Pattern.Node

/-!
# Matching patterns

* `Compiled.ofRegex` turns a pattern into a list of instructions.
* `Compiled.find` reads a text once from left to right and keeps the runs of the program that are
  still possible, the preferred ones first.  It finds the leftmost match, and of those the one
  that prefers earlier alternatives and longer or shorter repetitions as the pattern says.
-/

set_option autoImplicit false

namespace Scenario.Pattern

/-- An instruction; numbers are addresses of instructions to go on with. -/
inductive Instruction where
  | char (c : Char) (next : Nat)
  | cls (members : CodeSet.Lookup) (next : Nat)
  | look (condition : Look) (next : Nat)
  | split (preferred other : Nat)
  | save (slot next : Nat)
  | accept

/-- Instructions by address. -/
abbrev Program := Array Instruction

namespace Program

/-- Adds an instruction and returns its address. -/
def emit (code : Program) (i : Instruction) : Program × Nat :=
  let address := code.size
  (code.push i, address)

/-- Adds instructions for characters one after the other. -/
def emitChars (code : Program) (text : List Char) (next : Nat) : Program × Nat :=
  text.foldr (fun c (code, next) => emit code (.char c next)) (code, next)

/-- Adds a choice between going in and going past. -/
def emitChoice (code : Program) (greedy : Bool) (into past : Nat) : Program × Nat :=
  emit code (if greedy then .split into past else .split past into)

/-- Writes a choice at an address that was kept free. -/
def putChoice (code : Program) (address : Nat) (greedy : Bool) (into past : Nat) : Program :=
  code.setIfInBounds address (if greedy then .split into past else .split past into)

/-- Applies a step of compilation a number of times, each before what the last one left. -/
def emitTimes (step : Program → Nat → Program × Nat) : Nat → Program → Nat → Program × Nat
  | 0, code, next => (code, next)
  | n + 1, code, next =>
    let (code, entry) := step code next
    emitTimes step n code entry

/-- Applies a step a number of times, each with the choice to leave for `past` before it. -/
def emitOptional (step : Program → Nat → Program × Nat) (greedy : Bool) (past : Nat) :
    Nat → Program → Nat → Program × Nat
  | 0, code, next => (code, next)
  | n + 1, code, next =>
    let (code, entry) := step code next
    let (code, entry) := emitChoice code greedy entry past
    emitOptional step greedy past n code entry

/-- Compiles at least one repetition: the body, then the choice to go back. -/
def emitPlus (step : Program → Nat → Program × Nat) (greedy : Bool) (code : Program)
    (next : Nat) : Program × Nat :=
  let (code, back) := emit code .accept
  let (code, entry) := step code back
  (code.putChoice back greedy entry next, entry)

/-- Compiles any number of repetitions.  A body that can be empty is entered by a choice of its
own, so that an empty repetition is not preferred to leaving. -/
def emitStar (step : Program → Nat → Program × Nat) (needsText greedy : Bool)
    (code : Program) (next : Nat) : Program × Nat :=
  if needsText then
    let (code, back) := emit code .accept
    let (code, entry) := step code back
    (code.putChoice back greedy entry next, back)
  else
    let (code, entry) := emitPlus step greedy code next
    emitChoice code greedy entry next

mutual

/-- Compiles a node so that it goes on at `next`; returns where it starts. -/
def compile : Node → Program → Nat → Program × Nat
  | .empty, code, next => (code, next)
  | .literal text, code, next => emitChars code text next
  | .cls members, code, next => emit code (.cls members.toLookup next)
  | .look condition, code, next => emit code (.look condition next)
  | .group index body, code, next =>
    let (code, close) := emit code (.save (2 * index + 1) next)
    let (code, entry) := compile body code close
    emit code (.save (2 * index) entry)
  | .seq parts, code, next => compileSeq parts code next
  | .alt branches, code, next => compileAlt branches code next
  | .loop least most greedy body, code, next =>
    match most with
    | some most =>
      let (code, entry) := emitOptional (compile body) greedy next (most - least) code next
      emitTimes (compile body) least code entry
    | none =>
      if least = 0 then emitStar (compile body) body.needsText greedy code next
      else
        let (code, entry) := emitPlus (compile body) greedy code next
        emitTimes (compile body) (least - 1) code entry

/-- Compiles nodes in sequence. -/
def compileSeq : List Node → Program → Nat → Program × Nat
  | [], code, next => (code, next)
  | node :: rest, code, next =>
    let (code, entry) := compileSeq rest code next
    compile node code entry

/-- Compiles alternatives. -/
def compileAlt : List Node → Program → Nat → Program × Nat
  | [], code, next => (code, next)
  | [node], code, next => compile node code next
  | node :: rest, code, next =>
    let (code, other) := compileAlt rest code next
    let (code, entry) := compile node code next
    emit code (.split entry other)

end

end Program

/-- A compiled pattern: its instructions, where they start, and the names of its groups. -/
structure Compiled where
  code : Program
  start : Nat
  names : List (String × Nat)

namespace Compiled

/-- Compiles a pattern as group 0. -/
def ofRegex (r : Regex) : Compiled :=
  let (code, start) := Program.compile (.group 0 r.body) #[.accept] 0
  ⟨code, start, r.names⟩

/-! ## Running -/

/-- The places saved so far with their slots, the latest first. -/
abbrev Slots := List (Nat × Nat)

/-- A run of the program that waits for a character, or that has accepted. -/
structure Thread where
  address : Nat
  slots : Slots

/-- Which instructions have been visited since the last character: those marked with the current
number. -/
structure Visits where
  current : Nat
  marks : Array Nat

/-- No visits to a program. -/
def Visits.empty (code : Program) : Visits := ⟨0, Array.replicate code.size 0⟩

/-- Follows instructions that take no character.  Addresses on the stack are in order of
preference; each is entered once.  The threads found are in reverse. -/
def follow (code : Program) (before after : Option Char) (place current : Nat) :
    Nat → List Thread → Array Nat → List Thread → Array Nat × List Thread
  | 0, _, marks, found => (marks, found)
  | _, [], marks, found => (marks, found)
  | fuel + 1, thread :: stack, marks, found =>
    if marks.getD thread.address current = current then
      follow code before after place current fuel stack marks found
    else
      let marks := marks.setIfInBounds thread.address current
      match code[thread.address]? with
      | none => follow code before after place current fuel stack marks found
      | some (.look condition next) =>
        let stack := if condition.holds before after then ⟨next, thread.slots⟩ :: stack else stack
        follow code before after place current fuel stack marks found
      | some (.split preferred other) =>
        follow code before after place current fuel
          (⟨preferred, thread.slots⟩ :: ⟨other, thread.slots⟩ :: stack) marks found
      | some (.save slot next) =>
        follow code before after place current fuel
          (⟨next, (slot, place) :: thread.slots⟩ :: stack) marks found
      | some _ => follow code before after place current fuel stack marks (thread :: found)

/-- Follows from some threads in order. -/
def followAll (code : Program) (before after : Option Char) (place : Nat)
    (threads : List Thread) (visits : Visits) : Visits × List Thread :=
  let fuel := 2 * code.size + threads.length + 2
  let current := visits.current + 1
  let (marks, found) := follow code before after place current fuel threads visits.marks []
  (⟨current, marks⟩, found.reverse)

/-- The threads preferred to the first one that has accepted, and what that one saved. -/
def cut (code : Program) : List Thread → List Thread × Option Slots
  | [] => ([], none)
  | thread :: rest =>
    match code[thread.address]? with
    | some .accept => ([], some thread.slots)
    | _ =>
      let (kept, accepted) := cut code rest
      (thread :: kept, accepted)

/-- The threads after a character. -/
def advance (code : Program) (c : Char) (threads : List Thread) : List Thread :=
  threads.filterMap fun (thread : Thread) =>
    match code[thread.address]? with
    | some (.char d next) => if c = d then some ⟨next, thread.slots⟩ else none
    | some (.cls members next) => if members.has c.toNat then some ⟨next, thread.slots⟩ else none
    | _ => none

/-- A place in a text: the character before it, its index, and what follows. -/
structure Cursor where
  before : Option Char
  place : Nat
  rest : List Char

/-- The place a number of characters further. -/
def Cursor.skip : Nat → Cursor → Cursor
  | n + 1, ⟨_, place, c :: rest⟩ => skip n ⟨some c, place + 1, rest⟩
  | _, cursor => cursor

/-- Reads the rest of a text, with threads that stand before it and the best match so far.  As
long as there is no match, one may begin at every place. -/
def run (p : Compiled) (before : Option Char) (place : Nat) (threads : List Thread)
    (best : Option Slots) (visits : Visits) : List Char → Visits × Option Slots
  | [] =>
    let entering := if best.isNone then [⟨p.start, []⟩] else []
    let (visits, threads) := followAll p.code before none place (threads ++ entering) visits
    (visits, (cut p.code threads).2 <|> best)
  | c :: rest =>
    let entering := if best.isNone then [⟨p.start, []⟩] else []
    let (visits, threads) := followAll p.code before (some c) place (threads ++ entering) visits
    let (kept, accepted) := cut p.code threads
    let best := accepted <|> best
    if kept.isEmpty && best.isSome then (visits, best)
    else p.run (some c) (place + 1) (advance p.code c kept) best visits rest

/-- What the first match from a place on has saved. -/
def find (p : Compiled) (visits : Visits) (cursor : Cursor) : Visits × Option Slots :=
  p.run cursor.before cursor.place [] none visits cursor.rest

end Compiled
end Scenario.Pattern
