/-!
# Base64

The standard alphabet with padding.

* `encode` writes bytes, three to a group of four symbols, and fills the last group up.
* `decode` accepts exactly what `encode` writes.  A `Fault` names the first thing that is wrong:
  a symbol out of place, a last group that is too short, missing padding, or bits of the last
  symbol that belong to no byte.
-/

set_option autoImplicit false

namespace Scenario.Text.Base64

/-- What is wrong with a text. -/
inductive Fault where
  /-- A byte that is no symbol, or padding where none may stand. -/
  | symbol (byte offset : Nat)
  /-- One symbol alone in the last group. -/
  | length (size : Nat)
  /-- A last symbol with bits beyond the last byte. -/
  | lastSymbol (byte offset : Nat)
  /-- A last group that is not filled up. -/
  | padding
deriving DecidableEq, Repr

/-- The fault in words. -/
def Fault.message : Fault → String
  | symbol byte offset => s!"Invalid symbol {byte}, offset {offset}."
  | length size => s!"Invalid input length: {size}"
  | lastSymbol byte offset => s!"Invalid last symbol {byte}, offset {offset}."
  | padding => "Invalid padding"

/-- The code of the padding character `=`. -/
def pad : Nat := 61

/-- The symbol for a value below 64. -/
def symbolOf (v : Nat) : Nat :=
  if v < 26 then 65 + v
  else if v < 52 then 97 + (v - 26)
  else if v < 62 then 48 + (v - 52)
  else if v = 62 then 43
  else 47

/-- The value of a symbol. -/
def valueOf? (b : Nat) : Option Nat :=
  if 65 ≤ b ∧ b ≤ 90 then some (b - 65)
  else if 97 ≤ b ∧ b ≤ 122 then some (b - 97 + 26)
  else if 48 ≤ b ∧ b ≤ 57 then some (b - 48 + 52)
  else if b = 43 then some 62
  else if b = 47 then some 63
  else none

/-- The text for some bytes. -/
def encode : List Nat → List Nat
  | [] => []
  | [a] => [symbolOf (a / 4), symbolOf (a % 4 * 16), pad, pad]
  | [a, b] => [symbolOf (a / 4), symbolOf (a % 4 * 16 + b / 16), symbolOf (b % 16 * 4), pad]
  | a :: b :: c :: rest =>
    symbolOf (a / 4) :: symbolOf (a % 4 * 16 + b / 16) :: symbolOf (b % 16 * 4 + c / 64) ::
      symbolOf (c % 64) :: encode rest

/-- The values of a run of symbols that starts at `offset`. -/
def values (offset : Nat) : List Nat → Except Fault (List Nat)
  | [] => .ok []
  | b :: rest =>
    match valueOf? b with
    | none => .error (.symbol b offset)
    | some v => (values (offset + 1) rest).map (v :: ·)

/-- The bytes of full groups of values. -/
def join : List Nat → List Nat
  | u :: v :: w :: x :: rest =>
    (u * 4 + v / 16) :: (v % 16 * 16 + w / 4) :: (w % 4 * 64 + x) :: join rest
  | _ => []

/-- The bytes of the last group, which starts at `offset` and holds one to four bytes. -/
def decodeLast (offset : Nat) (group : List Nat) : Except Fault (List Nat) := do
  let symbols := group.takeWhile (· != pad)
  let filling := group.dropWhile (· != pad)
  let vs ← values offset symbols
  if filling ≠ [] ∧ (symbols.length < 2 ∨ filling.any (· != pad)) then
    throw (.symbol pad (offset + symbols.length))
  if symbols.length < 2 then
    throw (.length (offset + symbols.length))
  if group.length ≠ 4 then
    throw .padding
  match vs, symbols with
  | [u, v], [_, s] =>
    if v % 16 ≠ 0 then throw (.lastSymbol s (offset + 1)) else pure [u * 4 + v / 16]
  | [u, v, w], [_, _, s] =>
    if w % 4 ≠ 0 then throw (.lastSymbol s (offset + 2))
    else pure [u * 4 + v / 16, v % 16 * 16 + w / 4]
  | _, _ => pure (join vs)

/-- The bytes of a text, which is given as bytes itself. -/
def decode (text : List Nat) : Except Fault (List Nat) := do
  let size := text.length
  let full := (size - 1) / 4 * 4
  if size % 4 = 1 then
    match text.getLast? with
    | some b => if b ≠ pad ∧ valueOf? b = none then throw (.symbol b (size - 1))
    | none => pure ()
  if text = [] then pure []
  else
    let vs ← values 0 (text.take full)
    let last ← decodeLast full (text.drop full)
    pure (join vs ++ last)

end Scenario.Text.Base64
