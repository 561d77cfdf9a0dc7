import Scenario.Text.Utf8

/-!
# Ranges of characters as bytes

`byteSequences` gives the characters of a range as sequences of ranges of bytes: a character is in
the range iff its bytes are in the ranges of one of the sequences, one after the other.
-/

set_option autoImplicit false

namespace Scenario.Pattern

open Text

/-- The bytes from the first to the last. -/
abbrev ByteRange := Nat × Nat

/-- Where a range of characters that goes beyond a bound within it is parted. -/
def cutAtBound (first last bound : Nat) : Option (Nat × Nat) :=
  if first ≤ bound ∧ bound < last then some (bound, bound + 1) else none

/-- Where a range is parted so that its first part or its last one has all values of the low
bits, as many as continue a character in some last bytes of it; `block` is the number of values. -/
def cutAtBlock (first last block : Nat) : Option (Nat × Nat) :=
  if first / block = last / block then none
  else if first % block ≠ 0 then
    let next := (first / block + 1) * block
    some (next - 1, next)
  else if last % block ≠ block - 1 then
    let start := last / block * block
    some (start - 1, start)
  else none

/-- Where a range is parted first: the last code point before and the first one after.  Between
them may be the surrogates.  Characters with the same number of bytes are kept together. -/
def cut? (first last : Nat) : Option (Nat × Nat) :=
  if first < 0xE000 ∧ 0xD7FF < last then some (0xD7FF, 0xE000)
  else
    cutAtBound first last 0x7F <|> cutAtBound first last 0x7FF <|> cutAtBound first last 0xFFFF <|>
      (if last ≤ 0x7F then none
      else cutAtBlock first last 64 <|> cutAtBlock first last 4096 <|>
        cutAtBlock first last 262144)

/-- The characters of a range as sequences of ranges of bytes, in order. -/
def byteSequences (first last : Nat) : List (List ByteRange) :=
  if last < first then []
  else match cut? first last with
    | some (before, after) =>
      if before < last ∧ first < after then
        byteSequences first before ++ byteSequences after last
      else []
    | none => [(Utf8.encodeChar (Char.ofNat first)).zip (Utf8.encodeChar (Char.ofNat last))]
termination_by last + 1 - first

end Scenario.Pattern
