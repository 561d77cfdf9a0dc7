/-!
# Whole numbers in text

* `Whole.write` writes a natural number in decimal digits.
* `Whole.read` reads one that is not larger than a bound: digits only, after an optional plus.
  It stops at the first character that is no digit or makes the number too large.
-/

set_option autoImplicit false

namespace Scenario.Text.Whole

/-- Why a text is not a whole number within a bound. -/
inductive Flaw where
  | empty
  | notDigit
  | tooLarge
deriving DecidableEq, Repr

/-- The flaw in words. -/
def Flaw.message : Flaw → String
  | empty => "cannot parse integer from empty string"
  | notDigit => "invalid digit found in string"
  | tooLarge => "number too large to fit in target type"

/-- The largest number of 64 bits. -/
def max64 : Nat := Nat.pow 2 64 - 1

/-- The decimal digits of a number. -/
def write (n : Nat) : List Char := Nat.toDigits 10 n

/-- Reads digits after those that gave `n`. -/
def readDigits (bound : Nat) (n : Nat) : List Char → Except Flaw Nat
  | [] => .ok n
  | c :: rest =>
    if c.isDigit then
      let next := n * 10 + (c.toNat - '0'.toNat)
      if bound < next then .error .tooLarge else readDigits bound next rest
    else .error .notDigit

/-- Reads a number that is at most `bound`. -/
def read (bound : Nat) : List Char → Except Flaw Nat
  | [] => .error .empty
  | '+' :: [] => .error .notDigit
  | '+' :: rest => readDigits bound 0 rest
  | cs => readDigits bound 0 cs

/-- The text of an integer. -/
def writeInt (i : Int) : List Char :=
  if i < 0 then '-' :: write i.natAbs else write i.natAbs

end Scenario.Text.Whole
