/-!
# Binary floating point

The 64-bit binary floating-point numbers, as exact arithmetic on natural numbers.

* `Binary64` is a number or not a number.  A number is a sign and a *magnitude*: the position of
  its absolute value among all absolute values, `0` first and infinity last.  The order of
  magnitudes is therefore the order of the values they stand for.
* `units` reads a finite magnitude as a count of the smallest positive number, `2 ^ -1074`, and
  `nearest` goes the other way from an exact fraction, ties to the even neighbour.  Every
  operation is done exactly and rounded once through `nearest`.
-/

set_option autoImplicit false

namespace Scenario

/-- A 64-bit binary floating-point number. -/
inductive Binary64 where
  /-- What an undefined operation gives. -/
  | nan
  /-- A sign and the position of the absolute value among all of them. -/
  | number (negative : Bool) (magnitude : Nat)
deriving DecidableEq, Repr, Inhabited

namespace Binary64

/-- The magnitudes from one power of two to the next. -/
def binade : Nat := Nat.pow 2 52

/-- The magnitude of infinity. -/
def infinite : Nat := 2047 * binade

/-! ## Magnitudes -/

/-- How often the smallest positive number goes into the magnitude `m`: below two binades the
magnitude itself, and from then on twice as much per step in each further binade. -/
def units (m : Nat) : Nat :=
  if m < 2 * binade then m else (binade + m % binade) * Nat.pow 2 (m / binade - 1)

/-- The quotient nearest to `num / den`, of two nearest the even one. -/
def roundDiv (num den : Nat) : Nat :=
  let q := num / den
  let r := num % den
  if 2 * r < den then q
  else if den < 2 * r then q + 1
  else if q % 2 = 0 then q else q + 1

/-- The magnitude nearest to `num / den` units; what is too large for a finite one is infinite. -/
def nearest (num den : Nat) : Nat :=
  let shift := Nat.log2 (num / den) - 52
  min infinite (shift * binade + roundDiv num (den * Nat.pow 2 shift))

/-- How many smallest positive numbers make one. -/
def unitsPerOne : Nat := Nat.pow 2 1074

/-! ## Numbers -/

/-- The number zero, with a positive sign. -/
def zero : Binary64 := number false 0

/-- The number nearest to `num / den`, or to its negation. -/
def ofRatio (negative : Bool) (num den : Nat) : Binary64 :=
  number negative (nearest (num * unitsPerOne) den)

/-- The number nearest to a natural number. -/
def ofNat (n : Nat) : Binary64 := ofRatio false n 1

/-- The number nearest to an integer. -/
def ofInt (i : Int) : Binary64 := ofRatio (i < 0) i.natAbs 1

/-- The number nearest to `digits * 10 ^ exponent`.  Far beyond the range of the format the power
of ten is not formed: the answer is infinity or zero.  How many digits there are is estimated from
the binary logarithm, which is off by two at most. -/
def ofDecimal (negative : Bool) (digits : Nat) (exponent : Int) : Binary64 :=
  if digits = 0 then number negative 0
  else
    let leading := (Nat.log2 digits * 30103 / 100000 : Nat) + exponent
    if 330 < leading then number negative infinite
    else if leading < -400 then number negative 0
    else match exponent with
      | .ofNat e => ofRatio negative (digits * Nat.pow 10 e) 1
      | .negSucc e => ofRatio negative digits (Nat.pow 10 (e + 1))

/-- Whether the number is neither infinite nor undefined. -/
def isFinite : Binary64 → Bool
  | nan => false
  | number _ m => m < infinite

/-- Whether the number is undefined. -/
def isNan : Binary64 → Bool
  | nan => true
  | number _ _ => false

/-- The absolute value. -/
def abs : Binary64 → Binary64
  | nan => nan
  | number _ m => number false m

/-- The number with the opposite sign. -/
def neg : Binary64 → Binary64
  | nan => nan
  | number s m => number (!s) m

/-! ## Order -/

/-- The place of a signed magnitude on the number line; both zeros are at `0`. -/
def place (negative : Bool) (m : Nat) : Int := if negative then -(m : Int) else m

/-- How two numbers compare; `none` if one is undefined. -/
def compare? : Binary64 → Binary64 → Option Ordering
  | number s m, number t n => some (compare (place s m) (place t n))
  | _, _ => none

/-- Equality of values: zeros of both signs are equal. -/
def sameValue : Binary64 → Binary64 → Bool
  | number s m, number t n => place s m == place t n
  | nan, nan => true
  | _, _ => false

/-- The larger number; an undefined one gives way. -/
def max (a b : Binary64) : Binary64 :=
  match compare? a b with
  | some .lt => b
  | some _ => a
  | none => if a.isNan then b else a

/-- The smaller number; an undefined one gives way. -/
def min (a b : Binary64) : Binary64 :=
  match compare? a b with
  | some .gt => b
  | some _ => a
  | none => if a.isNan then b else a

/-! ## Arithmetic -/

/-- The signed units of a finite number. -/
def signedUnits (negative : Bool) (m : Nat) : Int :=
  if negative then -(units m : Int) else units m

/-- Addition: the exact sum, rounded.  A sum that vanishes is positive unless both summands are
negative. -/
def add : Binary64 → Binary64 → Binary64
  | number s m, number t n =>
    if m = infinite then
      if n = infinite ∧ s ≠ t then nan else number s m
    else if n = infinite then number t n
    else
      let total := signedUnits s m + signedUnits t n
      if total = 0 then number (s && t) 0
      else number (total < 0) (nearest total.natAbs 1)
  | _, _ => nan

instance : Add Binary64 := ⟨add⟩

/-- Multiplication: the exact product, rounded. -/
def mul : Binary64 → Binary64 → Binary64
  | number s m, number t n =>
    if m = infinite ∨ n = infinite then
      if m = 0 ∨ n = 0 then nan else number (s != t) infinite
    else number (s != t) (nearest (units m * units n) unitsPerOne)
  | _, _ => nan

/-- Division: the exact quotient, rounded. -/
def div : Binary64 → Binary64 → Binary64
  | number s m, number t n =>
    if m = infinite then
      if n = infinite then nan else number (s != t) infinite
    else if n = infinite then number (s != t) 0
    else if n = 0 then
      if m = 0 then nan else number (s != t) infinite
    else number (s != t) (nearest (units m * unitsPerOne) (units n))
  | _, _ => nan

/-- Whether a finite number has no fractional part. -/
def isIntegral : Binary64 → Bool
  | nan => false
  | number _ m => m < infinite && units m % unitsPerOne == 0

/-- The whole part of the absolute value of a finite number. -/
def truncAbs : Binary64 → Nat
  | nan => 0
  | number _ m => units m / unitsPerOne

end Binary64
end Scenario
