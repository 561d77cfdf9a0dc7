import Scenario.Number.Binary64

/-!
# Decimal texts of numbers

* `Decimal` is a sign, a whole number of digits and a power of ten.
* `Decimal.shortest` finds the fewest digits that read back as a given magnitude, and of those
  the nearest to it.  Where two are equally near, a `Tie` says which one is meant.
* `Binary64.plain` writes a number without an exponent, `Binary64.brief` without an exponent or
  a fraction where it can, and `Binary64.scientific` with an exponent outside the usual range.
* `Binary64.read?` reads a number as people type it into a field.
-/

set_option autoImplicit false

namespace Scenario

/-- The value `digits * 10 ^ exponent`. -/
structure Decimal where
  digits : Nat
  exponent : Int
deriving DecidableEq, Repr, Inhabited

/-- Which of two equally near decimals is meant. -/
inductive Tie where
  /-- The one whose last digit is even. -/
  | even
  /-- The larger one. -/
  | up
deriving DecidableEq, Repr

/-- The whole number nearest to `num / den`. -/
def Tie.roundDiv (tie : Tie) (num den : Nat) : Nat :=
  match tie with
  | .even => Binary64.roundDiv num den
  | .up => (2 * num + den) / (2 * den)

namespace Decimal

/-- The decimal digits of a natural number, most significant first. -/
def digitChars (n : Nat) : List Char := Nat.toDigits 10 n

/-- Removes zeros at the end of the digits. -/
def trimZeros : Nat → Decimal → Decimal
  | 0, d => d
  | fuel + 1, d =>
    if d.digits % 10 = 0 ∧ d.digits ≠ 0 then
      trimZeros fuel { digits := d.digits / 10, exponent := d.exponent + 1 }
    else d

/-- The magnitude nearest to the value. -/
def magnitude (d : Decimal) : Nat :=
  match Binary64.ofDecimal false d.digits d.exponent with
  | .nan => 0
  | .number _ m => m

/-- The exact fraction, in smallest positive numbers, of one step of the decimal grid
`10 ^ exponent`. -/
def gridUnits : Int → Nat × Nat
  | .ofNat e => (Nat.pow 10 e * Binary64.unitsPerOne, 1)
  | .negSucc e => (Binary64.unitsPerOne, Nat.pow 10 (e + 1))

/-- On the grid `10 ^ exponent`, the point nearest to the magnitude `m` of those two neighbours
of it that read back as `m`. -/
def onGrid? (tie : Tie) (m : Nat) (exponent : Int) : Option Decimal :=
  let (num, den) := gridUnits exponent
  let scaled := Binary64.units m * den
  let below : Decimal := ⟨scaled / num, exponent⟩
  let above : Decimal := ⟨scaled / num + 1, exponent⟩
  match decide (below.magnitude = m), decide (above.magnitude = m) with
  | false, false => none
  | true, false => some below
  | false, true => some above
  | true, true => some ⟨tie.roundDiv scaled num, exponent⟩

/-- The power of ten of the leading digit of a magnitude, found from the number of digits of its
exact decimal value. -/
def leadingExponent (m : Nat) : Int :=
  let scaled := Binary64.units m * Nat.pow 10 330
  (digitChars (scaled / Binary64.unitsPerOne)).length - 331

/-- The first hit among grids from coarse to fine. -/
def searchGrids (tie : Tie) (m : Nat) (leading : Int) : Nat → Nat → Decimal
  | 0, places => ⟨Binary64.units m, leading - places⟩
  | fuel + 1, places =>
    match onGrid? tie m (leading - places) with
    | some d => d
    | none => searchGrids tie m leading fuel (places + 1)

/-- The fewest digits that read back as the finite magnitude `m`, the nearest of those. -/
def shortest (tie : Tie) (m : Nat) : Decimal :=
  if m = 0 then ⟨0, 0⟩
  else trimZeros 20 (searchGrids tie m (leadingExponent m) 18 0)

end Decimal

/-! ## Writing -/

namespace Binary64

/-- The digits with a point `places` from the right, or followed by zeros. -/
def positional (digits : List Char) (exponent : Int) : List Char × List Char :=
  match exponent with
  | .ofNat e => (digits ++ List.replicate e '0', [])
  | .negSucc e =>
    let places := e + 1
    if digits.length ≤ places then (['0'], List.replicate (places - digits.length) '0' ++ digits)
    else (digits.take (digits.length - places), digits.drop (digits.length - places))

/-- The minus sign of a negative number. -/
def signText (negative : Bool) : List Char := if negative then ['-'] else []

/-- The shortest digits, of two equally near the larger, never with an exponent, and with a
fraction only if there is one. -/
def plain : Binary64 → List Char
  | nan => ['N', 'a', 'N']
  | number s m =>
    if infinite ≤ m then signText s ++ ['i', 'n', 'f']
    else
      let d := Decimal.shortest .up m
      match positional (Decimal.digitChars d.digits) d.exponent with
      | (whole, []) => signText s ++ whole
      | (whole, fraction) => signText s ++ whole ++ '.' :: fraction

/-- Whole numbers below `10 ^ 15` in absolute value as integers, without the sign of a zero, and
all others in plain notation. -/
def brief (x : Binary64) : List Char :=
  match x with
  | number s m =>
    if x.isIntegral ∧ x.truncAbs < Nat.pow 10 15 then
      signText (s && m != 0) ++ Decimal.digitChars x.truncAbs
    else x.plain
  | nan => x.plain

/-- The shortest digits, of two equally near the even: without an exponent and with at least one
fractional digit if the leading digit stands for a power
of ten from `-5` to `15`; otherwise one digit, the others as a fraction, and the power of ten
with its sign after an `e`. -/
def scientific : Binary64 → List Char
  | nan => ['n', 'u', 'l', 'l']
  | number s m =>
    if infinite ≤ m then ['n', 'u', 'l', 'l']
    else
      let d := Decimal.shortest .even m
      let digits := Decimal.digitChars d.digits
      let leading := d.exponent + digits.length - 1
      if -5 ≤ leading ∧ leading ≤ 15 then
        match positional digits d.exponent with
        | (whole, []) => signText s ++ whole ++ ['.', '0']
        | (whole, fraction) => signText s ++ whole ++ '.' :: fraction
      else
        let power :=
          (if leading < 0 then '-' else '+') :: Decimal.digitChars leading.natAbs
        match digits with
        | [] => []
        | [c] => signText s ++ c :: 'e' :: power
        | c :: rest => signText s ++ c :: '.' :: rest ++ 'e' :: power

/-! ## Reading -/

/-- The value of a run of decimal digits. -/
def digitsValue (cs : List Char) : Nat :=
  cs.foldl (fun n c => n * 10 + (c.toNat - '0'.toNat)) 0

/-- Splits off a leading sign; `true` for a minus. -/
def splitSign : List Char → Bool × List Char
  | '-' :: cs => (true, cs)
  | '+' :: cs => (false, cs)
  | cs => (false, cs)

/-- The value of the digits of an exponent.  Once it is beyond all use further digits do not
count. -/
def exponentValue (cs : List Char) : Nat :=
  cs.foldl (fun n c => if n < 65536 then n * 10 + (c.toNat - '0'.toNat) else n) 0

/-- Reads what may follow the digits: nothing, or an `e` and a signed run of digits. -/
def readExponent? : List Char → Option Int
  | [] => some 0
  | c :: cs =>
    if c = 'e' ∨ c = 'E' then
      let (negative, digits) := splitSign cs
      if digits ≠ [] ∧ digits.all Char.isDigit then
        let n : Int := exponentValue digits
        some (if negative then -n else n)
      else none
    else none

/-- Reads an unsigned decimal: digits with an optional point among, before or after them, and an
optional exponent. -/
def readUnsigned? (cs : List Char) : Option Decimal :=
  let whole := cs.takeWhile Char.isDigit
  let rest := cs.dropWhile Char.isDigit
  let (fraction, rest) := match rest with
    | '.' :: more => (more.takeWhile Char.isDigit, more.dropWhile Char.isDigit)
    | _ => ([], rest)
  if whole = [] ∧ fraction = [] then none
  else (readExponent? rest).map fun e =>
    ⟨digitsValue (whole ++ fraction), e - fraction.length⟩

/-- Reads a number: a sign, then a decimal, or in any case `inf`, `infinity` or `nan`. -/
def read? (cs : List Char) : Option Binary64 :=
  let (negative, rest) := splitSign cs
  let word := rest.map Char.toLower
  if word = ['i', 'n', 'f'] ∨ word = ['i', 'n', 'f', 'i', 'n', 'i', 't', 'y'] then
    some (number negative infinite)
  else if word = ['n', 'a', 'n'] then some nan
  else (readUnsigned? rest).map fun d => ofDecimal negative d.digits d.exponent

end Binary64
end Scenario
