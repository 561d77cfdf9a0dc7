import Scenario.Json.Raw
import Scenario.Number.Decimal

/-!
# Reading JSON

* `RawJson.read?` reads a text that is one document and nothing else.
* A number without a point and an exponent that fits 64 bits is an integer.  All others are
  scaled from their first digits by one multiplication or division, and may be off in the last
  place; one too large cannot be read.
-/

set_option autoImplicit false

namespace Scenario.RawJson

/-! ## Numbers -/

/-- The largest significand that is kept. -/
def significandBound : Nat := Nat.pow 2 64 - 1

/-- Divides by the largest power of ten until the exponent is in range or nothing is left. -/
def scaleDown : Nat → Binary64 → Nat → Binary64
  | 0, x, _ => x
  | fuel + 1, x, e =>
    if e ≤ 308 then x.div (Binary64.ofDecimal false 1 e)
    else if x = Binary64.zero then x
    else scaleDown fuel (x.div (Binary64.ofDecimal false 1 308)) (e - 308)

/-- The number `significand * 10 ^ exponent`; `none` if it is too large. -/
def scale? (negative : Bool) (significand : Nat) (exponent : Int) : Option Numeral :=
  let x := Binary64.ofNat significand
  let signed (y : Binary64) : Numeral := .float (if negative then y.neg else y)
  match exponent with
  | .ofNat e =>
    if e ≤ 308 then
      let y := x.mul (Binary64.ofDecimal false 1 e)
      if y.isFinite then some (signed y) else none
    else if significand = 0 then some (signed x) else none
  | .negSucc e => some (signed (scaleDown 8 x (e + 1)))

/-- A number as it was written. -/
structure NumeralText where
  negative : Bool
  /-- The digits before the point. -/
  whole : List Char
  /-- The digits after the point. -/
  fraction : List Char
  /-- Whether the exponent is negative, and its digits. -/
  exponent : Option (Bool × List Char)
deriving Repr

/-- Appends digits to a significand while it stays in bounds; the digits that are left follow. -/
def appendDigits (significand : Nat) : List Char → Nat × List Char
  | [] => (significand, [])
  | c :: rest =>
    let next := significand * 10 + (c.toNat - '0'.toNat)
    if significandBound < next then (significand, c :: rest) else appendDigits next rest

/-- The number `significand * 10 ^ exponent` with the power that was written added to the
exponent; `none` if it is too large. -/
def scaleBy? (negative : Bool) (significand : Nat) (exponent : Int) :
    Option (Bool × List Char) → Option Numeral
  | none => scale? negative significand exponent
  | some (down, digits) =>
    let p := Binary64.digitsValue digits
    if Nat.pow 2 31 ≤ p then
      if significand = 0 ∨ down then some (.float (.number negative 0)) else none
    else scale? negative significand (if down then exponent - p else exponent + p)

/-- The number that a text stands for; `none` if it is too large. -/
def NumeralText.numeral? (t : NumeralText) : Option Numeral :=
  let (s, dropped) := appendDigits 0 t.whole
  if t.fraction = [] ∧ t.exponent = none then
    if dropped ≠ [] then scale? t.negative s dropped.length
    else if ¬ t.negative then some (.integer s)
    else if s = 0 ∨ Nat.pow 2 63 < s then some (.float (Binary64.ofNat s).neg)
    else some (.integer (-(s : Int)))
  else
    let (s, left) := appendDigits s t.fraction
    scaleBy? t.negative s
      ((dropped.length : Int) - ((t.fraction.length - left.length : Nat) : Int)) t.exponent

/-- Splits off a run of digits, which must not be empty. -/
def takeDigits? (cs : List Char) : Option (List Char × List Char) :=
  match cs.takeWhile Char.isDigit with
  | [] => none
  | digits => some (digits, cs.dropWhile Char.isDigit)

/-- Splits off a run of digits that has no needless zero at its start. -/
def takeWhole? (cs : List Char) : Option (List Char × List Char) :=
  (takeDigits? cs).filter fun (digits, _) => digits.head? != some '0' || digits.length == 1

/-- Splits off a point and digits, if there is a point. -/
def takeFraction? : List Char → Option (List Char × List Char)
  | '.' :: rest => takeDigits? rest
  | cs => some ([], cs)

/-- Splits off an exponent, if there is one. -/
def takeExponent? : List Char → Option (Option (Bool × List Char) × List Char)
  | [] => some (none, [])
  | c :: rest =>
    if c = 'e' ∨ c = 'E' then
      let (down, more) := Binary64.splitSign rest
      (takeDigits? more).map fun (digits, tail) => (some (down, digits), tail)
    else some (none, c :: rest)

/-- Splits off a number. -/
def takeNumeral? (cs : List Char) : Option (NumeralText × List Char) := do
  let (negative, cs) := match cs with
    | '-' :: rest => (true, rest)
    | _ => (false, cs)
  let (whole, cs) ← takeWhole? cs
  let (fraction, cs) ← takeFraction? cs
  let (exponent, cs) ← takeExponent? cs
  return (⟨negative, whole, fraction, exponent⟩, cs)

/-- Reads a number. -/
def readNumeral? (cs : List Char) : Option (RawJson × List Char) :=
  (takeNumeral? cs).map fun (t, rest) =>
    match t.numeral? with
    | some n => (.number n, rest)
    | none => (.unreadable, rest)

/-! ## Strings -/

/-- The value of a hexadecimal digit. -/
def hexValue? (c : Char) : Option Nat :=
  if c.isDigit then some (c.toNat - '0'.toNat)
  else if 'a' ≤ c ∧ c ≤ 'f' then some (c.toNat - 'a'.toNat + 10)
  else if 'A' ≤ c ∧ c ≤ 'F' then some (c.toNat - 'A'.toNat + 10)
  else none

/-- The value of four hexadecimal digits. -/
def unit? (a b c d : Char) : Option Nat := do
  return (← hexValue? a) * 4096 + (← hexValue? b) * 256 + (← hexValue? c) * 16 + (← hexValue? d)

/-- The character a one-letter escape stands for. -/
def simpleEscape? (c : Char) : Option Char :=
  if c = '"' ∨ c = '\\' ∨ c = '/' then some c
  else if c = 'b' then some (Char.ofNat 8)
  else if c = 'f' then some (Char.ofNat 12)
  else if c = 'n' then some '\n'
  else if c = 'r' then some '\r'
  else if c = 't' then some '\t'
  else none

/-- Whether a code unit is the first half of a pair. -/
def isHighHalf (u : Nat) : Bool := 0xD800 ≤ u && u < 0xDC00

/-- Whether a code unit is the second half of a pair. -/
def isLowHalf (u : Nat) : Bool := 0xDC00 ≤ u && u < 0xE000

/-- The character that a pair of halves stands for. -/
def pairChar (u v : Nat) : Char := Char.ofNat (0x10000 + (u - 0xD800) * 1024 + (v - 0xDC00))

/-- Reads the characters after an opening quote, up to the closing one; those read so far are in
reverse.  Characters beyond the basic plane may be escaped as pairs; `half` is the first half of
one if its second half is to follow.  With half a pair alone the text is not `readable`. -/
def readString? (readable : Bool) (half : Option Nat) (read : List Char) :
    List Char → Option (Option String × List Char)
  | [] => none
  | '"' :: rest =>
    some (if readable && half.isNone then some (String.ofList read.reverse) else none, rest)
  | '\\' :: 'u' :: a :: b :: c :: d :: rest =>
    match unit? a b c d with
    | none => none
    | some u =>
      let next := if isHighHalf u then some u else none
      match half with
      | some h =>
        if isLowHalf u then readString? readable none (pairChar h u :: read) rest
        else readString? false next read rest
      | none =>
        if isHighHalf u then readString? readable next read rest
        else if isLowHalf u then readString? false none read rest
        else readString? readable none (Char.ofNat u :: read) rest
  | '\\' :: c :: rest =>
    match simpleEscape? c with
    | none => none
    | some d => readString? (readable && half.isNone) none (d :: read) rest
  | c :: rest =>
    if c.toNat < 32 ∨ c = '\\' then none
    else readString? (readable && half.isNone) none (c :: read) rest

/-- Reads a string after its opening quote. -/
def readText? (cs : List Char) : Option (RawJson × List Char) :=
  (readString? true none [] cs).map fun (text, rest) =>
    match text with
    | some s => (.string s, rest)
    | none => (.unreadable, rest)

/-! ## Values -/

/-- The white space of a document. -/
def isSpace (c : Char) : Bool := c == ' ' || c == '\n' || c == '\r' || c == '\t'

/-- What follows white space. -/
def skipSpace (cs : List Char) : List Char := cs.dropWhile isSpace

/-- The object with some members; a name that cannot be read spoils it. -/
def ofMembers (members : List (Option String × RawJson)) : RawJson :=
  match members.mapM fun (name, v) => name.map (·, v) with
  | some ms => .object ms
  | none => .unreadable

mutual

/-- Reads a value after white space. -/
def readValue? : Nat → List Char → Option (RawJson × List Char)
  | 0, _ => none
  | fuel + 1, cs =>
    match cs with
    | 'n' :: 'u' :: 'l' :: 'l' :: rest => some (.null, rest)
    | 't' :: 'r' :: 'u' :: 'e' :: rest => some (.bool true, rest)
    | 'f' :: 'a' :: 'l' :: 's' :: 'e' :: rest => some (.bool false, rest)
    | '"' :: rest => readText? rest
    | '[' :: rest =>
      match skipSpace rest with
      | ']' :: tail => some (.array [], tail)
      | more => (readItems? fuel [] more).map fun (vs, tail) => (.array vs, tail)
    | '{' :: rest =>
      match skipSpace rest with
      | '}' :: tail => some (.object [], tail)
      | more => (readMembers? fuel [] more).map fun (ms, tail) => (ofMembers ms, tail)
    | _ => readNumeral? cs

/-- Reads items up to the closing bracket; those read so far are in reverse. -/
def readItems? : Nat → List RawJson → List Char → Option (List RawJson × List Char)
  | 0, _, _ => none
  | fuel + 1, read, cs =>
    match readValue? fuel cs with
    | none => none
    | some (v, rest) =>
      match skipSpace rest with
      | ']' :: tail => some ((v :: read).reverse, tail)
      | ',' :: more => readItems? fuel (v :: read) (skipSpace more)
      | _ => none

/-- Reads members up to the closing brace; those read so far are in reverse. -/
def readMembers? : Nat → List (Option String × RawJson) → List Char →
    Option (List (Option String × RawJson) × List Char)
  | 0, _, _ => none
  | fuel + 1, read, cs =>
    match cs with
    | '"' :: rest =>
      match readString? true none [] rest with
      | none => none
      | some (name, rest) =>
        match skipSpace rest with
        | ':' :: rest =>
          match readValue? fuel (skipSpace rest) with
          | none => none
          | some (v, rest) =>
            match skipSpace rest with
            | '}' :: tail => some (((name, v) :: read).reverse, tail)
            | ',' :: more => readMembers? fuel ((name, v) :: read) (skipSpace more)
            | _ => none
        | _ => none
    | _ => none

end

/-- Reads a document. -/
def readChars? (cs : List Char) : Option RawJson :=
  match readValue? (cs.length + 1) (skipSpace cs) with
  | some (v, rest) => if skipSpace rest = [] then some v else none
  | none => none

/-- Reads a document. -/
def read? (s : String) : Option RawJson := readChars? s.toList

end Scenario.RawJson
