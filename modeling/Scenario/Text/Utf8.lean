/-!
# UTF-8

Texts as bytes and back.

* `encode` writes each character as one to four bytes.
* `decode` reads bytes and says where and how they fail to be a text: a sequence of bytes that
  no character starts with, or a character that is cut off at the end.
-/

set_option autoImplicit false

namespace Scenario.Text.Utf8

/-- How bytes fail to be a text. -/
inductive Flaw where
  /-- The `length` bytes at `index` begin no character. -/
  | invalid (length index : Nat)
  /-- The bytes end within the character at `index`. -/
  | incomplete (index : Nat)
deriving DecidableEq, Repr

/-- The flaw in words. -/
def Flaw.message : Flaw → String
  | invalid length index => s!"invalid utf-8 sequence of {length} bytes from index {index}"
  | incomplete index => s!"incomplete utf-8 byte sequence from index {index}"

/-- The bytes of a character. -/
def encodeChar (c : Char) : List Nat :=
  let n := c.toNat
  if n < 0x80 then [n]
  else if n < 0x800 then [0xC0 + n / 64, 0x80 + n % 64]
  else if n < 0x10000 then [0xE0 + n / 4096, 0x80 + n / 64 % 64, 0x80 + n % 64]
  else [0xF0 + n / 262144, 0x80 + n / 4096 % 64, 0x80 + n / 64 % 64, 0x80 + n % 64]

/-- The bytes of a text. -/
def encode (cs : List Char) : List Nat := cs.flatMap encodeChar

/-- Whether a byte continues a character. -/
def isTail (b : Nat) : Bool := 0x80 ≤ b && b < 0xC0

/-- Whether `b` may be the second byte after the first byte `a` of a character of three or four
bytes: no longer form than needed, no surrogate, nothing beyond the last code point. -/
def secondFits (a b : Nat) : Bool :=
  if a = 0xE0 then 0xA0 ≤ b && b < 0xC0
  else if a = 0xED then 0x80 ≤ b && b < 0xA0
  else if a = 0xF0 then 0x90 ≤ b && b < 0xC0
  else if a = 0xF4 then 0x80 ≤ b && b < 0x90
  else isTail b

/-- What follows the character at the start of some bytes. -/
inductive Step where
  /-- A character of `size` bytes. -/
  | char (c : Char) (size : Nat)
  /-- No character begins with these `length` bytes. -/
  | invalid (length : Nat)
  /-- The bytes end too early. -/
  | incomplete
deriving Repr

/-- Reads the character that begins with the byte `a`. -/
def step (a : Nat) (rest : List Nat) : Step :=
  if a < 0x80 then .char (Char.ofNat a) 1
  else if a < 0xC2 then .invalid 1
  else if a < 0xE0 then
    match rest with
    | [] => .incomplete
    | b :: _ => if isTail b then .char (Char.ofNat ((a - 0xC0) * 64 + (b - 0x80))) 2 else .invalid 1
  else if a < 0xF0 then
    match rest with
    | [] => .incomplete
    | b :: more =>
      if secondFits a b then
        match more with
        | [] => .incomplete
        | c :: _ =>
          if isTail c then
            .char (Char.ofNat ((a - 0xE0) * 4096 + (b - 0x80) * 64 + (c - 0x80))) 3
          else .invalid 2
      else .invalid 1
  else if a < 0xF5 then
    match rest with
    | [] => .incomplete
    | b :: more =>
      if secondFits a b then
        match more with
        | [] => .incomplete
        | c :: most =>
          if isTail c then
            match most with
            | [] => .incomplete
            | d :: _ =>
              if isTail d then
                .char (Char.ofNat ((a - 0xF0) * 262144 + (b - 0x80) * 4096 + (c - 0x80) * 64 +
                  (d - 0x80))) 4
              else .invalid 3
          else .invalid 2
      else .invalid 1
  else .invalid 1

/-- Reads characters, the next of which starts at `index`; `skip` bytes of the list still belong
to the character before. -/
def decodeFrom (index : Nat) : Nat → List Nat → Except Flaw (List Char)
  | _, [] => .ok []
  | skip + 1, _ :: rest => decodeFrom index skip rest
  | 0, a :: rest =>
    match step a rest with
    | .char c size => (decodeFrom (index + size) (size - 1) rest).map (c :: ·)
    | .invalid length => .error (.invalid length index)
    | .incomplete => .error (.incomplete index)

/-- Reads a text. -/
def decode (bytes : List Nat) : Except Flaw (List Char) := decodeFrom 0 0 bytes

end Scenario.Text.Utf8
