import Scenario.Json.Basic
import Scenario.Text.Whole

/-!
# JSON pointers

A pointer names a place in a value.  It is empty, or consists of tokens with a slash before each
of them: names of members, and indexes of items without leading zeros.  In a token `~1` stands
for a slash and `~0` for a tilde.
-/

set_option autoImplicit false

namespace Scenario
namespace Pointer

open Text

/-- Reads the escapes in a token. -/
def unescape : List Char → List Char
  | '~' :: '1' :: rest => '/' :: unescape rest
  | '~' :: '0' :: rest => '~' :: unescape rest
  | c :: rest => c :: unescape rest
  | [] => []

/-- Splits at slashes; the characters of the first token are put after those in `token`, which
are in reverse. -/
def splitSlashes (token : List Char) : List Char → List (List Char)
  | [] => [token.reverse]
  | c :: rest => if c = '/' then token.reverse :: splitSlashes [] rest
    else splitSlashes (c :: token) rest

/-- The tokens of a pointer. -/
def tokens? : List Char → Option (List (List Char))
  | [] => some []
  | c :: rest => if c = '/' then some ((splitSlashes [] rest).map unescape) else none

/-- Reads an index. -/
def index? (token : List Char) : Option Nat :=
  if token.head? = some '+' ∨ (token.head? = some '0' ∧ token.length ≠ 1) then none
  else (Whole.read Whole.max64 token).toOption

/-- The part of a value that a token names. -/
def child? (token : List Char) : Json → Option Json
  | .object members => Fields.get? members (String.ofList token)
  | .array items => (index? token).bind (items[·]?)
  | _ => none

end Pointer

/-- The part of a value at a pointer. -/
def Json.at? (v : Json) (pointer : String) : Option Json :=
  (Pointer.tokens? pointer.toList).bind fun tokens =>
    tokens.foldl (fun found token => found.bind (Pointer.child? token)) (some v)

end Scenario
