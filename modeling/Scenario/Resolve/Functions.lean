import Scenario.Failure
import Scenario.Pattern.Replace
import Scenario.Text.Base64
import Scenario.Text.Utf8
import Scenario.Variables.Store

/-!
# Functions

* A `Function` takes texts to a text or says why it cannot.  It can look at the variables of its
  caller, and a `TextFunction` is one that does not.
* `Library` is a named set of functions with the marker that introduces their calls in a text.
  `Library.builtin` has functions on text, Base64 and numbers.
-/

set_option autoImplicit false

namespace Scenario

open Text

/-- A function of texts alone. -/
abbrev TextFunction := List String → Except String String

/-- A function of texts that is given the variables as its caller sees them. -/
abbrev Function := Store → TextFunction

namespace Function

/-- The function that does not look at the variables. -/
def ofTexts (f : TextFunction) : Function := fun _ => f

/-- A function of one argument. -/
def single (name : String) (f : List Char → Except String (List Char)) : TextFunction
  | [value] => (f value.toList).map String.ofList
  | args => .error s!"{name} expects 1 argument, got {args.length}"

/-- All arguments one after the other. -/
def concat : TextFunction := fun args => .ok (String.join args)

/-- Text in upper case. -/
def upperCase : TextFunction := single "upperCase" fun cs => .ok (upper cs)

/-- Text in lower case. -/
def lowerCase : TextFunction := single "lowerCase" fun cs => .ok (lower cs)

/-- Text without white space at its ends. -/
def trim : TextFunction := single "trim" fun cs => .ok (Text.trim cs)

/-- The number of characters. -/
def stringLength : TextFunction := single "stringLength" fun cs => .ok (Whole.write cs.length)

/-- Reads an index into a text. -/
def index (s : String) : Except String Nat :=
  (Whole.read Whole.max64 (Text.trim s.toList)).mapError Whole.Flaw.message

/-- The characters from `first` up to but without `last`. -/
def slice (cs : List Char) (first last : Nat) : Except String String :=
  if last < first ∨ cs.length < last then
    .error s!"substring range {first}..{last} out of bounds for length {cs.length}"
  else .ok (String.ofList ((cs.take last).drop first))

/-- The characters between two indexes, or from one to the end. -/
def substring : TextFunction
  | [text, first] => do slice text.toList (← index first) text.toList.length
  | [text, first, last] => do
    let b ← index first
    let e ← index last
    slice text.toList b e
  | args => .error s!"substring expects 2 or 3 arguments, got {args.length}"

/-- Replaces the matches of a pattern. -/
def translate : TextFunction
  | [text, pattern, replacement] => do
    let p ← Pattern.compile pattern.toList
    return String.ofList (p.replaceAll text.toList replacement.toList)
  | args => .error s!"translate expects 3 arguments, got {args.length}"

/-- Text in Base64. -/
def encodeBase64 : TextFunction :=
  single "encodeBase64" fun cs => .ok ((Base64.encode (Utf8.encode cs)).map Char.ofNat)

/-- Text out of Base64. -/
def decodeBase64 : TextFunction :=
  single "decodeBase64" fun cs =>
    match Base64.decode (Utf8.encode cs) with
    | .error fault => .error fault.message
    | .ok bytes => (Utf8.decode bytes).mapError Utf8.Flaw.message

/-- Reads a number with white space around it. -/
def number (s : String) : Except String Binary64 :=
  match Binary64.read? (Text.trim s.toList) with
  | some x => .ok x
  | none => .error s!"'{s}' is not a number"

/-- Reads numbers in order. -/
def numbers : List String → Except String (List Binary64)
  | [] => .ok []
  | s :: rest => do
    let x ← number s
    let xs ← numbers rest
    return x :: xs

/-- The sum of numbers. -/
def sum : TextFunction := fun args => do
  let xs ← numbers args
  return String.ofList (xs.foldl (· + ·) Binary64.zero).brief

/-- The absolute value of a number. -/
def absolute : TextFunction := single "absolute" fun cs => do
  let x ← number (String.ofList cs)
  return x.abs.brief

/-- One of several numbers. -/
def choice (name : String) (f : Binary64 → Binary64 → Binary64) : TextFunction := fun args => do
  match ← numbers args with
  | [] => throw s!"{name} expects at least one argument"
  | x :: xs => return String.ofList (xs.foldl f x).brief

/-- The largest number. -/
def max : TextFunction := choice "max" Binary64.max

/-- The smallest number. -/
def min : TextFunction := choice "min" Binary64.min

end Function

/-- A named set of functions.  A call of one of them is the marker, a colon, the name of the
function and its arguments in parentheses. -/
structure Library where
  name : String
  marker : String
  functions : List (String × Function)

namespace Library

/-- The usual marker of a call. -/
def usualMarker : String := "core"

/-- The functions that are always there. -/
def builtin : Library where
  name := "core"
  marker := usualMarker
  functions :=
    [("absolute", .ofTexts Function.absolute), ("concat", .ofTexts Function.concat),
     ("decodeBase64", .ofTexts Function.decodeBase64),
     ("encodeBase64", .ofTexts Function.encodeBase64),
     ("lowerCase", .ofTexts Function.lowerCase), ("max", .ofTexts Function.max),
     ("min", .ofTexts Function.min), ("stringLength", .ofTexts Function.stringLength),
     ("substring", .ofTexts Function.substring), ("sum", .ofTexts Function.sum),
     ("translate", .ofTexts Function.translate), ("trim", .ofTexts Function.trim),
     ("upperCase", .ofTexts Function.upperCase)]

/-- A library without functions. -/
def empty (name marker : String) : Library := ⟨name, marker, []⟩

/-- The same functions under another marker. -/
def withMarker (lib : Library) (marker : String) : Library := { lib with marker := marker }

/-- Whether there is a function of that name. -/
def knows (lib : Library) (name : String) : Bool := (lib.functions.lookup name).isSome

/-- The names of all functions in order. -/
def functionNames (lib : Library) : List String := (Fields.sorted lib.functions).names

/-- Applies a function for a caller with some variables. -/
def evaluate (lib : Library) (store : Store) (name : String) (args : List String) :
    Except Failure String :=
  match lib.functions.lookup name with
  | none => .error (.function name s!"unknown function in library '{lib.name}'")
  | some f => (f store args).mapError (.function name)

end Library
end Scenario
