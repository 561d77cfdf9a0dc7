import Scenario.Resolve.Basic

/-!
# Matchers

* An expectation is a text to resolve and compare, or a matcher between two `@` signs: a name and
  arguments in parentheses.
* `Expectation.meets` decides whether a text meets an expectation, and `Expectation.validate`
  turns a refusal into a failure that says where and what.
-/

set_option autoImplicit false

namespace Scenario

open Text Resolve

/-- What decides whether a text fits some arguments. -/
abbrev Matcher := (actual : String) → List String → Except String Bool

namespace Matcher

/-- A matcher with one argument. -/
def single (name : String) (f : List Char → List Char → Except String Bool) : Matcher
  | actual, [expected] => f actual.toList expected.toList
  | _, args => .error s!"{name} expects 1 argument, got {args.length}"

/-- Whether the first text occurs in the second. -/
def occursIn (part : List Char) : List Char → Bool
  | [] => part.isEmpty
  | c :: rest => part.isPrefixOf (c :: rest) || occursIn part rest

/-- Compares the actual text and the argument as numbers; the actual text is read first. -/
def comparing (name : String) (order : Ordering) : Matcher := fun actual args => do
  let x ← Function.number actual
  match args with
  | [expected] =>
    let y ← Function.number expected
    return x.compare? y == some order
  | _ => throw s!"{name} expects 1 argument, got {args.length}"

/-- The matchers that are always there. -/
def builtin : List (String × Matcher) :=
  [("ignore", fun _ _ => .ok true),
   ("equalsIgnoreCase", single "equalsIgnoreCase" fun actual expected =>
      .ok (lower actual == lower expected)),
   ("contains", single "contains" fun actual expected => .ok (occursIn expected actual)),
   ("startsWith", single "startsWith" fun actual expected => .ok (expected.isPrefixOf actual)),
   ("endsWith", single "endsWith" fun actual expected => .ok (expected.isSuffixOf actual)),
   ("matches", single "matches" fun actual expected => do
      let p ← Pattern.compile ("^(?:".toList ++ expected ++ ")$".toList)
      return p.isMatch actual),
   ("isNumber", fun actual _ => .ok (Binary64.read? (trim actual.toList)).isSome),
   ("greaterThan", comparing "greaterThan" .gt),
   ("lowerThan", comparing "lowerThan" .lt)]

/-- The name of the library of matchers. -/
def libraryName : String := "core"

/-- Whether there is a matcher of that name. -/
def knows (name : String) : Bool := (builtin.lookup name).isSome

end Matcher

namespace Expectation

/-- What stands between the signs of a matcher expression. -/
def inside? (expected : List Char) : Option (List Char) :=
  match trim expected with
  | '@' :: rest => if rest.getLast? = some '@' then some rest.dropLast else none
  | _ => none

/-- Whether an expectation is a matcher expression. -/
def isMatcher (expected : String) : Bool := (inside? expected.toList).isSome

/-- Takes the name and the arguments of a matcher apart: at the first parenthesis, and the last
character has to close it. -/
def splitMatcher? (inside : List Char) : Option (List Char × List Char) :=
  match inside.dropWhile (· != '(') with
  | [] => some (trim inside, [])
  | _ :: arguments =>
    if arguments.getLast? = some ')' then
      some (trim (inside.takeWhile (· != '(')), arguments.dropLast)
    else none

/-- Resolves arguments in order. -/
def resolveArguments (lib : Library) (store : Store) :
    List (List Char) → Except Failure (List String)
  | [] => .ok []
  | a :: rest => do
    let value ← resolve lib store (String.ofList (unquote a))
    let values ← resolveArguments lib store rest
    return value :: values

/-- Whether a text meets an expectation. -/
def meets (lib : Library) (store : Store) (expected actual : String) :
    Except Failure Bool :=
  match inside? expected.toList with
  | none => do
    let value ← resolve lib store expected
    return value == actual
  | some inside =>
    match splitMatcher? inside with
    | none => .error (.validation s!"malformed matcher expression '{expected}'")
    | some (name, arguments) =>
      let name := String.ofList name
      match Matcher.builtin.lookup name with
      | none =>
        .error (.validation
          s!"unknown validation matcher '{name}' in library '{Matcher.libraryName}'")
      | some matcher => do
        let args ← resolveArguments lib store (splitArguments arguments)
        (matcher actual args).mapError fun e => .validation s!"matcher '{name}' failed: {e}"

/-- Fails if a text does not meet an expectation. -/
def validate (lib : Library) (store : Store) (path expected actual : String) : Outcome := do
  if ← meets lib store expected actual then pure ()
  else throw (.validation s!"value at '{path}' was '{actual}' but expected '{expected}'")

end Expectation
end Scenario
