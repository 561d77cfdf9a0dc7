import Scenario.Failure
import Scenario.Text.Class

/-!
# Conditions

* A condition compares two operands, or is one of the words `true` and `false`.
* `splitOperator?` finds the first comparison operator; of those that start at one place the
  longer one counts.
* Operands that both are numbers are compared as numbers, all others character by character.
-/

set_option autoImplicit false

namespace Scenario

open Text

/-- A comparison. -/
inductive Comparison where
  | less
  | lessOrEqual
  | greater
  | greaterOrEqual
  | equal
  | notEqual
deriving DecidableEq, Repr

namespace Comparison

/-- Whether the comparison holds of operands in a given order. -/
def holds : Comparison → Ordering → Bool
  | less, o => o == .lt
  | lessOrEqual, o => o != .gt
  | greater, o => o == .gt
  | greaterOrEqual, o => o != .lt
  | equal, o => o == .eq
  | notEqual, o => o != .eq

/-- The operator at the start of a text and what follows it. -/
def atStart? : List Char → Option (Comparison × List Char)
  | '<' :: '=' :: rest => some (lessOrEqual, rest)
  | '>' :: '=' :: rest => some (greaterOrEqual, rest)
  | '!' :: '=' :: rest => some (notEqual, rest)
  | '=' :: '=' :: rest => some (equal, rest)
  | '<' :: rest => some (less, rest)
  | '>' :: rest => some (greater, rest)
  | '=' :: rest => some (equal, rest)
  | _ => none

end Comparison

namespace Condition

/-- Splits a text at its first operator. -/
def splitOperator? : List Char → Option (List Char × Comparison × List Char)
  | [] => none
  | c :: rest =>
    match Comparison.atStart? (c :: rest) with
    | some (operator, right) => some ([], operator, right)
    | none => (splitOperator? rest).map fun (left, operator, right) => (c :: left, operator, right)

/-- The order of two texts by their characters. -/
def compareText (left right : List Char) : Ordering :=
  compare (left.map Char.toNat) (right.map Char.toNat)

/-- The order of two operands; `none` if one of two numbers is undefined. -/
def compareOperands? (left right : List Char) : Option Ordering :=
  match Binary64.read? left, Binary64.read? right with
  | some x, some y => x.compare? y
  | _, _ => some (compareText left right)

/-- Evaluates a condition. -/
def evaluate (condition : String) : Except Failure Bool :=
  let invalid (reason : String) : Except Failure Bool :=
    .error (.invalidCondition condition reason)
  let text := trim condition.toList
  if text = ['t', 'r', 'u', 'e'] then .ok true
  else if text = ['f', 'a', 'l', 's', 'e'] then .ok false
  else match splitOperator? text with
    | none => invalid "no comparison operator"
    | some (left, operator, right) =>
      let left := trim left
      let right := trim right
      if left = [] ∨ right = [] then invalid "missing operand"
      else match compareOperands? left right with
        | none => invalid "operands are not comparable"
        | some order => .ok (operator.holds order)

end Condition
end Scenario
