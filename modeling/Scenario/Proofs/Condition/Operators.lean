import Mathlib
import Scenario.Condition
import Scenario.Proofs.Text.Blanks

/-!
# The operators of a condition

A condition with an operator between two operands is a text like any other, and evaluating it begins
with a search for the operator.  Signs of one operator stand at the start of another one, and an
exclamation mark can be the last character of an operand, so it is the spaces around the operator
that make the search find what was written.  Once it has been found there is one comparison behind
all operators: of numbers if both operands are numbers, and else of texts.

## What is here

* `Condition.operators` — the operators as they are written — and `Condition.comparison`, which
  writes one of them between two operands.
* `Condition.splitOperator?_append` — the search finds the operator that was written.
* `Condition.evaluate_comparison` — what a comparison comes to is read off from the order of its
  operands.
* `Condition.operators_consistent` — the operators agree with each other, on every pair of operands
  and when the operands change sides.
-/

set_option autoImplicit false

namespace Scenario

open Text

namespace Comparison

/-- No operator starts with a character that is no sign, nor with an exclamation mark alone. -/
theorem atStart?_eq_none {c : Char} {rest : List Char} (hc : c ∉ ['<', '>', '='])
    (hrest : rest.head? ≠ some '=') : atStart? (c :: rest) = none := by
  unfold atStart?
  split <;> simp_all

end Comparison

namespace Binary64

/-- Numbers compare the other way round when they change sides. -/
theorem compare?_swap (x y : Binary64) : compare? y x = (compare? x y).map Ordering.swap := by
  cases x with
  | nan => cases y <;> rfl
  | number s m =>
    cases y with
    | nan => rfl
    | number t n => exact congrArg some Std.OrientedCmp.eq_swap

theorem compare?_eq_none_iff {x y : Binary64} : compare? x y = none ↔ x = nan ∨ y = nan := by
  cases x <;> cases y <;> simp [compare?]

end Binary64

namespace Condition

/-! ## Operands -/

/-- Texts compare the other way round when they change sides. -/
theorem compareText_swap (left right : List Char) :
    compareText right left = (compareText left right).swap := by
  rw [compareText, compareText]
  exact Std.OrientedCmp.eq_swap

theorem compareOperands?_swap (left right : List Char) :
    compareOperands? right left = (compareOperands? left right).map Ordering.swap := by
  have htext := compareText_swap left right
  unfold compareOperands?
  cases Binary64.read? left with
  | none => cases Binary64.read? right <;> exact congrArg some htext
  | some x =>
    cases Binary64.read? right with
    | none => exact congrArg some htext
    | some y => exact Binary64.compare?_swap x y

/-- Whether two operands are numbers and one of them is undefined, so that they have no order. -/
def Incomparable (left right : List Char) : Prop :=
  ∃ x y, Binary64.read? left = some x ∧ Binary64.read? right = some y ∧ (x = .nan ∨ y = .nan)

theorem compareOperands?_eq_none_iff {left right : List Char} :
    compareOperands? left right = none ↔ Incomparable left right := by
  unfold compareOperands? Incomparable
  cases Binary64.read? left with
  | none => simp
  | some x =>
    cases Binary64.read? right with
    | none => simp
    | some y => simp [Binary64.compare?_eq_none_iff]

/-- What can stand on one side of an operator: not only blanks, and no sign of an operator.  An
exclamation mark is a sign only together with another one. -/
structure IsOperand (text : String) : Prop where
  notBlank : trim text.toList ≠ []
  noSign : ∀ c ∈ text.toList, c ∉ ['<', '>', '=']

/-! ## Finding the operator -/

/-- The operators as they are written. -/
def operators : List (String × Comparison) :=
  [("<", .less), ("<=", .lessOrEqual), (">", .greater), (">=", .greaterOrEqual), ("=", .equal),
   ("==", .equal), ("!=", .notEqual)]

/-- What stands in an operator is a sign. -/
theorem sign_of_mem_operator {operator : String} {c : Comparison}
    (hoperator : (operator, c) ∈ operators) :
    ∀ d ∈ operator.toList, d ∈ ['<', '>', '=', '!'] := by
  simp only [operators, List.mem_cons, Prod.mk.injEq, List.not_mem_nil, or_false] at hoperator
  obtain ⟨rfl, -⟩ | ⟨rfl, -⟩ | ⟨rfl, -⟩ | ⟨rfl, -⟩ | ⟨rfl, -⟩ | ⟨rfl, -⟩ | ⟨rfl, -⟩ := hoperator
  all_goals simp

/-- An operator between two operands, with spaces around it. -/
def comparison (left operator right : String) : String :=
  left ++ " " ++ operator ++ " " ++ right

theorem toList_comparison (left operator right : String) :
    (comparison left operator right).toList =
      left.toList ++ ' ' :: (operator.toList ++ ' ' :: right.toList) := by
  simp [comparison]

/-- **The search finds the operator that was written.** -/
theorem splitOperator?_append {left : List Char} {operator : String} {c : Comparison}
    (hleft : ∀ d ∈ left, d ∉ ['<', '>', '=']) (hoperator : (operator, c) ∈ operators)
    (right : List Char) :
    splitOperator? (left ++ ' ' :: (operator.toList ++ ' ' :: right)) =
      some (left ++ [' '], c, ' ' :: right) := by
  induction left with
  | nil =>
    have hfound : splitOperator? (operator.toList ++ ' ' :: right) =
        some ([], c, ' ' :: right) := by
      simp only [operators, List.mem_cons, Prod.mk.injEq, List.not_mem_nil, or_false] at hoperator
      obtain ⟨rfl, rfl⟩ | ⟨rfl, rfl⟩ | ⟨rfl, rfl⟩ | ⟨rfl, rfl⟩ | ⟨rfl, rfl⟩ | ⟨rfl, rfl⟩ |
        ⟨rfl, rfl⟩ := hoperator <;> rfl
    rw [List.nil_append, splitOperator?, hfound]
    rfl
  | cons d left ih =>
    have hnone : Comparison.atStart? (d :: (left ++ ' ' :: (operator.toList ++ ' ' :: right))) =
        none := by
      refine Comparison.atStart?_eq_none (hleft d List.mem_cons_self) fun hhead => ?_
      cases left with
      | nil => cases hhead
      | cons e left =>
        obtain rfl : e = '=' := Option.some.inj hhead
        exact hleft '=' (by simp) (by simp)
    rw [List.cons_append, splitOperator?, hnone, ih fun e he => hleft e (List.mem_cons_of_mem d he)]
    rfl

/-- **A comparison is decided by the order of its operands**, without the blanks around them. -/
theorem evaluate_comparison {left operator right : String} {c : Comparison}
    (hleft : IsOperand left) (hright : trim right.toList ≠ [])
    (hoperator : (operator, c) ∈ operators) :
    evaluate (comparison left operator right) =
      match compareOperands? (trim left.toList) (trim right.toList) with
      | none => .error (.invalidCondition (comparison left operator right)
          "operands are not comparable")
      | some order => .ok (c.holds order) := by
  obtain ⟨before, after, hl, hbefore, hafter⟩ := exists_trim_eq left.toList
  obtain ⟨before', after', hr, hbefore', hafter'⟩ := exists_trim_eq right.toList
  have hlself := trim_trim left.toList
  have hrself := trim_trim right.toList
  have hlne := hleft.notBlank
  have hsigns : ∀ d ∈ trim left.toList ++ after, d ∉ ['<', '>', '='] := fun d hd =>
    hleft.noSign d (hl ▸ List.mem_append_right before hd)
  generalize trim left.toList = l at hl hlself hlne hsigns ⊢
  generalize trim right.toList = r at hr hrself hright ⊢
  -- what is left of the whole when it is trimmed
  set text := (l ++ after) ++ ' ' :: (operator.toList ++ ' ' :: (before' ++ r)) with htext
  have htrim : trim (comparison left operator right).toList = text := by
    have hself := trim_append_append hlself hlne hrself hright
      (after ++ ' ' :: (operator.toList ++ ' ' :: before'))
    have hwhole : (comparison left operator right).toList = before ++ (text ++ after') := by
      simp [toList_comparison, hl, hr, htext]
    rw [hwhole, trim_between_blanks hbefore hafter' (by simpa [htext] using hself)]
  have hsplit : splitOperator? text = some (l ++ after ++ [' '], c, ' ' :: (before' ++ r)) :=
    splitOperator?_append hsigns hoperator _
  have hleftOperand : trim (l ++ after ++ [' ']) = l := by
    have hblank : ∀ d ∈ after ++ [' '], isBlank d := by
      simpa [or_imp, forall_and] using ⟨hafter, by decide⟩
    simpa using trim_between_blanks (List.forall_mem_nil _) hblank hlself
  have hrightOperand : trim (' ' :: (before' ++ r)) = r := by
    have hblank : ∀ d ∈ ' ' :: before', isBlank d := by
      simpa using ⟨by decide, hbefore'⟩
    simpa using trim_between_blanks hblank (List.forall_mem_nil _) hrself
  have hspace : ' ' ∈ text := by simp [htext]
  have htrue : text ≠ ['t', 'r', 'u', 'e'] := fun h => absurd (h ▸ hspace) (by decide)
  have hfalse : text ≠ ['f', 'a', 'l', 's', 'e'] := fun h => absurd (h ▸ hspace) (by decide)
  cases horder : compareOperands? l r <;>
    simp only [evaluate, htrim, if_neg htrue, if_neg hfalse, hsplit, hleftOperand, hrightOperand,
      hlne, hright, or_self, if_false, horder]

/-! ## All operators -/

/-- Whether what a comparison comes to under each operator goes back to three answers, of which just
one is yes: whether the left operand is less than the right one, equal to it, or greater. -/
structure Agree (verdict : String → Except Failure Bool) (lt eq gt : Bool) : Prop where
  one : [lt, eq, gt].count true = 1
  less : verdict "<" = .ok lt
  equal : verdict "=" = .ok eq
  greater : verdict ">" = .ok gt
  equal' : verdict "==" = .ok eq
  notEqual : verdict "!=" = .ok (!eq)
  lessOrEqual : verdict "<=" = .ok (lt || eq)
  greaterOrEqual : verdict ">=" = .ok (gt || eq)

/-- Verdicts that are read off from one order agree. -/
theorem Agree.of_order {verdict : String → Except Failure Bool} {order : Ordering}
    (h : ∀ operator c, (operator, c) ∈ operators → verdict operator = .ok (c.holds order)) :
    Agree verdict (order == .lt) (order == .eq) (order == .gt) where
  one := by cases order <;> rfl
  less := h "<" .less (by simp [operators])
  equal := h "=" .equal (by simp [operators])
  greater := h ">" .greater (by simp [operators])
  equal' := h "==" .equal (by simp [operators])
  notEqual := h "!=" .notEqual (by simp [operators])
  lessOrEqual := by
    rw [h "<=" .lessOrEqual (by simp [operators])]
    cases order <;> rfl
  greaterOrEqual := by
    rw [h ">=" .greaterOrEqual (by simp [operators])]
    cases order <;> rfl

/-- **The operators form one comparison.**  Either both operands are numbers and one of them is
undefined; then no operator can compare them, whichever of them stands on the left.  Or all
operators give an answer: just one of less, equal and greater holds, the other operators follow from
these, and when the operands change sides less and greater change with them. -/
theorem operators_consistent {left right : String} (hleft : IsOperand left)
    (hright : IsOperand right) :
    (Incomparable (trim left.toList) (trim right.toList) → ∀ operator ∈ operators.map Prod.fst,
      evaluate (comparison left operator right) = .error (.invalidCondition
        (comparison left operator right) "operands are not comparable") ∧
      evaluate (comparison right operator left) = .error (.invalidCondition
        (comparison right operator left) "operands are not comparable")) ∧
    (¬ Incomparable (trim left.toList) (trim right.toList) → ∃ lt eq gt,
      Agree (fun operator => evaluate (comparison left operator right)) lt eq gt ∧
      Agree (fun operator => evaluate (comparison right operator left)) gt eq lt) := by
  constructor
  · intro hnone operator hoperator
    obtain ⟨⟨operator, c⟩, hmem, rfl⟩ := List.mem_map.1 hoperator
    have horder := compareOperands?_eq_none_iff.2 hnone
    constructor
    · rw [evaluate_comparison hleft hright.notBlank hmem, horder]
    · rw [evaluate_comparison hright hleft.notBlank hmem, compareOperands?_swap, horder]
      rfl
  · intro hsome
    obtain ⟨order, horder⟩ :=
      Option.ne_none_iff_exists'.1 fun hnone => hsome (compareOperands?_eq_none_iff.1 hnone)
    have hback : Agree (fun operator => evaluate (comparison right operator left))
        (order.swap == .lt) (order.swap == .eq) (order.swap == .gt) := .of_order fun _ c hmem => by
      rw [evaluate_comparison hright hleft.notBlank hmem, compareOperands?_swap, horder]
      rfl
    have hthere : Agree (fun operator => evaluate (comparison left operator right))
        (order == .lt) (order == .eq) (order == .gt) := .of_order fun _ c hmem => by
      rw [evaluate_comparison hleft hright.notBlank hmem, horder]
    exact ⟨_, _, _, hthere, by cases order <;> exact hback⟩

/-- A text that ends with an exclamation mark is no number, so it is less than `9` although it
begins with `10`; and nothing is different from an undefined number, not even that number itself. -/
theorem operators_consistent_mixed :
    (Agree (fun operator => evaluate (comparison " 10!" operator "9")) true false false ∧
      Agree (fun operator => evaluate (comparison "9" operator " 10!")) false false true) ∧
    evaluate "nan != NaN " =
      .error (.invalidCondition "nan != NaN " "operands are not comparable") := by
  have htext : IsOperand " 10!" := ⟨by decide +kernel, by simp⟩
  have hnine : IsOperand "9" := ⟨by decide +kernel, by simp⟩
  have hnan : IsOperand "nan" := ⟨by decide +kernel, by simp⟩
  have hnan' : IsOperand "NaN " := ⟨by decide +kernel, by simp⟩
  constructor
  · have horder : compareOperands? (trim " 10!".toList) (trim "9".toList) = some .lt := by
      decide +kernel
    have hless : evaluate (comparison " 10!" "<" "9") = .ok true := by
      rw [evaluate_comparison htext hnine.notBlank (c := .less) (by decide), horder]
      rfl
    obtain ⟨lt, eq, gt, h, h'⟩ := (operators_consistent htext hnine).2 fun hnone => by
      rw [compareOperands?_eq_none_iff.2 hnone] at horder
      cases horder
    obtain rfl : true = lt := Except.ok.inj (hless.symm.trans h.less)
    obtain ⟨rfl, rfl⟩ : eq = false ∧ gt = false := by
      have hone := h.one
      cases eq <;> cases gt <;> simp_all
    exact ⟨h, h'⟩
  · have hnone : Incomparable (trim "nan".toList) (trim "NaN ".toList) :=
      ⟨.nan, .nan, by decide +kernel, by decide +kernel, .inl rfl⟩
    exact ((operators_consistent hnan hnan').1 hnone "!=" (by decide)).1

end Condition
end Scenario
