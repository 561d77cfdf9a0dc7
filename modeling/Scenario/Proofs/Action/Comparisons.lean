import Scenario.Proofs.Action.Loops
import Scenario.Proofs.Condition.Operators
import Scenario.Proofs.Resolve.Settled
import Scenario.Proofs.Text.Words

/-!
# Comparing variables in the condition of a loop

The condition of a loop is read three times before a pass is made: its references are resolved, then
the name of the index is replaced wherever it stands as a word, and then it is evaluated.  A value
that a reference was replaced by is not resolved again; but it is part of the text in which the name
of the index is looked for.  So a loop does not compare the values of two variables.  It compares
what these texts become when the name of the index is replaced in them, and for a value in which
that name stands as a word this is another text with every pass.

## What is here

* `IsVariableName` — names that stand for a variable between the braces of a reference.
* `planOf_comparison` and `resolve_comparison` — how an operator between two references is read, and
  that it is resolved to an operator between the texts of two values.
* `Loop.compared` is what a loop compares in place of a text.
* `Loop.holds_comparison` — what decides about a pass, and when that is the values as they are.
-/

set_option autoImplicit false

namespace Scenario

open Text Resolve Condition

/-! ## References to variables -/

/-- Whether a name between braces stands for the variable of that name: no part of it is taken for
the end of the reference or for a fallback, and no blanks are trimmed off. -/
structure IsVariableName (name : String) : Prop where
  nonempty : name ≠ ""
  trimmed : trim name.toList = name.toList
  closed : '\x7d' ∉ name.toList
  noFallback : ¬ [':', '-'] <:+: name.toList

theorem Reference.splitFallback_of_not_infix {cs : List Char} (h : ¬ [':', '-'] <:+: cs) :
    splitFallback cs = (cs, none) := by
  induction cs with
  | nil => rfl
  | cons c cs ih =>
    have hrest : splitFallback cs = (cs, none) :=
      ih fun hin => h (hin.trans (List.suffix_cons c cs).isInfix)
    rw [splitFallback, hrest]
    rintro rest rfl rfl
    exact h ⟨[], rest, rfl⟩

namespace IsVariableName

variable {name : String}

theorem plan_append (h : IsVariableName name) (marker : List Char) (before : Option Char)
    (tail : List Char) : plan marker before ((Reference.written name.toList).toList ++ tail) =
      .reference ⟨name.toList, name.toList, none⟩ :: plan marker (some '\x7d') tail := by
  have hfound : reference? ('$' :: '\x7b' :: (name.toList ++ '\x7d' :: tail)) =
      some (some (name.toList, tail)) := congrArg some (splitBrace?_append h.closed tail)
  have hwritten : (Reference.written name.toList).toList ++ tail =
      '$' :: '\x7b' :: (name.toList ++ '\x7d' :: tail) := by simp [Reference.written]
  have hread : Reference.ofExpression name.toList = ⟨name.toList, name.toList, none⟩ := by
    simp [Reference.ofExpression, Reference.splitFallback_of_not_infix h.noFallback, h.trimmed]
  rw [hwritten, plan_reference hfound, hread]

theorem eval_reference (h : IsVariableName name) {store : Store} {value : Json}
    (hvalue : store.get? name = some value) :
    Reference.eval ⟨name.toList, name.toList, none⟩ store = .ok value.asText := by
  have hne : name.toList ≠ [] := by simpa using h.nonempty
  rw [Reference.eval, if_neg hne, String.ofList_toList, hvalue]

end IsVariableName

/-! ## Between the references -/

/-- Whether no function call can start at an operator and go on into a reference behind it.  A call
has a parenthesis, and it starts with the marker of calls. -/
def NoCallInto (marker name : String) : Prop :=
  '(' ∉ name.toList ∨ ∀ c ∈ marker.toList.head?, c ∉ [' ', '<', '>', '=', '!']

theorem Resolve.call?_eq_none_of_no_parenthesis {marker cs : List Char} (h : '(' ∉ cs) :
    call? marker cs = none := by
  rw [call?_eq_none_iff]
  rintro rest rfl ⟨name, inside, tail, rfl, -⟩
  simp at h

theorem Resolve.call?_eq_none_of_head {marker cs : List Char} {c : Char} (hc : c ≠ ':')
    (hmarker : marker.head? ≠ some c) : call? marker (c :: cs) = none := by
  rw [call?_eq_none_iff]
  intro rest heq
  cases marker with
  | nil => exact absurd (List.cons.inj heq).1 hc
  | cons d marker => exact absurd (congrArg some (List.cons.inj heq).1.symm) hmarker

/-- Where neither a reference nor a call starts there are letters. -/
theorem Resolve.plan_append_of_plain {marker gap rest : List Char} (hgap : '$' ∉ gap)
    (hcall : ∀ c right, (c :: right) <:+ gap → call? marker (c :: (right ++ rest)) = none)
    (before : Option Char) : plan marker before (gap ++ rest) =
      gap.map .literal ++ plan marker (gap.getLast?.or before) rest := by
  induction gap generalizing before with
  | nil => rfl
  | cons c gap ih =>
    have hdollar : (c :: (gap ++ rest)).head? ≠ some '$' := fun h =>
      hgap (by simp [Option.some.inj h])
    have hnone : callAfter? marker before (c :: (gap ++ rest)) = none := by
      rw [callAfter?, hcall c gap (List.suffix_refl _), ite_self]
    rw [List.cons_append, plan_literal (reference?_eq_none hdollar) hnone,
      ih (fun h => hgap (List.mem_cons_of_mem c h))
        (fun d right hright => hcall d right (hright.trans (List.suffix_cons c gap))),
      getLast?_cons_or, List.map_cons, List.cons_append]

theorem Segment.evalAll_literals_append (lib : Library) (store : Store) (cs : List Char)
    (p : List Segment) : evalAll lib store (cs.map .literal ++ p) =
      (evalAll lib store p).map (String.ofList cs ++ ·) := by
  induction cs with
  | nil => exact (map_empty_append _).symm
  | cons c cs ih =>
    rw [List.map_cons, List.cons_append, evalAll, eval, ih]
    cases evalAll lib store p with
    | error f => rfl
    | ok text => exact congrArg Except.ok (by simp [String.append_assoc])

/-- **An operator between two references** is read as a reference, letters and a reference. -/
theorem planOf_comparison {a b operator marker : String} {c : Comparison} (ha : IsVariableName a)
    (hb : IsVariableName b) (hoperator : (operator, c) ∈ operators) (hcall : NoCallInto marker b) :
    planOf marker
        (comparison (Reference.written a.toList) operator (Reference.written b.toList)) =
      .reference ⟨a.toList, a.toList, none⟩ ::
        ((' ' :: (operator.toList ++ [' '])).map .literal ++
          [.reference ⟨b.toList, b.toList, none⟩]) := by
  set gap := ' ' :: (operator.toList ++ [' ']) with hgap
  have hsigns : ∀ d ∈ gap, d ∈ [' ', '<', '>', '=', '!'] := by
    intro d hd
    rw [hgap, List.mem_cons, List.mem_append, List.mem_singleton] at hd
    obtain rfl | hd | rfl := hd
    · exact List.mem_cons_self
    · exact List.mem_cons_of_mem _ (sign_of_mem_operator hoperator d hd)
    · exact List.mem_cons_self
  have htext : (comparison (Reference.written a.toList) operator
      (Reference.written b.toList)).toList =
        (Reference.written a.toList).toList ++ (gap ++ (Reference.written b.toList).toList) := by
    simp [toList_comparison, hgap]
  have hno : ∀ d right, (d :: right) <:+ gap →
      call? marker.toList (d :: (right ++ (Reference.written b.toList).toList)) = none := by
    intro d right hright
    have hd := hsigns d (hright.subset List.mem_cons_self)
    obtain hparenthesis | hmarker := hcall
    · refine call?_eq_none_of_no_parenthesis ?_
      rw [← List.cons_append, List.mem_append, not_or]
      exact ⟨fun h => absurd (hsigns _ (hright.subset h)) (by decide),
        by simpa [Reference.written] using hparenthesis⟩
    · refine call?_eq_none_of_head (by rintro rfl; exact absurd hd (by decide)) fun hhead => ?_
      exact hmarker d hhead hd
  have hdollar : '$' ∉ gap := fun h => absurd (hsigns _ h) (by decide)
  have hlast := hb.plan_append marker.toList (gap.getLast?.or (some '\x7d')) []
  rw [List.append_nil, plan_nil] at hlast
  rw [planOf, htext, ha.plan_append, plan_append_of_plain hdollar hno, hlast]

/-- It is resolved to the operator between the texts of the two values. -/
theorem resolve_comparison {a b operator : String} {c : Comparison} (ha : IsVariableName a)
    (hb : IsVariableName b) (hoperator : (operator, c) ∈ operators) {lib : Library}
    (hcall : NoCallInto lib.marker b) {store : Store} {x y : Json} (hx : store.get? a = some x)
    (hy : store.get? b = some y) :
    resolve lib store
        (comparison (Reference.written a.toList) operator (Reference.written b.toList)) =
      .ok (comparison x.asText operator y.asText) := by
  rw [resolve_eq_evalAll, planOf_comparison ha hb hoperator hcall, Segment.evalAll, Segment.eval,
    ha.eval_reference hx, Segment.evalAll_literals_append, Segment.evalAll, Segment.eval,
    hb.eval_reference hy]
  refine congrArg Except.ok (String.toList_inj.1 ?_)
  simp [toList_comparison]

/-! ## What a loop compares -/

namespace Loop

/-- What a loop compares in place of a text: the index in place of its name, wherever that stands as
a word. -/
def compared (l : Loop) (index : Int64) (text : String) : String :=
  String.ofList (substituteWord l.index.toList (Whole.writeInt index.toInt) text.toList)

theorem compared_eq_self_iff {l : Loop} {index : Int64} {text : String} :
    l.compared index text = text ↔
      ¬ StandsIn l.index.toList text.toList ∨ l.index.toList = Whole.writeInt index.toInt := by
  rw [← String.toList_inj, compared, String.toList_ofList, substituteWord_eq_self_iff, or_comm]

/-- No sign of an operator belongs to a word, so the operands are looked through one by one. -/
theorem compared_comparison (l : Loop) (index : Int64) {operator : String} {c : Comparison}
    (hoperator : (operator, c) ∈ operators) (left right : String) :
    l.compared index (comparison left operator right) =
      comparison (l.compared index left) operator (l.compared index right) := by
  have hspace : isWordChar ' ' = false := by decide
  have hsigns : ∀ d ∈ operator.toList, isWordChar d = false := fun d hd => by
    have hsign := sign_of_mem_operator hoperator d hd
    simp only [List.mem_cons, List.not_mem_nil, or_false] at hsign
    obtain rfl | rfl | rfl | rfl := hsign <;> decide
  rw [← String.toList_inj, toList_comparison, compared, String.toList_ofList, toList_comparison,
    substituteWord_append_cons hspace, substituteWord_append_cons hspace,
    substituteWord_of_no_words hsigns, compared, compared, String.toList_ofList,
    String.toList_ofList]

/-- **What decides about a pass** whose condition is an operator between two variables, neither of
which is the index.

* The condition holds just if the texts of the two values compare so after the name of the index has
  been replaced in them.
* A value is compared as it is just if the name of the index does not stand in it as a word, or is
  what the index is written as.
* So if the name stands in neither of them, it is the two values as they are that decide, whatever
  the index and its name may be. -/
theorem holds_comparison {l : Loop} {a b operator : String} {c : Comparison}
    (ha : IsVariableName a) (hb : IsVariableName b) (haindex : a ≠ l.index) (hbindex : b ≠ l.index)
    (hoperator : (operator, c) ∈ operators) {ctx : Context}
    (hcall : NoCallInto ctx.library.marker b) {s : Session} (hscope : ctx.scope < s.scopes.length)
    {x y : Json} (hx : (s.store ctx.scope).get? a = some x)
    (hy : (s.store ctx.scope).get? b = some y) (k : Nat) :
    let condition := comparison (Reference.written a.toList) operator (Reference.written b.toList)
    let index := l.indexAt k
    let verdict := l.holds condition index ctx.library ((l.begun ctx k s).store ctx.scope)
    let Named (v : Json) := StandsIn l.index.toList v.asText.toList
    verdict = evaluate
      (comparison (l.compared index x.asText) operator (l.compared index y.asText)) ∧
    (∀ v : Json, l.compared index v.asText = v.asText ↔
      ¬ Named v ∨ l.index.toList = Whole.writeInt index.toInt) ∧
    (¬ Named x → ¬ Named y →
      verdict = evaluate (comparison x.asText operator y.asText) ∧
      (IsOperand x.asText → IsOperand y.asText → (verdict = .ok true ↔
        ∃ order, compareOperands? (trim x.asText.toList) (trim y.asText.toList) = some order ∧
          c.holds order)) ∧
      (l.bound = .condition condition → (l.Goes ctx k (l.begun ctx k s) ↔
        k < l.limit ∧ evaluate (comparison x.asText operator y.asText) = .ok true))) := by
  intro condition index verdict Named
  have hstore : ∀ name, name ≠ l.index → ((l.begun ctx k s).store ctx.scope).get? name =
      (s.store ctx.scope).get? name := fun name hname => by
    rw [begun, Session.get?_store_changeStore hscope, if_neg hname]
  have hresolve : resolve ctx.library ((l.begun ctx k s).store ctx.scope) condition =
      .ok (comparison x.asText operator y.asText) :=
    resolve_comparison ha hb hoperator hcall ((hstore a haindex).trans hx)
      ((hstore b hbindex).trans hy)
  have hverdict : verdict = evaluate
      (comparison (l.compared index x.asText) operator (l.compared index y.asText)) := by
    rw [← l.compared_comparison index hoperator]
    exact l.holds_of_resolve hresolve
  refine ⟨hverdict, fun v => compared_eq_self_iff, fun hnotx hnoty => ?_⟩
  have hsame : verdict = evaluate (comparison x.asText operator y.asText) := by
    rw [hverdict, compared_eq_self_iff.2 (.inl hnotx), compared_eq_self_iff.2 (.inl hnoty)]
  refine ⟨hsame, fun hleft hright => ?_, fun hbound => ?_⟩
  · rw [hsame, evaluate_comparison hleft hright.notBlank hoperator]
    cases compareOperands? (trim x.asText.toList) (trim y.asText.toList) with
    | none => simp
    | some order => simp
  · rw [← hsame]
    simp only [Goes, hbound]
    exact Iff.rfl

/-- The value `i` is compared with the value `1` in a loop whose index is called `i`.  In the first
pass the index is 1, and the condition holds there although the two values are different.  The value
`limit` begins with no word of that name, and it is compared as it is. -/
theorem holds_comparison_captured :
    let l : Loop := { bound := .condition "$\x7ba\x7d = $\x7bb\x7d" }
    let ctx : Context := { scope := 0, library := .builtin, run := "r" }
    let s (a : String) : Session :=
      { scopes := [Store.ofFields [("a", .string a), ("b", .string "1")]] }
    let verdict (a : String) := l.holds "$\x7ba\x7d = $\x7bb\x7d" 1 ctx.library
      ((l.begun ctx 0 (s a)).store 0)
    (verdict "i" = .ok true ∧ evaluate "i = 1" = .ok false) ∧
      verdict "limit" = evaluate "limit = 1" := by
  intro l ctx s verdict
  have ha : IsVariableName "a" := ⟨by decide, by decide, by decide, by decide⟩
  have hb : IsVariableName "b" := ⟨by decide, by decide, by decide, by decide⟩
  have hequal : ("=", Comparison.equal) ∈ operators := by decide
  have hx : ∀ value, ((s value).store ctx.scope).get? "a" = some (.string value) := fun _ => rfl
  have hy : ∀ value, ((s value).store ctx.scope).get? "b" = some (.string "1") := fun _ => rfl
  have hholds := fun (value : String) => holds_comparison (l := l) ha hb (by decide) (by decide)
    hequal (.inl (by decide)) (Nat.succ_pos 0) (hx value) (hy value) 0
  have hleft : l.compared 1 "i" = "1" := by cbv
  have hright : l.compared 1 "1" = "1" := by cbv
  have hsame : l.compared 1 "limit" = "limit" := by cbv
  have hindex : l.index.toList ≠ Whole.writeInt 1 := by decide
  have hoperand : IsOperand "1" := ⟨by decide, by simp⟩
  have hoperand' : IsOperand "i" := ⟨by decide, by simp⟩
  refine ⟨⟨?_, ?_⟩, ?_⟩
  · refine (hholds "i").1.trans ?_
    change evaluate (comparison (l.compared 1 "i") "=" (l.compared 1 "1")) = .ok true
    have horder : compareOperands? (trim "1".toList) (trim "1".toList) = some .eq := by
      decide +kernel
    rw [hleft, hright, evaluate_comparison hoperand hoperand.notBlank hequal, horder]
    rfl
  · have horder : compareOperands? (trim "i".toList) (trim "1".toList) = some .gt := by
      decide +kernel
    have hfalse := evaluate_comparison hoperand' hoperand.notBlank hequal
    rw [horder] at hfalse
    exact hfalse
  · exact ((hholds "limit").2.2 ((compared_eq_self_iff.1 hsame).resolve_right hindex)
      ((compared_eq_self_iff.1 hright).resolve_right hindex)).1

end Loop
end Scenario
