import Mathlib
import Scenario.Resolve.Basic

/-!
# The plan of a text

Resolving a text reads and evaluates in one pass, and the two have to be kept apart to see that
values are opaque: whatever a variable holds or a function returns, it is put out and not read.
This file takes the pass apart into a part that only reads and a part that only evaluates.

## What is here

* `plan` reads a text and says what it consists of: characters to copy, references, calls whose
  arguments are plans again, and perhaps a reference without an end, which is then the last part
  (`isPlan_plan`).  It is given the marker of function calls and no variable.
* `Segment.evalAll` evaluates a plan from left to right; the first part that fails decides.
* `resolveOnto_eq` — the pass puts out what evaluating the plan puts out.  The induction follows
  the pass: where the pass goes on behind a value, the plan goes on with the same rest of the text,
  because both look for the rest in the text and not in the value.
* `Query` is a question that an evaluation may ask: the value of a variable, or what a function
  makes of some number of arguments.  `Segment.queriesAll` lists the questions of a plan, and
  `Segment.evalAll_congr` says that their answers are all that matters.
* `resolve_eq_evalAll_planOf` — the main result: a text is resolved by its plan, and no value adds
  a reference, a call or an argument to it.
-/

set_option autoImplicit false

namespace Scenario

open Text Resolve

/-- A part of a text. -/
inductive Segment where
  | literal (c : Char)
  | reference (r : Reference)
  | call (name : List Char) (arguments : List (List Segment))
  /-- A reference without an end, and all that follows it. -/
  | unterminated (rest : List Char)
deriving Repr

/-- The parts of a text that follows the character `before`. -/
def plan (marker : List Char) (before : Option Char) (cs : List Char) : List Segment :=
  match cs with
  | [] => []
  | c :: rest =>
    match _hr : reference? (c :: rest) with
    | some none => [.unterminated (c :: rest)]
    | some (some (inside, tail)) =>
      .reference (.ofExpression inside) :: plan marker (some '\x7d') tail
    | none =>
      match _hc : callAfter? marker before (c :: rest) with
      | some call =>
        .call call.name (call.arguments.attach.map fun ⟨a, _⟩ => plan marker none a) ::
          plan marker (some ')') call.rest
      | none => .literal c :: plan marker (some c) rest
termination_by cs.length
decreasing_by
  · exact reference?_length _hr
  · exact length_lt_of_mem_arguments (call?_of_callAfter? _hc) ‹_›
  · exact (call?_length (call?_of_callAfter? _hc)).2
  · simp

/-- The plan of a whole text. -/
def planOf (marker text : String) : List Segment := plan marker.toList none text.toList

/-! ## Reading, case by case -/

section Reading

variable {marker : List Char} {before : Option Char} {c : Char} {rest : List Char}

theorem plan_nil : plan marker before [] = [] := by rw [plan]

theorem plan_unterminated (hr : reference? (c :: rest) = some none) :
    plan marker before (c :: rest) = [.unterminated (c :: rest)] := by
  rw [plan]
  split <;> simp_all

theorem plan_reference {inside tail : List Char}
    (hr : reference? (c :: rest) = some (some (inside, tail))) :
    plan marker before (c :: rest) =
      .reference (.ofExpression inside) :: plan marker (some '\x7d') tail := by
  rw [plan]
  split <;> simp_all

theorem plan_call {call : Call} (hr : reference? (c :: rest) = none)
    (hc : callAfter? marker before (c :: rest) = some call) :
    plan marker before (c :: rest) =
      .call call.name (call.arguments.map (plan marker none)) ::
        plan marker (some ')') call.rest := by
  rw [plan]
  split
  · simp_all
  · simp_all
  · split
    · next call' hc' =>
      obtain rfl : call' = call := Option.some.inj (hc'.symm.trans hc)
      simp
    · simp_all

theorem plan_literal (hr : reference? (c :: rest) = none)
    (hc : callAfter? marker before (c :: rest) = none) :
    plan marker before (c :: rest) = .literal c :: plan marker (some c) rest := by
  rw [plan]
  split
  · simp_all
  · simp_all
  · split <;> simp_all

end Reading

namespace Segment

/-- Whether the part is a reference without an end. -/
def isEnd : Segment → Bool
  | unterminated _ => true
  | _ => false

mutual

/-- Whether all arguments of the part are plans. -/
def HasPlans : Segment → Prop
  | call _ arguments => ArePlans arguments
  | _ => True

/-- Whether a reference without an end is at most the last part, here and in all arguments. -/
def IsPlan : List Segment → Prop
  | [] => True
  | s :: rest => s.HasPlans ∧ (s.isEnd → rest = []) ∧ IsPlan rest

/-- Whether all lists of parts are plans. -/
def ArePlans : List (List Segment) → Prop
  | [] => True
  | a :: rest => IsPlan a ∧ ArePlans rest

end

theorem arePlans_iff {arguments : List (List Segment)} :
    ArePlans arguments ↔ ∀ a ∈ arguments, IsPlan a := by
  induction arguments with
  | nil => simp [ArePlans]
  | cons a rest ih => simp [ArePlans, ih]

end Segment

theorem isPlan_plan (marker : List Char) (before : Option Char) (cs : List Char) :
    Segment.IsPlan (plan marker before cs) := by
  fun_induction plan marker before cs with
  | case1 => trivial
  | case2 => exact ⟨trivial, fun _ => rfl, trivial⟩
  | case3 before c rest inside tail hr ih => exact ⟨trivial, nofun, ih⟩
  | case4 before c rest hr call hc ihargs ih =>
    refine ⟨Segment.arePlans_iff.2 fun p hp => ?_, nofun, ih⟩
    obtain ⟨⟨a, ha⟩, -, rfl⟩ := List.mem_map.1 hp
    exact ihargs a ha
  | case5 before c rest hr hc ih => exact ⟨trivial, nofun, ih⟩

/-! ## Evaluating -/

namespace Segment

mutual

/-- The text of a part. -/
def eval (lib : Library) (store : Store) : Segment → Except Failure String
  | literal c => .ok (String.singleton c)
  | reference r => r.eval store
  | call name arguments => do
    let args ← evalArguments lib store arguments
    lib.evaluate store (String.ofList name) args
  | unterminated rest =>
    .error (.unresolvable (String.ofList rest) "unterminated variable reference")

/-- The texts of parts, one after the other. -/
def evalAll (lib : Library) (store : Store) : List Segment → Except Failure String
  | [] => .ok ""
  | s :: rest => do
    let a ← eval lib store s
    let b ← evalAll lib store rest
    return a ++ b

/-- The texts of arguments in order. -/
def evalArguments (lib : Library) (store : Store) :
    List (List Segment) → Except Failure (List String)
  | [] => .ok []
  | a :: rest => do
    let value ← evalAll lib store a
    let values ← evalArguments lib store rest
    return value :: values

end

variable (lib : Library) (store : Store)

theorem evalArguments_map (p : List Char → List Segment) (as : List (List Char)) :
    evalArguments lib store (as.map p) = as.mapM fun a => evalAll lib store (p a) := by
  induction as with
  | nil => rfl
  | cons a rest ih => rw [List.map_cons, evalArguments, List.mapM_cons, ih]

theorem map_empty_append (result : Except Failure String) : result.map ("" ++ ·) = result := by
  cases result with
  | error f => rfl
  | ok value => exact congrArg Except.ok String.empty_append

/-- Putting parts behind a text is putting the first one behind it and the others behind that. -/
theorem map_evalAll_cons (out : String) (s : Segment) (rest : List Segment) :
    (evalAll lib store (s :: rest)).map (out ++ ·) =
      eval lib store s >>= fun value => (evalAll lib store rest).map (out ++ value ++ ·) := by
  rw [evalAll]
  cases eval lib store s with
  | error f => rfl
  | ok a =>
    cases evalAll lib store rest with
    | error f => rfl
    | ok b => exact congrArg Except.ok String.append_assoc.symm

end Segment

/-- **The pass follows the plan.** -/
theorem resolveOnto_eq (lib : Library) (store : Store) (out : String) (before : Option Char)
    (cs : List Char) :
    resolveOnto lib store out before cs =
      (Segment.evalAll lib store (plan lib.marker.toList before cs)).map (out ++ ·) := by
  fun_induction resolveOnto lib store out before cs with
  | case1 out before =>
    rw [plan_nil]
    exact congrArg Except.ok String.append_empty.symm
  | case2 out before c rest hr =>
    rw [plan_unterminated hr]
    rfl
  | case3 out before c rest inside tail hr ih =>
    rw [plan_reference hr, Segment.map_evalAll_cons]
    simp only [ih]
    rfl
  | case4 out before c rest hr call hc ihargs ih =>
    have hargs : (call.arguments.attach.mapM fun ⟨a, _⟩ => resolveOnto lib store "" none a) =
        Segment.evalArguments lib store (call.arguments.map (plan lib.marker.toList none)) := by
      rw [Segment.evalArguments_map, List.mapM_subtype, List.unattach_attach]
      intro a ha
      exact (ihargs a ha).trans (Segment.map_empty_append _)
    rw [plan_call hr hc, Segment.map_evalAll_cons, Segment.eval, hargs, bind_assoc]
    simp only [ih]
  | case5 out before c rest hr hc ih =>
    rw [plan_literal hr hc, Segment.map_evalAll_cons, ih]
    rfl

/-- The pass over a whole text. -/
theorem resolve_eq_evalAll (lib : Library) (store : Store) (text : String) :
    resolve lib store text = Segment.evalAll lib store (planOf lib.marker text) := by
  rw [resolve, resolveOnto_eq, Segment.map_empty_append, planOf]

/-! ## What an evaluation asks -/

/-- A question about a store and a library. -/
inductive Query where
  /-- What is the value of the variable? -/
  | value (name : String)
  /-- What does the function make of so many arguments, given the variables that there are? -/
  | result (name : String) (arity : Nat)
deriving DecidableEq, Repr

/-- Whether two libraries and two stores give the same answers to a question. -/
def Query.Agrees (lib lib' : Library) (store store' : Store) : Query → Prop
  | value name => store.get? name = store'.get? name
  | result name arity =>
    ∀ args : List String, args.length = arity →
      lib.evaluate store name args = lib'.evaluate store' name args

namespace Segment

mutual

/-- The questions that a part asks. -/
def queries : Segment → List Query
  | reference r => [.value (String.ofList r.name)]
  | call name arguments =>
    queriesArguments arguments ++ [.result (String.ofList name) arguments.length]
  | _ => []

/-- The questions that parts ask. -/
def queriesAll : List Segment → List Query
  | [] => []
  | s :: rest => queries s ++ queriesAll rest

/-- The questions that arguments ask. -/
def queriesArguments : List (List Segment) → List Query
  | [] => []
  | a :: rest => queriesAll a ++ queriesArguments rest

end

/-- Every argument is evaluated to one text. -/
theorem length_of_evalArguments {lib : Library} {store : Store} {arguments : List (List Segment)}
    {values : List String} (h : evalArguments lib store arguments = .ok values) :
    values.length = arguments.length := by
  induction arguments generalizing values with
  | nil => cases h; rfl
  | cons a rest ih =>
    rw [evalArguments] at h
    cases ha : evalAll lib store a with
    | error f => rw [ha] at h; cases h
    | ok value =>
      cases hrest : evalArguments lib store rest with
      | error f => rw [ha, hrest] at h; cases h
      | ok others =>
        rw [ha, hrest] at h
        cases h
        exact congrArg Nat.succ (ih hrest)

section Agreement

variable {lib lib' : Library} {store store' : Store}

mutual

theorem eval_congr : (s : Segment) → (∀ q ∈ queries s, q.Agrees lib lib' store store') →
    eval lib store s = eval lib' store' s
  | literal c, _ => rfl
  | reference r, h => by
    have hvar : store.get? (String.ofList r.name) = store'.get? (String.ofList r.name) :=
      h (.value (String.ofList r.name)) (List.mem_singleton.2 rfl)
    rw [eval, eval, Reference.eval, Reference.eval, hvar]
  | call name arguments, h => by
    have hargs := evalArguments_congr arguments fun q hq => h q (List.mem_append_left _ hq)
    have hcall : ∀ args : List String, args.length = arguments.length →
        lib.evaluate store (String.ofList name) args =
          lib'.evaluate store' (String.ofList name) args :=
      h (.result (String.ofList name) arguments.length)
        (List.mem_append_right _ (List.mem_singleton.2 rfl))
    rw [eval, eval, ← hargs]
    cases hvals : evalArguments lib store arguments with
    | error f => rfl
    | ok args => exact hcall args (length_of_evalArguments hvals)
  | unterminated rest, _ => rfl

/-- Only the answers to the questions of a plan matter to its text. -/
theorem evalAll_congr : (p : List Segment) →
    (∀ q ∈ queriesAll p, q.Agrees lib lib' store store') →
    evalAll lib store p = evalAll lib' store' p
  | [], _ => rfl
  | s :: rest, h => by
    rw [evalAll, evalAll, eval_congr s fun q hq => h q (List.mem_append_left _ hq),
      evalAll_congr rest fun q hq => h q (List.mem_append_right _ hq)]

theorem evalArguments_congr : (arguments : List (List Segment)) →
    (∀ q ∈ queriesArguments arguments, q.Agrees lib lib' store store') →
    evalArguments lib store arguments = evalArguments lib' store' arguments
  | [], _ => rfl
  | a :: rest, h => by
    rw [evalArguments, evalArguments, evalAll_congr a fun q hq => h q (List.mem_append_left _ hq),
      evalArguments_congr rest fun q hq => h q (List.mem_append_right _ hq)]

end

end Agreement

end Segment

/-- **A text is resolved by its plan.**  The plan is read off the text and the marker of function
calls.  Under every store and every library with this marker the text resolves to what evaluating
the plan gives, and the result depends on nothing but the answers to the questions of the plan: a
variable that the text does not refer to, a function that it does not call and a call with other
arguments have no part in it, whatever the values are that are put out on the way. -/
theorem resolve_eq_evalAll_planOf (marker text : String) :
    Segment.IsPlan (planOf marker text) ∧
      (∀ (lib : Library) (store : Store), lib.marker = marker →
        resolve lib store text = Segment.evalAll lib store (planOf marker text)) ∧
      ∀ (lib lib' : Library) (store store' : Store), lib.marker = marker → lib'.marker = marker →
        (∀ q ∈ Segment.queriesAll (planOf marker text), q.Agrees lib lib' store store') →
        resolve lib store text = resolve lib' store' text := by
  have heval : ∀ (lib : Library) (store : Store), lib.marker = marker →
      resolve lib store text = Segment.evalAll lib store (planOf marker text) := by
    rintro lib store rfl
    rw [resolve, resolveOnto_eq, planOf]
    cases Segment.evalAll lib store (plan lib.marker.toList none text.toList) with
    | error f => rfl
    | ok value => exact congrArg Except.ok String.empty_append
  refine ⟨isPlan_plan _ _ _, heval, fun lib lib' store store' hlib hlib' hq => ?_⟩
  rw [heval lib store hlib, heval lib' store' hlib', Segment.evalAll_congr _ hq]

/-- A variable whose value looks like the rest of a call with a reference and a second call in it.
The text has one call with one argument, the value goes through as it is, and the variable that
the value names has no part in the result. -/
theorem resolve_concat_hostile_value :
    let text := "core:concat('<$\x7ba\x7d>')"
    let value := "$\x7bb\x7d'), core:upperCase('$\x7bb\x7d"
    let store := fun b => Store.ofFields [("a", .string value), ("b", .string b)]
    resolve Library.builtin (store "1") text = .ok ("<" ++ value ++ ">") ∧
      resolve Library.builtin (store "1") text = resolve Library.builtin (store "2") text := by
  intro text value store
  obtain ⟨-, heval, hopaque⟩ := resolve_eq_evalAll_planOf "core" text
  have hqueries : Segment.queriesAll (planOf "core" text) = [.value "a", .result "concat" 1] := by
    cbv
  refine ⟨?_, hopaque _ _ _ _ rfl rfl fun q hq => ?_⟩
  · rw [heval Library.builtin (store "1") rfl]
    cbv
  · rw [hqueries, List.mem_cons, List.mem_singleton] at hq
    rcases hq with rfl | rfl
    · show (store "1").get? "a" = (store "2").get? "a"
      cbv
    · exact fun _ _ => rfl

end Scenario
