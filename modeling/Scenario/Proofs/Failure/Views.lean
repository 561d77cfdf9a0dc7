import Mathlib.Tactic.Common
import Scenario.Proofs.Action.Bare

/-!
# The views of a failure

Failures are wrapped in two ways, and the views treat the two differently.  The root cause looks
through templates and stops at a parallel container, whatever its branches failed with, and so does
the judgement whether a wait ran out.  The message and the report go through both, the message by
putting one sentence into another and the report by putting one document into another.  Since
templates and branches can be nested in each other, the views could only be expected to agree at the
top; that they agree at every depth takes a way of pointing at a depth, both in a failure and in the
document about it.

## What is here

* `Wrap` is a step from a failure to one that it wraps, `at?` follows such steps in a failure and
  `Json.wrappedAt?` follows them in a document.
* `wrappedAt?_report` — following the document about a failure leads to the document about the
  failure that is found there, and nowhere else.
* `message_infix_of_at?` — what is wrapped at any depth can be read in the message.
* `views_agree` — all views at every depth.
-/

set_option autoImplicit false

namespace Scenario

namespace Failure

/-- A way from a failure to one that it wraps: the cause of a template, or a branch at some place in
the list of those that failed. -/
inductive Wrap where
  | cause
  | branch (place : Nat)
deriving DecidableEq, Repr

/-- The failure that another one wraps. -/
def wrapped? : Wrap → Failure → Option Failure
  | .cause, template _ cause => some cause
  | .branch place, parallel _ branches => branches[place]?.map fun (_, _, error) => error
  | _, _ => none

/-- The failure at some depth. -/
def at? : List Wrap → Failure → Option Failure
  | [], f => some f
  | w :: path, f => (f.wrapped? w).bind (at? path)

/-- The failing branches of a parallel container. -/
def branches? : Failure → Option (List (Nat × String × Failure))
  | parallel _ branches => some branches
  | _ => none

end Failure

/-! ## Documents -/

namespace Json

/-- What a document says about the failure that another one wraps. -/
def wrapped? : Failure.Wrap → Json → Option Json
  | .cause, doc => doc.member? "cause"
  | .branch place, doc => do
    let entries ← (← doc.member? "failures").items?
    (← entries[place]?).member? "error"

/-- What a document says about the failure at some depth. -/
def wrappedAt? : List Failure.Wrap → Json → Option Json
  | [], doc => some doc
  | w :: path, doc => (doc.wrapped? w).bind (wrappedAt? path)

end Json

namespace Failure

variable {f g : Failure}

/-! ## The root cause -/

/-- A failure is its root cause in all its layers. -/
theorem foldr_layers (f : Failure) : f.layers.foldr template f.rootCause = f := by
  induction f using rootCause.induct with
  | case1 name cause ih => rw [layers, rootCause, List.foldr_cons, ih]
  | case2 f hno => rw [layers.eq_2 f hno, rootCause.eq_2 f hno, List.foldr_nil]

theorem rootCause_ne_template (f : Failure) (name : String) (cause : Failure) :
    f.rootCause ≠ template name cause := by
  induction f using rootCause.induct with
  | case1 _ _ ih => exact ih
  | case2 f hno =>
    rw [rootCause.eq_2 f hno]
    exact hno name cause

theorem rootCause_rootCause (f : Failure) : f.rootCause.rootCause = f.rootCause :=
  rootCause.eq_2 _ (rootCause_ne_template f)

/-- A wait ran out just if the root cause says so. -/
theorem isTimeout_iff (f : Failure) :
    f.isTimeout = true ↔ ∃ text limit, f.rootCause = timeout text limit := by
  induction f using rootCause.induct with
  | case1 name cause ih => exact ih
  | case2 f hno =>
    rw [rootCause.eq_2 f hno]
    cases f with
    | timeout text limit => exact iff_of_true rfl ⟨text, limit, rfl⟩
    | template name cause => exact absurd rfl (hno name cause)
    | _ => exact iff_of_false Bool.false_ne_true nofun

/-! ## What a report says -/

theorem branchReports_eq_map (branches : List (Nat × String × Failure)) :
    branchReports branches = branches.map fun (index, name, error) =>
      .object [("action", .string name), ("error", report error), ("index", Json.ofNat index)] := by
  induction branches with
  | nil => rfl
  | cons b rest ih =>
    obtain ⟨index, name, error⟩ := b
    rw [branchReports, ih]
    rfl

theorem branchMessages_eq_map (branches : List (Nat × String × Failure)) :
    branchMessages branches = branches.map fun (index, name, error) =>
      s!"[{index}] {name}: " ++ error.message := by
  induction branches with
  | nil => rfl
  | cons b rest ih =>
    obtain ⟨index, name, error⟩ := b
    rw [branchMessages, ih]
    rfl

theorem member?_type (f : Failure) : f.report.member? "type" = some (.string f.kind) := by
  cases f <;> rfl

theorem member?_message (f : Failure) : f.report.member? "message" = some (.string f.message) := by
  cases f <;> rfl

theorem member?_cause (f : Failure) :
    f.report.member? "cause" = (f.wrapped? .cause).map report := by
  cases f <;> rfl

/-- The list of failing branches has an entry for each of them, in order. -/
theorem member?_failures (f : Failure) :
    f.report.member? "failures" = f.branches?.map fun branches =>
      .array (branches.map fun (index, name, error) => .object
        [("action", .string name), ("error", report error), ("index", Json.ofNat index)]) := by
  cases f with
  | parallel total branches =>
    rw [branches?, Option.map_some, ← branchReports_eq_map]
    rfl
  | _ => rfl

/-- The document about a failure says just what is wrapped. -/
theorem wrapped?_report (w : Wrap) (f : Failure) :
    f.report.wrapped? w = (f.wrapped? w).map report := by
  cases w with
  | cause => exact member?_cause f
  | branch place =>
    rw [Json.wrapped?, member?_failures]
    cases f with
    | parallel total branches =>
      simp only [branches?, Option.map_some, Json.items?, Option.bind_eq_bind, Option.bind_some,
        List.getElem?_map, wrapped?]
      cases branches[place]? <;> rfl
    | _ => rfl

/-- **The document about a failure** has at every depth the document about the failure there. -/
theorem wrappedAt?_report (path : List Wrap) (f : Failure) :
    f.report.wrappedAt? path = (f.at? path).map report := by
  induction path generalizing f with
  | nil => rfl
  | cons w path ih =>
    rw [Json.wrappedAt?, at?, wrapped?_report]
    cases f.wrapped? w with
    | none => rfl
    | some g => exact ih g

/-! ## What can be read in a message -/

theorem infix_intercalate {α : Type} (sep : List α) {xs : List (List α)} {x : List α}
    (h : x ∈ xs) : x <:+: sep.intercalate xs := by
  induction xs with
  | nil => cases h
  | cons y rest ih =>
    cases rest with
    | nil =>
      obtain rfl := List.mem_singleton.1 h
      exact ⟨[], [], by rw [List.intercalate_singleton, List.nil_append, List.append_nil]⟩
    | cons z rest =>
      rw [List.intercalate_cons_cons]
      rcases List.mem_cons.1 h with rfl | h
      · rw [List.append_assoc]
        exact (List.prefix_append x _).isInfix
      · exact (ih h).trans (List.suffix_append _ _).isInfix

/-- What stands at the end of a text stands in it. -/
theorem infix_append (lead text : String) : text.toList <:+: (lead ++ text).toList := by
  rw [String.toList_append]
  exact (List.suffix_append _ _).isInfix

theorem message_infix_of_wrapped? {w : Wrap} (h : f.wrapped? w = some g) :
    g.message.toList <:+: f.message.toList := by
  cases w with
  | cause =>
    cases f with
    | template name cause =>
      obtain rfl : cause = g := Option.some.inj h
      exact infix_append s!"Template '{name}' failed: " cause.message
    | _ => cases h
  | branch place =>
    cases f with
    | parallel total branches =>
      obtain ⟨⟨index, name, error⟩, hbranch, rfl⟩ := Option.map_eq_some_iff.1 h
      have hmem := List.mem_of_getElem? hbranch
      let entry : Nat × String × Failure → String := fun (index, name, error) =>
        s!"[{index}] {name}: " ++ error.message
      have hentry : error.message.toList <:+: (entry (index, name, error)).toList :=
        infix_append _ _
      have hall := infix_intercalate "; ".toList
        (List.mem_map_of_mem (f := String.toList) (List.mem_map_of_mem (f := entry) hmem))
      rw [← String.toList_intercalate, ← branchMessages_eq_map] at hall
      exact (hentry.trans hall).trans (infix_append _ _)
    | _ => cases h

/-- **A message holds the messages** of all that is wrapped, at every depth. -/
theorem message_infix_of_at? {path : List Wrap} (h : f.at? path = some g) :
    g.message.toList <:+: f.message.toList := by
  induction path generalizing f with
  | nil =>
    cases h
    exact List.infix_refl _
  | cons w path ih =>
    obtain ⟨between, hfirst, hrest⟩ := Option.bind_eq_some_iff.1 h
    exact (ih hrest).trans (message_infix_of_wrapped? hfirst)

/-! ## The chain of causes -/

theorem at?_causes (f : Failure) :
    f.at? (List.replicate f.layers.length .cause) = some f.rootCause := by
  induction f using rootCause.induct with
  | case1 name cause ih => exact ih
  | case2 f hno =>
    rw [layers.eq_2 f hno, rootCause.eq_2 f hno]
    rfl

theorem member?_template (f : Failure) :
    f.report.member? "template" = f.layers.head?.map .string := by
  cases f <;> rfl

/-- Each document in the chain names the layer that it is about. -/
theorem member?_template_causes (f : Failure) (depth : Nat) :
    (f.report.wrappedAt? (List.replicate depth .cause)).bind (Json.member? "template") =
      (f.layers[depth]?).map .string := by
  rw [wrappedAt?_report]
  induction depth generalizing f with
  | zero =>
    refine (member?_template f).trans ?_
    rw [List.head?_eq_getElem?]
  | succ depth ih =>
    cases f with
    | template name cause => exact ih cause
    | _ => rfl

/-- **The views of a failure agree** at every depth.  The root cause is what is left without the
templates around it, and a wait ran out just if it is one that did.  The chain of causes in the
report names these templates one by one and ends with the report on the root cause.  Whatever the
way inwards, it leads in the report to the report on the failure that it leads to; that report has
the kind and the message of this failure and the failing branches in order, and the message holds
the messages of all that is inside. -/
theorem views_agree (f : Failure) :
    ((∀ name cause, f.rootCause ≠ .template name cause) ∧ f.rootCause.rootCause = f.rootCause ∧
      f.layers.foldr .template f.rootCause = f) ∧
    (f.isTimeout = true ↔ ∃ text limit, f.rootCause = .timeout text limit) ∧
    ((∀ depth, (f.report.wrappedAt? (List.replicate depth .cause)).bind (Json.member? "template") =
        (f.layers[depth]?).map .string) ∧
      f.report.wrappedAt? (List.replicate f.layers.length .cause) = some f.rootCause.report ∧
      f.rootCause.report.member? "cause" = none) ∧
    ∀ path, f.report.wrappedAt? path = (f.at? path).map report ∧
      ∀ g, f.at? path = some g →
        g.report.member? "type" = some (.string g.kind) ∧
        g.report.member? "message" = some (.string g.message) ∧
        g.report.member? "failures" = (g.branches?.map fun branches =>
          .array (branches.map fun (index, name, error) => .object
            [("action", .string name), ("error", report error), ("index", Json.ofNat index)])) ∧
        ∀ inner h, g.at? inner = some h → h.message.toList <:+: g.message.toList := by
  refine ⟨⟨rootCause_ne_template f, rootCause_rootCause f, foldr_layers f⟩, isTimeout_iff f,
    ⟨member?_template_causes f, ?_, ?_⟩, fun path => ⟨wrappedAt?_report path f, fun g _ => ?_⟩⟩
  · rw [wrappedAt?_report, at?_causes, Option.map_some]
  · rw [member?_cause]
    cases h : f.rootCause with
    | template name cause => exact absurd h (rootCause_ne_template f name cause)
    | _ => rfl
  · exact ⟨member?_type g, member?_message g, member?_failures g, fun _ _ => message_infix_of_at?⟩

end Failure

end Scenario
