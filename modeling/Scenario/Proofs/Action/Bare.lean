import Scenario.Condition
import Scenario.Template

/-!
# Failures without templates around them
-/

set_option autoImplicit false

namespace Scenario

open Resolve

variable {α β ε : Type}

/-- The names of the templates around a failure, the outermost first. -/
def Failure.layers : Failure → List String
  | .template name cause => name :: cause.layers
  | _ => []

/-- Whether something fails only with failures that have no templates around them. -/
structure Bare (e : Except Failure α) : Prop where
  layers : ∀ f, e = .error f → f.layers = []

theorem bare_ok (a : α) : Bare (.ok a) := ⟨nofun⟩

theorem bare_error {f : Failure} (h : f.layers = []) : Bare (.error f : Except Failure α) := by
  refine ⟨?_⟩
  rintro _ ⟨⟩
  exact h

theorem Bare.bind {e : Except Failure α} {next : α → Except Failure β} (h : Bare e)
    (hnext : ∀ a, Bare (next a)) : Bare (e >>= next) := by
  cases e with
  | ok a => exact hnext a
  | error f => exact bare_error (h.layers f rfl)

theorem Bare.map {e : Except Failure α} (h : Bare e) (g : α → β) : Bare (e.map g) := by
  cases e with
  | ok a => exact bare_ok _
  | error f => exact bare_error (h.layers f rfl)

theorem bare_mapError {e : Except ε α} {g : ε → Failure} (hg : ∀ x, (g x).layers = []) :
    Bare (e.mapError g) := by
  cases e with
  | ok a => exact bare_ok _
  | error x => exact bare_error (hg x)

theorem bare_mapM {read : α → Except Failure β} {xs : List α} (h : ∀ x ∈ xs, Bare (read x)) :
    Bare (xs.mapM read) := by
  induction xs with
  | nil => exact bare_ok _
  | cons x rest ih =>
    obtain ⟨hx, hrest⟩ := List.forall_mem_cons.1 h
    rw [List.mapM_cons]
    exact hx.bind fun _ => (ih hrest).bind fun _ => bare_ok _

/-! ## Resolving -/

theorem Library.bare_evaluate (lib : Library) (store : Store) (name : String)
    (args : List String) : Bare (lib.evaluate store name args) := by
  rw [evaluate]
  split
  · exact bare_error rfl
  · exact bare_mapError fun _ => rfl

theorem Reference.bare_eval (r : Reference) (store : Store) : Bare (r.eval store) := by
  rw [eval]
  split
  · exact bare_error rfl
  · split
    · exact bare_ok _
    · exact bare_ok _
    · exact bare_error rfl

theorem bare_resolveOnto (lib : Library) (store : Store) (out : String) (before : Option Char)
    (cs : List Char) : Bare (resolveOnto lib store out before cs) := by
  induction hn : cs.length using Nat.strongRecOn generalizing out before cs with
  | ind n ih =>
    subst hn
    cases cs with
    | nil =>
      rw [resolveOnto]
      exact bare_ok _
    | cons c rest =>
      rw [resolveOnto]
      split
      · exact bare_error rfl
      · next inside tail hr =>
        exact (Reference.bare_eval _ _).bind fun _ => ih _ (reference?_length hr) _ _ _ rfl
      · split
        · next call hc =>
          have hcall := call?_of_callAfter? hc
          refine (bare_mapM fun a _ => ?_).bind fun args => (lib.bare_evaluate _ _ args).bind
            fun _ => ?_
          · exact ih _ (length_lt_of_mem_arguments hcall a.2) _ _ _ rfl
          · exact ih _ (call?_length hcall).2 _ _ _ rfl
        · exact ih _ (by simp) _ _ _ rfl

theorem bare_resolve (lib : Library) (store : Store) (text : String) :
    Bare (resolve lib store text) :=
  bare_resolveOnto ..

mutual

theorem bare_resolveValue (lib : Library) (store : Store) : (v : Json) →
    Bare (resolveValue lib store v)
  | .null | .bool _ | .number _ => bare_ok _
  | .string s => (bare_resolve lib store s).map _
  | .array items => (bare_resolveItems lib store items).map _
  | .object members => (bare_resolveMembers lib store members).map _

theorem bare_resolveItems (lib : Library) (store : Store) : (items : List Json) →
    Bare (resolveItems lib store items)
  | [] => bare_ok _
  | v :: rest => (bare_resolveValue lib store v).bind fun _ =>
    (bare_resolveItems lib store rest).bind fun _ => bare_ok _

theorem bare_resolveMembers (lib : Library) (store : Store) : (members : Fields Json) →
    Bare (resolveMembers lib store members)
  | [] => bare_ok _
  | m :: rest => (bare_resolveValue lib store m.2).bind fun _ =>
    (bare_resolveMembers lib store rest).bind fun _ => bare_ok _

end

theorem Store.bare_get (store : Store) (name : String) : Bare (store.get name) := by
  rw [get]
  split
  · exact bare_ok _
  · exact bare_error rfl

theorem Condition.bare_evaluate (condition : String) : Bare (evaluate condition) := by
  simp only [evaluate]
  split
  · exact bare_ok _
  split
  · exact bare_ok _
  split
  · exact bare_error rfl
  split
  · exact bare_error rfl
  split
  · exact bare_error rfl
  · exact bare_ok _

/-! ## Validating -/

namespace Expectation

theorem bare_resolveArguments (lib : Library) (store : Store) (arguments : List (List Char)) :
    Bare (resolveArguments lib store arguments) := by
  induction arguments with
  | nil => exact bare_ok _
  | cons a rest ih => exact (bare_resolve ..).bind fun _ => ih.bind fun _ => bare_ok _

theorem bare_meets (lib : Library) (store : Store) (expected actual : String) :
    Bare (meets lib store expected actual) := by
  rw [meets]
  split
  · exact (bare_resolve ..).bind fun _ => bare_ok _
  split
  · exact bare_error rfl
  simp only
  split
  · exact bare_error rfl
  · exact (bare_resolveArguments ..).bind fun _ => bare_mapError fun _ => rfl

theorem bare_validate (lib : Library) (store : Store) (path expected actual : String) :
    Bare (validate lib store path expected actual) := by
  refine (bare_meets ..).bind fun met => ?_
  cases met with
  | true => exact bare_ok _
  | false => exact bare_error rfl

end Expectation

namespace MessageExpectation

variable (lib : Library) (store : Store) (strictness : Strictness)

theorem bare_refuseExtra (path : String) (expected actual : Fields Json) :
    Bare (refuseExtra strictness path expected actual) := by
  cases strictness with
  | lenient => exact bare_ok _
  | strict =>
    rw [refuseExtra]
    split
    · exact bare_error rfl
    · exact bare_ok _

/-- Values that are compared as wholes. -/
theorem bare_ite (same : Bool) (detail : String) :
    Bare (if same then .ok () else .error (.validation detail) : Outcome) := by
  split
  · exact bare_ok _
  · exact bare_error rfl

mutual

theorem bare_compare (path : String) : (expected actual : Json) →
    Bare (compare lib store strictness path expected actual)
  | .string text, actual => by
    rw [compare]
    exact Expectation.bare_validate ..
  | .object members, actual => by
    cases actual with
    | object actuals =>
      rw [compare]
      exact (bare_compareMembers path members actuals).bind fun _ => bare_refuseExtra ..
    | _ => rw [compare] <;> first | exact bare_ite .. | nofun
  | .array items, actual => by
    cases actual with
    | array actuals =>
      rw [compare]
      split
      · exact bare_error rfl
      · exact bare_compareItems path 0 items actuals
    | _ => rw [compare] <;> first | exact bare_ite .. | nofun
  | .null, actual => by rw [compare] <;> first | exact bare_ite .. | nofun
  | .bool _, actual => by rw [compare] <;> first | exact bare_ite .. | nofun
  | .number _, actual => by rw [compare] <;> first | exact bare_ite .. | nofun

theorem bare_compareMembers (path : String) : (expected actual : Fields Json) →
    Bare (compareMembers lib store strictness path expected actual)
  | [], _ => bare_ok _
  | (name, value) :: rest, actual => by
    rw [compareMembers]
    split
    · exact bare_error rfl
    · exact (bare_compare _ value _).bind fun _ => bare_compareMembers path rest actual

theorem bare_compareItems (path : String) (index : Nat) : (expected actual : List Json) →
    Bare (compareItems lib store strictness path index expected actual)
  | [], _ => by rw [compareItems] <;> first | exact bare_ok _ | nofun
  | _ :: _, [] => by rw [compareItems] <;> first | exact bare_ok _ | nofun
  | value :: rest, found :: more => by
    rw [compareItems]
    exact (bare_compare _ value found).bind fun _ => bare_compareItems path _ rest more

end

theorem bare_validateHeaders (m : Message) (headers : Fields String) :
    Bare (validateHeaders lib store m headers) := by
  induction headers with
  | nil => exact bare_ok _
  | cons header rest ih =>
    rw [validateHeaders]
    split
    · exact bare_error rfl
    · exact (Expectation.bare_validate ..).bind fun _ => ih

theorem bare_validate (e : MessageExpectation) (m : Message) :
    Bare (e.validate lib store strictness m) := by
  refine (bare_validateHeaders lib store m _).bind fun _ => ?_
  split
  · exact bare_compare ..
  · exact bare_ok _

end MessageExpectation

/-! ## Binding -/

namespace Template

theorem bare_resolveArgument (lib : Library) (store : Store) (v : Json) :
    Bare (resolveArgument lib store v) := by
  cases v with
  | string text => exact (bare_resolve ..).map _
  | _ => exact bare_ok _

theorem bare_bindDefaults (lib : Library) (store : Store) (template : String)
    (arguments : Fields Json) (parameters : List Parameter) :
    Bare (bindDefaults lib store template arguments parameters) := by
  induction parameters with
  | nil => exact bare_ok _
  | cons p rest ih =>
    rw [bindDefaults]
    split
    · exact ih
    split
    · exact bare_error rfl
    · exact (bare_resolveArgument ..).bind fun _ => ih.bind fun _ => bare_ok _

theorem bare_bindArguments (lib : Library) (store : Store) (arguments : Fields Json) :
    Bare (bindArguments lib store arguments) := by
  induction arguments with
  | nil => exact bare_ok _
  | cons a rest ih => exact (bare_resolveArgument ..).bind fun _ => ih.bind fun _ => bare_ok _

theorem bare_bind (t : Template) (lib : Library) (store : Store) (arguments : Fields Json) :
    Bare (t.bind lib store arguments) :=
  (bare_bindDefaults ..).bind fun _ => (bare_bindArguments ..).bind fun _ => bare_ok _

end Template

theorem Templates.bare_find (templates : Templates) (name : String) :
    Bare (templates.find name) := by
  rw [find]
  split
  · exact bare_ok _
  · exact bare_error rfl

end Scenario
