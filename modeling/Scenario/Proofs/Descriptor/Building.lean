import Scenario.Proofs.Failure.InOrder
import Scenario.Proofs.Json.Fields
import Scenario.Suite

/-!
# What makes a descriptor sound

Building an action is one pass through its descriptor that stops at the first thing that makes no
sense.  Each descriptor is looked at on its own for that: whether an endpoint is known by its name,
and whether a loop says in exactly one way when it ends.  What a call of a template names is not
looked at, so templates may call each other in any order, and those that are never called need not
be there.

## What is here

* `Descriptor.nodes` and `TestDescriptor.nodes` — the descriptors in a document in its order, each
  before those inside it.
* `Descriptor.Flaw` — what can be wrong with a descriptor on its own.
* `Descriptor.failsAlike_build` — building fails as looking at the nodes in order does.
* `Suite.build_sound_iff` — the main result, for an action and for a whole test case.
-/

set_option autoImplicit false

namespace Scenario

namespace Descriptor

/-! ## Descriptors on their own -/

mutual

/-- A descriptor and those inside it, in the order of the document. -/
def nodes : Descriptor → List Descriptor
  | assertFailure action message => assertFailure action message :: nodes action
  | sequential actions sharing => sequential actions sharing :: allNodes actions
  | parallel actions sharing => parallel actions sharing :: allNodes actions
  | iterate actions fields => iterate actions fields :: allNodes actions
  | d => [d]

/-- Some descriptors and those inside them, in the order of the document. -/
def allNodes : List Descriptor → List Descriptor
  | [] => []
  | d :: rest => nodes d ++ allNodes rest

end

/-- What is wrong with a descriptor on its own: the endpoint is not known, or a loop has both a
number of passes and a condition, or neither of them. -/
inductive Flaw (endpoints : Endpoints) : Descriptor → Failure → Prop where
  | send {fields : SendFields} (h : fields.endpoint ∉ endpoints.names) :
    Flaw endpoints (.send fields) (.unknownEndpoint fields.endpoint)
  | receive {fields : ReceiveFields} (h : fields.endpoint ∉ endpoints.names) :
    Flaw endpoints (.receive fields) (.unknownEndpoint fields.endpoint)
  | iterate {actions : List Descriptor} {fields : LoopFields}
    (h : fields.count.isSome = fields.condition.isSome) :
    Flaw endpoints (.iterate actions fields)
      (.configuration "iterate needs exactly one of 'count' or 'condition'")

/-- Whether nothing is wrong with a descriptor on its own. -/
def Sound (endpoints : Endpoints) (d : Descriptor) : Prop := ∀ f, ¬ d.Flaw endpoints f

/-- Whether a failure is what is wrong with the first of some descriptors that is not sound. -/
def FirstFlaw (endpoints : Endpoints) (ds : List Descriptor) (f : Failure) : Prop :=
  ∃ before d after, ds = before ++ d :: after ∧ (∀ b ∈ before, b.Sound endpoints) ∧
    d.Flaw endpoints f

/-! ## Looking at one descriptor after the other -/

variable (endpoints : Endpoints) (limit : Nat)

/-- What building does with a descriptor before it comes to those inside it. -/
def check : Descriptor → Outcome
  | send fields => (endpoints.find fields.endpoint).map fun _ => ()
  | receive fields => (endpoints.find fields.endpoint).map fun _ => ()
  | iterate _ fields => (fields.loop limit).map fun _ => ()
  | _ => .ok ()

theorem find_eq_error_iff {name : String} {f : Failure} :
    endpoints.find name = .error f ↔ name ∉ endpoints.names ∧ f = .unknownEndpoint name := by
  rw [Fields.mem_names_iff, Endpoints.find]
  cases endpoints.get? name <;> simp [eq_comm]

theorem loop_eq_error_iff {fields : LoopFields} {f : Failure} :
    fields.loop limit = .error f ↔ fields.count.isSome = fields.condition.isSome ∧
      f = .configuration "iterate needs exactly one of 'count' or 'condition'" := by
  rw [LoopFields.loop]
  cases fields.count <;> cases fields.condition <;> simp [eq_comm]

/-- **The check finds the flaw of a descriptor**, if it has one. -/
theorem check_eq_error_iff {d : Descriptor} {f : Failure} :
    check endpoints limit d = .error f ↔ d.Flaw endpoints f := by
  cases d with
  | send fields =>
    rw [check, map_eq_error_iff, find_eq_error_iff]
    exact ⟨fun ⟨h, hf⟩ => hf ▸ .send h, fun | .send h => ⟨h, rfl⟩⟩
  | receive fields =>
    rw [check, map_eq_error_iff, find_eq_error_iff]
    exact ⟨fun ⟨h, hf⟩ => hf ▸ .receive h, fun | .receive h => ⟨h, rfl⟩⟩
  | iterate actions fields =>
    rw [check, map_eq_error_iff, loop_eq_error_iff]
    exact ⟨fun ⟨h, hf⟩ => hf ▸ .iterate h, fun | .iterate h => ⟨h, rfl⟩⟩
  | _ => exact iff_of_false nofun nofun

theorem exists_check_iff {d : Descriptor} :
    (∃ u, check endpoints limit d = .ok u) ↔ d.Sound endpoints := by
  simp only [Sound, ← check_eq_error_iff endpoints limit]
  cases check endpoints limit d <;> simp

/-- What fails as checking some descriptors does fails at the first one that is not sound. -/
theorem firstFlaw_of_failsAlike {α : Type} {x : Except Failure α} {ds : List Descriptor}
    (h : FailsAlike x (ds.mapM (check endpoints limit))) :
    ((∃ a, x = .ok a) ↔ ∀ d ∈ ds, d.Sound endpoints) ∧
      ∀ f, x = .error f ↔ FirstFlaw endpoints ds f := by
  constructor
  · rw [h.exists_ok_iff, exists_mapM_iff]
    simp only [exists_check_iff]
  · intro f
    rw [h f, mapM_eq_error_iff]
    simp only [exists_check_iff, check_eq_error_iff]
    rfl

mutual

/-- **Building fails as checking the nodes in order does.** -/
theorem failsAlike_build : (d : Descriptor) →
    FailsAlike (d.build endpoints limit) (d.nodes.mapM (check endpoints limit))
  | createVariables _ => .ok _ _
  | echo _ => .ok _ _
  | sleep _ => .ok _ _
  | fail _ => .ok _ _
  | callTemplate _ => .ok _ _
  | assertFailure action _ => by
    rw [build, nodes]
    exact ((failsAlike_build action).map _).cons_ok rfl
  | send _ => by
    rw [build]
    exact .cons (f := check endpoints limit) (.of_map _ _) fun _ => .ok _ _
  | receive _ => by
    rw [build]
    exact .cons (f := check endpoints limit) (.of_map _ _) fun _ => .ok _ _
  | sequential actions _ => by
    rw [build, nodes]
    exact ((failsAlike_buildAll actions).map _).cons_ok rfl
  | parallel actions _ => by
    rw [build, nodes]
    exact ((failsAlike_buildAll actions).map _).cons_ok rfl
  | iterate actions _ => by
    rw [build, nodes]
    exact .cons (f := check endpoints limit) (.of_map _ _) fun _ =>
      (failsAlike_buildAll actions).map _

theorem failsAlike_buildAll : (ds : List Descriptor) →
    FailsAlike (buildAll endpoints limit ds) ((allNodes ds).mapM (check endpoints limit))
  | [] => .ok _ _
  | d :: rest => by
    rw [buildAll, allNodes, List.mapM_append]
    exact (failsAlike_build d).bind fun _ _ => (failsAlike_buildAll rest).bind fun _ _ => .ok _ _

end

end Descriptor

/-! ## Test cases -/

/-- All descriptors in the description of a test case, in the order of the document. -/
def TestDescriptor.nodes (t : TestDescriptor) : List Descriptor :=
  t.templates.flatMap (fun template => Descriptor.allNodes template.actions) ++
    Descriptor.allNodes t.actions

open Descriptor

theorem failsAlike_buildTemplates (endpoints : Endpoints) (limit : Nat)
    (ts : List TemplateDescriptor) :
    FailsAlike (ts.mapM (TemplateDescriptor.build endpoints limit))
      ((ts.flatMap fun t => allNodes t.actions).mapM (check endpoints limit)) := by
  induction ts with
  | nil => exact .ok _ _
  | cons t rest ih =>
    rw [List.mapM_cons, List.flatMap_cons, List.mapM_append]
    exact ((failsAlike_buildAll endpoints limit t.actions).map _).bind fun _ _ =>
      ih.bind fun _ _ => .ok _ _

namespace Suite

/-- Registering templates fails as building them does, and changes nothing but which templates
there are. -/
theorem exists_registerAll_eq (s : Suite) (ts : List TemplateDescriptor) :
    ∃ templates, s.registerAll ts =
      ((ts.mapM (TemplateDescriptor.build s.endpoints s.settings.maxIterations)).map fun _ => (),
        { s with templates := templates }) := by
  induction ts generalizing s with
  | nil => exact ⟨s.templates, rfl⟩
  | cons t rest ih =>
    rw [registerAll, List.mapM_cons]
    cases t.build s.endpoints s.settings.maxIterations with
    | error f => exact ⟨s.templates, rfl⟩
    | ok built =>
      obtain ⟨templates, heq⟩ := ih { s with templates := s.templates.register built }
      refine ⟨templates, heq.trans (Prod.ext ?_ rfl)⟩
      cases rest.mapM (TemplateDescriptor.build s.endpoints s.settings.maxIterations) <;> rfl

/-- What comes of a test case depends on the endpoints and the settings only: first its templates
are built, and then its actions. -/
theorem fst_build (s : Suite) (t : TestDescriptor) :
    (s.build t).1 = do
      let _ ← t.templates.mapM (TemplateDescriptor.build s.endpoints s.settings.maxIterations)
      let actions ← buildAll s.endpoints s.settings.maxIterations t.actions
      return { name := t.name, initial := t.initial, actions := actions } := by
  obtain ⟨templates, heq⟩ := s.exists_registerAll_eq t.templates
  rw [build, heq]
  cases t.templates.mapM (TemplateDescriptor.build s.endpoints s.settings.maxIterations) with
  | error f => rfl
  | ok built =>
    simp only [Except.map]
    cases buildAll s.endpoints s.settings.maxIterations t.actions <;> rfl

theorem failsAlike_build (s : Suite) (t : TestDescriptor) :
    FailsAlike (s.build t).1 (t.nodes.mapM (check s.endpoints s.settings.maxIterations)) := by
  rw [fst_build, TestDescriptor.nodes, List.mapM_append]
  exact (failsAlike_buildTemplates _ _ t.templates).bind fun _ _ =>
    (failsAlike_buildAll _ _ t.actions).bind fun _ _ => .ok _ _

/-- **Building succeeds just on what is sound.**  An action is built just if each descriptor in it
is sound on its own: sending and receiving name endpoints that are known, and loops have either a
number of passes or a condition.  Else the failure is the flaw of the first descriptor that is not
sound, in the order of the document and each before those inside it.  The same holds of a test case,
where the templates come first, in their order, and then the actions.  Templates that are known play
no part in it, so what a call names is not looked at. -/
theorem build_sound_iff (endpoints : Endpoints) (limit : Nat) (d : Descriptor) (s : Suite)
    (t : TestDescriptor) :
    (((∃ action, d.build endpoints limit = .ok action) ↔ ∀ node ∈ d.nodes, node.Sound endpoints) ∧
      ∀ f, d.build endpoints limit = .error f ↔ FirstFlaw endpoints d.nodes f) ∧
    ((∃ test, (s.build t).1 = .ok test) ↔ ∀ node ∈ t.nodes, node.Sound s.endpoints) ∧
    (∀ f, (s.build t).1 = .error f ↔ FirstFlaw s.endpoints t.nodes f) ∧
    ∀ templates, (Suite.build { s with templates := templates } t).1 = (s.build t).1 := by
  have haction := Descriptor.failsAlike_build endpoints limit d
  have htest := failsAlike_build s t
  obtain ⟨hsound, hflaw⟩ := firstFlaw_of_failsAlike _ _ htest
  refine ⟨firstFlaw_of_failsAlike _ _ haction, hsound, hflaw, fun templates => ?_⟩
  rw [fst_build, fst_build]

/-- A call of a template that is not there is built.  Of the three flaws in a test case, that of the
loop decides: it is in a template, and the loop comes before what is in it. -/
theorem build_sound_iff_three_flaws :
    let call : Descriptor := .callTemplate { template := "absent" }
    let loop : Descriptor := .iterate [.send { endpoint := "nowhere" }] {}
    let t : TestDescriptor := {
      name := "t"
      templates := [{
        name := "shared", actions := [.assertFailure (.sequential [call, loop] .shared) none] }]
      actions := [.receive { endpoint := "elsewhere" }] }
    (∃ action, call.build [] 10 = .ok action) ∧
      (Suite.build {} t).1 =
        .error (.configuration "iterate needs exactly one of 'count' or 'condition'") := by
  intro call loop t
  have hcall : (callTemplate { template := "absent" }).Sound [] := nofun
  obtain ⟨⟨hbuilt, -⟩, -, hflaw, -⟩ := build_sound_iff [] 10 call {} t
  refine ⟨hbuilt.2 (List.forall_mem_singleton.2 hcall), (hflaw _).2 ?_⟩
  refine ⟨[.assertFailure (.sequential [call, loop] .shared) none, .sequential [call, loop] .shared,
    call], loop, [.send { endpoint := "nowhere" }, .receive { endpoint := "elsewhere" }], rfl, ?_,
    .iterate rfl⟩
  simp only [List.forall_mem_cons]
  exact ⟨nofun, nofun, hcall, List.forall_mem_nil _⟩

end Suite

end Scenario
