import Mathlib.Data.List.Perm.Subperm
import Scenario.Proofs.Action.Halting
import Scenario.Proofs.Json.Fields

/-!
# Templates that do not call themselves

A call goes on with the body of a template, which is no part of the call, and the body may call
again.  What makes an end of this is that templates do not call themselves, not even by way of
others.  Then the templates that are entered on the way to a call are all different, and there are
not more of them than templates that were registered.

## What is here

* `Templates.Calls` — the graph of calls, and `Templates.Acyclic` — it has no cycles.  Calls that
  lead to lower numbers only have none (`Templates.Acyclic.of_rank`).
* `Templates.Acyclic.induction` — what is so of calls by the calls in the bodies is so of all calls,
  if there is more depth than there are templates.  However little is left, it is enough for the
  templates that have not been entered.
* `Templates.realizes_call` — a call is the course that it executes as.  With no depth left the
  course would fail, and this is never come to (`Templates.realizes_invoke`).
* `Templates.not_halts_call_self` — a template that calls itself does not come to an end.
-/

set_option autoImplicit false

namespace Scenario.Templates

/-- Whether a call of a template is somewhere in the body of another one. -/
def Calls (templates : Templates) (caller callee : String) : Prop :=
  ∃ t, templates.find caller = .ok t ∧ callee ∈ calleesAll t.body

/-- Whether no template calls itself, not even by way of others. -/
def Acyclic (templates : Templates) : Prop :=
  ∀ name, ¬ Relation.TransGen templates.Calls name name

variable {templates : Templates}

theorem mem_of_find {name : String} {t : Template} (h : templates.find name = .ok t) :
    (name, t) ∈ templates := by
  rw [find] at h
  split at h
  · next t' hget =>
    cases h
    exact Fields.mem_of_get? hget
  · cases h

theorem mem_names_of_find {name : String} {t : Template} (h : templates.find name = .ok t) :
    name ∈ Fields.names templates :=
  List.mem_map_of_mem (mem_of_find h)

/-- Where templates have numbers and calls lead to lower ones, no template calls itself. -/
theorem Acyclic.of_rank (rank : String → Nat)
    (h : ∀ p ∈ templates, ∀ b ∈ calleesAll p.2.body, rank b < rank p.1) : templates.Acyclic := by
  have hcalls : ∀ {a b}, templates.Calls a b → rank b < rank a := by
    rintro a b ⟨t, ht, hb⟩
    exact h (a, t) (mem_of_find ht) b hb
  have hlt : ∀ {a b}, Relation.TransGen templates.Calls a b → rank b < rank a := by
    intro a b hb
    induction hb with
    | single hb => exact hcalls hb
    | tail _ hc ih => exact (hcalls hc).trans ih
  exact fun name hname => Nat.lt_irrefl _ (hlt hname)

/-- What is so of a call if it is so of the calls in the body, with less depth, is so of all calls
if the depth is more than there are templates.  The induction is on the depth.  It is more than
there are templates that are not on the path to the call, where nothing is twice. -/
theorem Acyclic.induction (h : templates.Acyclic) {P : Nat → String → Prop}
    (hstep : ∀ depth name,
      (∀ t, templates.find name = .ok t → ∀ b ∈ calleesAll t.body, P depth b) → P (depth + 1) name)
    {depth : Nat} (hdepth : templates.length < depth) (name : String) : P depth name := by
  have hpaths : ∀ (depth : Nat) (path : List String) (name : String), path.Nodup →
      (∀ a ∈ path, a ∈ Fields.names templates ∧ Relation.TransGen templates.Calls a name) →
      templates.length < depth + path.length → P depth name := by
    intro depth
    induction depth with
    | zero =>
      intro path name hnodup hpath hdepth
      have hsub : path.Subperm (Fields.names templates) :=
        hnodup.subperm fun a ha => (hpath a ha).1
      have hle : path.length ≤ (Fields.names templates).length := hsub.length_le
      rw [Fields.names, List.length_map] at hle
      omega
    | succ depth ih =>
      intro path name hnodup hpath hdepth
      refine hstep depth name fun t ht b hb => ?_
      have hnew : name ∉ path := fun hmem => h name (hpath name hmem).2
      have hcall : templates.Calls name b := ⟨t, ht, hb⟩
      refine ih (name :: path) b (List.nodup_cons.2 ⟨hnew, hnodup⟩) ?_ ?_
      · exact List.forall_mem_cons.2 ⟨⟨mem_names_of_find ht, .single hcall⟩,
          fun a ha => ⟨(hpath a ha).1, (hpath a ha).2.tail hcall⟩⟩
      · rw [List.length_cons]
        omega
  exact hpaths depth [] name .nil (List.forall_mem_nil _) hdepth

theorem length_lt_depth (templates : Templates) : templates.length < templates.depth :=
  Nat.lt_add_of_pos_right (by decide)

/-- **A call is a course**, with depth enough. -/
theorem realizes_call (h : templates.Acyclic) {depth : Nat} (hdepth : templates.length < depth)
    (name : String) (arguments : Fields Json) (sharing : Option Sharing) (ctx : Context) :
    Work.Realizes templates (.call name arguments sharing ctx)
      (templates.call depth name arguments sharing ctx) := by
  refine h.induction (P := fun depth name => ∀ arguments sharing ctx,
    Work.Realizes templates (.call name arguments sharing ctx)
      (templates.call depth name arguments sharing ctx)) ?_ hdepth name arguments sharing ctx
  intro depth name ih arguments sharing ctx time next next' hnext
  rw [call, Course.after_andThen]
  refine .unfold rfl (Work.unfolds_after_of templates.silent_enter
    fun _ entered time₁ h₁ hentered => ?_)
  rcases entered with f | ⟨t, inner⟩
  · exact hnext _ _ h₁
  · obtain ⟨ht, -⟩ := hentered.2.2 t inner rfl
    have hcalls : Work.RealizesCalls templates (templates.call depth) (calleesAll t.body) := ih t ht
    rw [Course.andThen_assoc]
    exact Work.realizes_actions t.body hcalls inner fun outcome time₂ h₂ =>
      hnext _ _ (h₁.trans h₂)

/-- **Calls come to an end**, with the depth that there is. -/
theorem realizes_invoke (h : templates.Acyclic) (names : List String) :
    Work.RealizesCalls templates templates.invoke names :=
  fun name _ => realizes_call h templates.length_lt_depth name

/-! ## Templates that call themselves -/

section Cyclic

variable {name : String} {sharing : Option Sharing} {ctx : Context} {time : Nat} {α : Type}

/-- What comes before. -/
abbrev Leads (templates : Templates) (a b : Work × Nat) : Prop :=
  Relation.TransGen (Work.Follows templates) b a

/-- A script comes to its value. -/
theorem leads_after {run test : Option String} {Q : List Occurrence → α → Prop} {x : Script α}
    (hx : x.Tells run test Q) (f : α → Work) {a : Work × Nat}
    (ha : templates.Leads a (.after x f, time)) :
    ∃ log value time', Q log value ∧ templates.Leads a (f value, time') := by
  induction x generalizing time Q with
  | done value => exact ⟨[], value, time, hx, ha⟩
  | take step next ih =>
    let s : Session := { clock := time }
    have hstep : Work.Follows templates
        (.after (next (s.take step).1) f, (s.take step).2.clock)
        (.after (.take step next) f, time) :=
      ⟨s, (s.take step).2, Nat.le_refl _, .take, rfl⟩
    obtain ⟨_, value, time', hq, hlead⟩ := ih (s.take step).1 (hx.2 _) (ha.head hstep)
    exact ⟨_, value, time', hq, hlead⟩
  | pause ms next ih =>
    let due := time + min ms Session.longestPause
    have hpause : Work.Follows templates (.waiting due fun u => .after (next u) f, time)
        (.after (.pause ms next) f, time) :=
      ⟨{ clock := time }, { clock := time }, Nat.le_refl _, .pause, rfl⟩
    have hwake : Work.Follows templates (.after (next ()) f, due)
        (.waiting due fun u => .after (next u) f, time) :=
      ⟨{ clock := due }, { clock := due }, Nat.le_add_right .., .wake (Nat.le_refl _), rfl⟩
    exact ih () hx ((ha.head hpause).head hwake)

theorem leads_unfold {a : Work × Nat} {w w' : Work} (ha : templates.Leads a (w, time))
    (hw : w.unfold templates = some w') : templates.Leads a (w', time) :=
  ha.head ⟨{ clock := time }, { clock := time }, Nat.le_refl _, .unfold hw, rfl⟩

/-- A call without arguments of a template without parameters comes to the body. -/
theorem silent_enter_bare {t : Template} (ht : templates.find name = .ok t)
    (hparameters : t.parameters = []) :
    (templates.enter name [] sharing ctx).run.Silent ctx fun entered =>
      ∃ inner, entered = .ok (t, inner) := by
  refine Activity.silent_bind (P := fun r => r = .ok t) ⟨rfl, ht⟩ nofun ?_
  rintro _ ⟨⟩
  refine Activity.silent_bind (P := fun r => ∃ store, r = .ok store)
    ⟨trivial, fun store => ⟨rfl, store, rfl⟩⟩ nofun fun store _ => ?_
  have hbind : t.bind ctx.library store [] = .ok [] := by
    rw [Template.bind, hparameters]
    rfl
  refine Activity.silent_bind (P := fun r => r = .ok []) ⟨rfl, hbind⟩ nofun ?_
  rintro _ ⟨⟩
  refine Activity.silent_bind (Activity.silent_lift (ctx.silent_derive _)) (fun f hf => nomatch hf)
    fun inner _ => ?_
  exact ⟨rfl, inner, rfl⟩

/-- **A template that calls itself first of all does not come to an end.**  Nothing stops it but the
depth that courses have, so it is not for nothing that templates are asked not to call
themselves. -/
theorem not_halts_call_self {t : Template} {rest : List Action}
    (ht : templates.find name = .ok t) (hparameters : t.parameters = [])
    (hbody : t.body = .callTemplate name [] sharing :: rest) (next : Outcome → Work) :
    ¬ (Work.call name [] sharing ctx next).Halts templates time := by
  -- a call comes to the call in the body
  have hround : ∀ ctx next time, ∃ ctx' next' time', templates.Leads
      (.call name [] sharing ctx next, time) (.call name [] sharing ctx' next', time') := by
    intro ctx next time
    have hstart : templates.Leads (.call name [] sharing ctx next, time)
        (Work.enter templates name [] sharing ctx next, time) :=
      .single ⟨{ clock := time }, { clock := time }, Nat.le_refl _, .unfold rfl, rfl⟩
    obtain ⟨_, _, time₁, ⟨-, inner, rfl⟩, hentered⟩ :=
      leads_after (silent_enter_bare ht hparameters) _ hstart
    have hbegun : templates.Leads (.call name [] sharing ctx next, time)
        (.actions inner t.body fun outcome => next (wrap name outcome), time₁) := hentered
    rw [hbody] at hbegun
    have hreports : (do
        inner.report (.actionStarted (Action.callTemplate name [] sharing).name)
        Script.step .now : Script Nat).Tells (some inner.run) inner.test fun _ _ => True :=
      ⟨⟨rfl, rfl⟩, fun _ => ⟨trivial, fun _ => trivial⟩⟩
    obtain ⟨_, _, time₂, -, hfirst⟩ := leads_after hreports _ (leads_unfold hbegun rfl)
    exact ⟨inner, _, time₂, leads_unfold hfirst rfl⟩
  have hnone : ∀ a, Acc (Relation.TransGen (Work.Follows templates)) a →
      ∀ ctx next, a.1 = .call name [] sharing ctx next → False := by
    intro a ha
    induction ha with
    | intro a _ ih =>
      rintro ctx next heq
      obtain ⟨ctx', next', time', hlead⟩ := hround ctx next a.2
      rw [← heq] at hlead
      exact ih _ hlead ctx' next' rfl
  exact fun h => hnone _ h.transGen ctx next rfl

end Cyclic

end Scenario.Templates
