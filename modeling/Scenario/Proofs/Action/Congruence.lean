import Scenario.Proofs.Action.Acyclic
import Scenario.Proofs.Session.Unreported

/-!
# What actions make of calls

Actions are given what a call does.  They do not look into it: they put it together with other
things to do, one after the other, side by side and over again.  So whatever relation there is
between what calls do is there between what actions do, as long as it is one that is kept by putting
things together.  Equality is such a relation, and so is doing the same up to a mark.

That goes for the bound on the depth of calls, too.  Where a call nests too deeply it is refused,
and this is but one of the things that could be done there.  If it makes no difference what is done
there then there is no such call, so this is what it means that a depth suffices.

## What is here

* `Course.IsCongruence` — what is asked of a relation between courses.
* `Action.related_execute` — what an action does is related if calls are, by induction on the
  action.
* `Templates.callOr` — a call, where it is left open what is done at too great a depth, and
  `Templates.call_eq_callOr` — it is refused.
* `Templates.Suffices` — no call of a run nests too deeply, and `Templates.suffices_of_acyclic` — so
  it is if templates do not call themselves.
-/

set_option autoImplicit false

namespace Scenario

/-! ## Actions that differ in calls -/

/-- Whether a relation between courses is kept by all that courses are put together with. -/
structure Course.IsCongruence (R : Course Outcome → Course Outcome → Prop) : Prop where
  refl : ∀ p, R p p
  /-- What follows matters for the values that a script can end with. -/
  after : ∀ {α : Type} {x : Script α} {f f' : α → Course Outcome},
    (∀ taken a, x.Does taken a → R (f a) (f' a)) → R (.after x f) (.after x f')
  andThen : ∀ {p p' : Course Outcome} {f f' : Outcome → Course Outcome}, R p p' →
    (∀ r, R (f r) (f' r)) → R (p.andThen f) (p'.andThen f')
  forks : ∀ {ps ps' : List (Course Outcome)} {join : List Outcome → Course Outcome},
    List.Forall₂ R ps ps' → R (.fork ps join) (.fork ps' join)

theorem Course.after_congr {α ρ : Type} {x : Script α} {f f' : α → Course ρ}
    (hf : ∀ taken a, x.Does taken a → f a = f' a) : after x f = after x f' := by
  induction x with
  | done a => exact hf [] a (.done a)
  | take step next ih =>
    exact congrArg (take step) (funext fun y => ih y fun _ a ha => hf _ a (.take y ha))
  | pause ms next ih =>
    exact congrArg (pause ms) (funext fun _ => ih () fun _ a ha => hf _ a (.pause ha))

theorem Course.isCongruence_eq : Course.IsCongruence Eq where
  refl _ := rfl
  after := Course.after_congr
  andThen hp hf := congrArg₂ _ hp (funext hf)
  forks hps := congrArg (Course.fork · _) (List.forall₂_eq_eq_eq ▸ hps)

theorem Course.isCongruence_upToMark : Course.IsCongruence Course.UpToMark where
  refl := .refl
  after := .after
  andThen := .andThen
  forks hps := .forks hps fun _ => .refl _

section Congruence

variable {R : Course Outcome → Course Outcome → Prop} {call call' : Caller} {names : List String}

namespace Course.IsCongruence

theorem onSuccess (hR : IsCongruence R) {p p' : Course Outcome}
    {next next' : Unit → Course Outcome} (hp : R p p') (hnext : R (next ()) (next' ())) :
    R (p.onSuccess next) (p'.onSuccess next') := by
  refine hR.andThen hp fun outcome => ?_
  cases outcome with
  | ok _ => exact hnext
  | error f => exact hR.refl _

theorem bracketed (hR : IsCongruence R) {p p' : Course Outcome} (hp : R p p') (ctx : Context)
    (name : String) : R (Scenario.bracketed ctx name p) (Scenario.bracketed ctx name p') :=
  hR.after fun _ _ _ => hR.andThen hp fun _ => hR.refl _

theorem repeated (hR : IsCongruence R) {p p' : Course Outcome} (hp : R p p') (l : Loop)
    (ctx : Context) : R (l.repeated ctx p) (l.repeated ctx p') := by
  have hcount : ∀ n index, R (l.repeatCount ctx p n index) (l.repeatCount ctx p' n index) := by
    intro n
    induction n with
    | zero => exact fun _ => hR.refl _
    | succ n ih => exact fun index => hR.after fun _ _ _ => hR.onSuccess hp (ih _)
  have hholds : ∀ (text : String) (index : Int64) (next next' : Unit → Course Outcome),
      R (next ()) (next' ()) →
        R (l.whenHolds ctx text index next) (l.whenHolds ctx text index next') := by
    intro text index next next' hnext
    refine hR.after fun _ verdict _ => ?_
    match verdict with
    | .error f => exact hR.refl _
    | .ok false => exact hR.refl _
    | .ok true => exact hnext
  have hwhile : ∀ text left index,
      R (l.repeatWhile ctx text p left index) (l.repeatWhile ctx text p' left index) := by
    intro text left
    induction left with
    | zero => exact fun _ => hR.refl _
    | succ left ih => exact fun index => hholds _ _ _ _ (hR.onSuccess hp (ih _))
  rw [Loop.repeated, Loop.repeated]
  cases l.bound with
  | count passes => exact hcount _ _
  | condition text => exact hwhile _ _ _

end Course.IsCongruence

/-- Whether calls of some templates are related. -/
def Caller.Related (R : Course Outcome → Course Outcome → Prop) (call call' : Caller)
    (names : List String) : Prop :=
  ∀ name ∈ names, ∀ arguments sharing ctx,
    R (call name arguments sharing ctx) (call' name arguments sharing ctx)

theorem Caller.Related.left {others : List String}
    (h : Caller.Related R call call' (names ++ others)) : Caller.Related R call call' names :=
  fun name hname => h name (List.mem_append_left _ hname)

theorem Caller.Related.right {others : List String}
    (h : Caller.Related R call call' (names ++ others)) : Caller.Related R call call' others :=
  fun name hname => h name (List.mem_append_right _ hname)

mutual

/-- **What an action does depends on what calls do** and on nothing else that it is given. -/
theorem Action.related_execute (hR : Course.IsCongruence R) :
    (a : Action) → Caller.Related R call call' a.callees → (ctx : Context) →
    R (a.execute call ctx) (a.execute call' ctx)
  | .createVariables _, _, _ => hR.refl _
  | .echo _, _, _ => hR.refl _
  | .sleep _, _, _ => hR.refl _
  | .fail _, _, _ => hR.refl _
  | .assertFailure a _, h, ctx =>
    hR.andThen (hR.bracketed (a.related_execute hR h ctx) ctx a.name) fun _ => hR.refl _
  | .send _ _, _, _ => hR.refl _
  | .receive _ _, _, _ => hR.refl _
  | .callTemplate name arguments sharing, h, ctx => h name List.mem_cons_self arguments sharing ctx
  | .sequence _ _ body, h, _ => hR.after fun _ inner _ => related_executeAll hR body h inner
  | .parallel _ _ body, h, _ =>
    hR.after fun _ contexts _ => hR.forks (related_executeEach hR body h contexts)
  | .iterate l body, h, _ =>
    hR.after fun _ inner _ => hR.repeated (related_executeAll hR body h inner) l inner
  | .record .., _, _ => hR.refl _

theorem related_executeAll (hR : Course.IsCongruence R) :
    (body : List Action) → Caller.Related R call call' (calleesAll body) → (ctx : Context) →
    R (executeAll call ctx body) (executeAll call' ctx body)
  | [], _, _ => hR.refl _
  | a :: rest, h, ctx =>
    hR.onSuccess (hR.bracketed (a.related_execute hR h.left ctx) ctx a.name)
      (related_executeAll hR rest h.right ctx)

theorem related_executeEach (hR : Course.IsCongruence R) :
    (body : List Action) → Caller.Related R call call' (calleesAll body) →
    (contexts : List Context) →
    List.Forall₂ R (executeEach call contexts body) (executeEach call' contexts body)
  | [], _, [] => .nil
  | [], _, _ :: _ => .nil
  | _ :: _, _, [] => .nil
  | a :: rest, h, ctx :: contexts =>
    .cons (hR.bracketed (a.related_execute hR h.left ctx) ctx a.name)
      (related_executeEach hR rest h.right contexts)

end

end Congruence

/-! ## The depth of calls -/

namespace Templates

/-- Runs a template.  What a call does that nests deeper than so many others is left open. -/
def callOr (templates : Templates) (deeper : Caller) : (depth : Nat) → Caller
  | 0, name, arguments, sharing, ctx => deeper name arguments sharing ctx
  | depth + 1, name, arguments, sharing, ctx =>
    .after (ExceptT.run (templates.enter name arguments sharing ctx)) fun entered =>
      match entered with
      | .error f => .done (.error f)
      | .ok (template, inner) =>
        (executeAll (templates.callOr deeper depth) inner template.body).andThen fun outcome =>
          .done (wrap name outcome)

variable {templates : Templates}

/-- **Calls are refused that nest too deeply**, and this is all that a bound on the depth does. -/
theorem call_eq_callOr (depth : Nat) : templates.call depth = templates.callOr
    (fun _ _ _ _ => .done (.error (.internal "template calls nest too deeply"))) depth := by
  induction depth with
  | zero => rfl
  | succ depth ih =>
    funext name arguments sharing ctx
    rw [call, ih]
    rfl

/-- What a call comes to is the body of the template of the name. -/
theorem find_of_enter {name : String} {arguments : Fields Json} {sharing : Option Sharing}
    {ctx inner : Context} {taken : List Taken} {t : Template}
    (h : (templates.enter name arguments sharing ctx).run.Does taken (.ok (t, inner))) :
    templates.find name = .ok t := by
  obtain ⟨_, found, _, hfind, h⟩ := Activity.does_bind_ok h
  obtain ⟨_, _, _, -, h⟩ := Activity.does_bind_ok h
  obtain ⟨_, _, _, -, h⟩ := Activity.does_bind_ok h
  obtain ⟨_, _, _, -, h⟩ := Activity.does_bind_ok h
  obtain ⟨_, _, _, -, h⟩ := Activity.does_bind_ok h
  cases h
  exact (Activity.does_ofExcept hfind).2.symm

/-- Calls are related if the calls in the bodies are. -/
theorem related_callOr {R : Course Outcome → Course Outcome → Prop} (hR : Course.IsCongruence R)
    {deeper deeper' : Caller} {depth depth' : Nat} {name : String}
    (h : ∀ t, templates.find name = .ok t → Caller.Related R (templates.callOr deeper depth)
      (templates.callOr deeper' depth') (calleesAll t.body)) (arguments : Fields Json)
    (sharing : Option Sharing) (ctx : Context) :
    R (templates.callOr deeper (depth + 1) name arguments sharing ctx)
      (templates.callOr deeper' (depth' + 1) name arguments sharing ctx) := by
  refine hR.after fun taken entered hentered => ?_
  match entered with
  | .error f => exact hR.refl _
  | .ok (t, inner) =>
    exact hR.andThen (related_executeAll hR t.body (h t (find_of_enter hentered)) inner)
      fun _ => hR.refl _

/-- Whether calls in a run nest no deeper than so many: what a call would do that does makes no
difference. -/
def Suffices (templates : Templates) (depth : Nat) (ctx : Context) (actions : List Action)
    (s : Session) : Prop :=
  ∀ deeper : Caller, s.run (executeAll (templates.callOr deeper depth) ctx actions) =
    s.run (executeAll (templates.call depth) ctx actions)

/-- **The depth that there is suffices for templates that do not call themselves.** -/
theorem suffices_of_acyclic (h : templates.Acyclic) (ctx : Context) (actions : List Action)
    (s : Session) : templates.Suffices templates.depth ctx actions s := by
  intro deeper
  rw [call_eq_callOr]
  refine congrArg s.run (related_executeAll Course.isCongruence_eq actions ?_ ctx)
  intro name _
  exact h.induction (P := fun depth name => ∀ arguments sharing ctx,
    templates.callOr deeper depth name arguments sharing ctx =
      templates.callOr _ depth name arguments sharing ctx)
    (fun _ _ ih => related_callOr Course.isCongruence_eq ih) templates.length_lt_depth name

end Templates

end Scenario
