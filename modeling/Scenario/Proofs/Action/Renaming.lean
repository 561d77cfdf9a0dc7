import Scenario.Proofs.Action.Log
import Scenario.Proofs.Session.Alike

/-!
# Actions in scopes of other numbers

What an action does depends on the variables of its scope but not on the number of the scope, and
so it is with all scopes that it opens for what it holds.  This file follows a pairing of scopes
through all kinds of actions, as the file on isolation follows a set of scopes.

Sending and receiving are left out: messages have identifiers, and replies are looked up in tables
that all have in common.

## What is here

* `Action.exchanges` — whether an action sends or receives.
* `Context.Alike` — two contexts differ in their scopes alone, and these are paired.
* `Caller.Alike` — what is asked of calls of templates, so that the induction on actions goes
  through; `Templates.alike_call` gives it by induction on the depth of the calls.
* `alike_execute` — what an action does in contexts that are alike is alike.
-/

set_option autoImplicit false

namespace Scenario

/-- Whether an action sends or receives. -/
def Action.exchanges : Action → Bool
  | send _ _ => true
  | receive _ _ => true
  | _ => false

/-- Whether two contexts differ in their scopes alone, which stand for each other. -/
structure Context.Alike (R : Pairing) (ctx ctx' : Context) : Prop where
  scope : R ctx.scope ctx'.scope
  library : ctx.library = ctx'.library
  run : ctx.run = ctx'.run
  test : ctx.test = ctx'.test

theorem Context.Alike.mono {R R' : Pairing} {ctx ctx' : Context} (h : ctx.Alike R ctx')
    (hR : R ≤ R') : ctx.Alike R' ctx' :=
  { h with scope := hR _ _ h.scope }

/-! ## Simple actions -/

namespace Context.Alike

variable {R : Pairing} {ctx ctx' : Context} (h : ctx.Alike R ctx')
include h

theorem store : Activity.Alike R ctx.store ctx'.store :=
  Activity.alike_lift (.step (.read h.scope))

theorem write (name : String) (value : Json) :
    (Script.step (.write ctx.scope name value)).Alike (fun _ u u' => u = u') R
      (Script.step (.write ctx'.scope name value)) :=
  .take (.write h.scope) fun _ _ _ _ _ => .done rfl

theorem report (what : Occurrence) :
    (ctx.report what).Alike (fun _ u u' => u = u') R (ctx'.report what) := by
  rw [Context.report, Context.report, ← h.run, ← h.test]
  exact Script.alike_of_isPlain (.report (some ctx.run) ctx.test what) rfl

theorem set (name : String) (value : Json) :
    Activity.Alike R (ctx.set name value) (ctx'.set name value) :=
  Activity.alike_lift (h.write name value)

theorem setAll (fields : Fields Json) :
    Activity.Alike R (ctx.setAll fields) (ctx'.setAll fields) := by
  induction fields generalizing R with
  | nil => exact .done rfl
  | cons field rest ih =>
    exact Activity.alike_bind (h.set field.1 field.2) fun R' _ hR => ih (h.mono hR)

theorem resolve (text : String) : Activity.Alike R (ctx.resolve text) (ctx'.resolve text) := by
  refine Activity.alike_bind h.store fun R' store _ => ?_
  rw [h.library]
  exact Activity.alike_ofExcept _

theorem resolveText (value : Json) :
    Activity.Alike R (ctx.resolveText value) (ctx'.resolveText value) := by
  cases value with
  | string text => exact Activity.alike_bind (h.resolve text) fun _ _ _ => .done rfl
  | _ => exact .done rfl

theorem validate (path expected actual : String) :
    Activity.Alike R (ctx.validate path expected actual) (ctx'.validate path expected actual) := by
  refine Activity.alike_bind h.store fun R' store _ => ?_
  rw [h.library]
  exact Activity.alike_ofExcept _

theorem assign (assignments : Fields Json) :
    Activity.Alike R (ctx.assign assignments) (ctx'.assign assignments) := by
  induction assignments generalizing R with
  | nil => exact .done rfl
  | cons assignment rest ih =>
    refine Activity.alike_bind (h.resolveText assignment.2) fun R₁ value hR₁ => ?_
    have h₁ := h.mono hR₁
    exact Activity.alike_bind (h₁.set assignment.1 value) fun R₂ _ hR₂ => ih (h₁.mono hR₂)

theorem echo (message : String) : Activity.Alike R (ctx.echo message) (ctx'.echo message) :=
  Activity.alike_bind (h.resolve message) fun _ _ hR =>
    Activity.alike_lift ((h.mono hR).report _)

theorem sleep (milliseconds : String) :
    Activity.Alike R (ctx.sleep milliseconds) (ctx'.sleep milliseconds) := by
  refine Activity.alike_bind (h.resolve milliseconds) fun R' resolved _ => ?_
  split
  · exact Activity.alike_sleep _
  · exact .done rfl

theorem fail (message : String) : Activity.Alike R (ctx.fail message) (ctx'.fail message) :=
  Activity.alike_bind (h.resolve message) fun _ _ _ => .done rfl

theorem judgeFailure (action : String) (expected : Option String) (outcome : Outcome) :
    Activity.Alike R (ctx.judgeFailure action expected outcome)
      (ctx'.judgeFailure action expected outcome) := by
  cases outcome with
  | ok _ => exact .done rfl
  | error f =>
    cases expected with
    | none => exact .done rfl
    | some expected => exact h.validate "error" expected f.message

theorem record (recording : Nat) (capture : Option String) (delay : Option Nat) :
    Activity.Alike R (ctx.record recording capture delay)
      (ctx'.record recording capture delay) := by
  have hnote : ∀ R', R ≤ R' → Activity.Alike R' (ctx.record recording capture none)
      (ctx'.record recording capture none) := by
    intro R' hR
    cases capture with
    | none => exact Activity.alike_lift (Script.alike_of_isPlain (.record recording none) rfl)
    | some name =>
      refine Activity.alike_bind (h.mono hR).store fun _ store _ => ?_
      refine Activity.alike_bind (Activity.alike_ofExcept _) fun _ value _ => ?_
      exact Activity.alike_lift
        (Script.alike_of_isPlain (.record recording (some value.asText)) rfl)
  cases delay with
  | none => exact hnote R le_rfl
  | some ms => exact Activity.alike_bind (Activity.alike_sleep ms) fun R' _ hR => hnote R' hR

/-! ## Derived contexts -/

/-- **Contexts that are derived from contexts that are alike are so too**: the scope is that of the
parent, or it is a copy. -/
theorem derive (sharing : Sharing) :
    (ctx.derive sharing).Alike Context.Alike R (ctx'.derive sharing) := by
  cases sharing with
  | shared => exact .done { h with }
  | isolated => exact .take (.copy h.scope) fun _ _ _ _ hscope => .done { h with scope := hscope }

theorem deriveMany (sharing : Sharing) (n : Nat) :
    (ctx.deriveMany sharing n).Alike (fun R' => List.Forall₂ (Context.Alike R')) R
      (ctx'.deriveMany sharing n) := by
  induction n generalizing R with
  | zero => exact .done .nil
  | succ n ih =>
    refine (h.derive sharing).bind fun R₁ first first' hR₁ hfirst => ?_
    refine (ih (h.mono hR₁)).bind fun R₂ others others' hR₂ hothers => ?_
    exact .done (.cons (hfirst.mono hR₂) hothers)

end Context.Alike

/-! ## Loops and reports -/

section Containers

variable {R : Pairing} {ctx ctx' : Context} {body body' : Course Outcome}

theorem alike_bracketed (h : ctx.Alike R ctx') (name : String) (hbody : body.Alike R body') :
    (bracketed ctx name body).Alike R (bracketed ctx' name body') := by
  have hnow : ∀ R', (Script.step .now).Alike (fun _ y y' => y = y') R' (Script.step .now) :=
    fun R' => Script.alike_of_isPlain .now rfl
  have hbegin : (do ctx.report (.actionStarted name); Script.step .now : Script Nat).Alike
      (fun _ y y' => y = y') R (do ctx'.report (.actionStarted name); Script.step .now) :=
    (h.report _).bind fun R' _ _ _ _ => hnow R'
  refine .after hbegin fun R₁ before _ hR₁ hbefore => ?_
  subst hbefore
  refine (hbody.mono hR₁).andThen fun R₂ outcome hR₂ => .ofScript ?_
  refine (hnow R₂).bind fun R₃ now _ hR₃ hsame => ?_
  subst hsame
  have h₃ := h.mono ((hR₁.trans hR₂).trans hR₃)
  cases outcome with
  | ok _ => exact (h₃.report _).bind fun _ _ _ _ _ => .done rfl
  | error f => exact (h₃.report _).bind fun _ _ _ _ _ => .done rfl

theorem Course.Alike.onSuccess {next next' : Unit → Course Outcome} (hbody : body.Alike R body')
    (hnext : ∀ R', R ≤ R' → (next ()).Alike R' (next' ())) :
    (body.onSuccess next).Alike R (body'.onSuccess next') := by
  refine hbody.andThen fun R' outcome hR => ?_
  cases outcome with
  | ok _ => exact hnext R' hR
  | error f => exact .done _

namespace Loop

variable (l : Loop)

theorem alike_setIndex (h : ctx.Alike R ctx') (index : Int64) :
    (l.setIndex ctx index).Alike (fun _ u u' => u = u') R (l.setIndex ctx' index) :=
  h.write _ _

theorem alike_repeatCount (h : ctx.Alike R ctx') (hbody : body.Alike R body') (n : Nat)
    (index : Int64) :
    (l.repeatCount ctx body n index).Alike R (l.repeatCount ctx' body' n index) := by
  induction n generalizing R index with
  | zero => exact .after (l.alike_setIndex h index) fun _ _ _ _ _ => .done _
  | succ n ih =>
    refine .after (l.alike_setIndex h index) fun R₁ _ _ hR₁ _ => ?_
    refine (hbody.mono hR₁).onSuccess fun R₂ hR₂ => ?_
    exact ih (h.mono (hR₁.trans hR₂)) (hbody.mono (hR₁.trans hR₂)) _

theorem alike_whenHolds (h : ctx.Alike R ctx') (condition : String) (index : Int64)
    {next next' : Unit → Course Outcome} (hnext : ∀ R', R ≤ R' → (next ()).Alike R' (next' ())) :
    (l.whenHolds ctx condition index next).Alike R (l.whenHolds ctx' condition index next') := by
  have hcheck : (do
      l.setIndex ctx index
      let store ← Script.step (.read ctx.scope)
      return l.holds condition index ctx.library store : Script (Except Failure Bool)).Alike
        (fun _ verdict verdict' => verdict = verdict') R (do
      l.setIndex ctx' index
      let store ← Script.step (.read ctx'.scope)
      return l.holds condition index ctx'.library store) := by
    refine (l.alike_setIndex h index).bind fun R' _ _ hR _ => ?_
    refine .take (.read (h.mono hR).scope) fun _ store _ _ hstore => .done ?_
    rw [hstore, h.library]
  refine .after hcheck fun R' verdict verdict' hR hverdict => ?_
  subst hverdict
  match verdict with
  | .error f => exact .done _
  | .ok false => exact .done _
  | .ok true => exact hnext R' hR

theorem alike_repeatWhile (h : ctx.Alike R ctx') (condition : String) (hbody : body.Alike R body')
    (left : Nat) (index : Int64) : (l.repeatWhile ctx condition body left index).Alike R
      (l.repeatWhile ctx' condition body' left index) := by
  induction left generalizing R index with
  | zero => exact l.alike_whenHolds h condition index fun _ _ => .done _
  | succ left ih =>
    refine l.alike_whenHolds h condition index fun R₁ hR₁ => ?_
    refine (hbody.mono hR₁).onSuccess fun R₂ hR₂ => ?_
    exact ih (h.mono (hR₁.trans hR₂)) (hbody.mono (hR₁.trans hR₂)) _

theorem alike_repeated (h : ctx.Alike R ctx') (hbody : body.Alike R body') :
    (l.repeated ctx body).Alike R (l.repeated ctx' body') := by
  rw [repeated, repeated]
  split
  · exact l.alike_repeatCount h hbody _ _
  · exact l.alike_repeatWhile h _ hbody _ _

end Loop

end Containers

/-! ## Actions -/

/-- Whether an action neither sends nor receives, nor any action inside. -/
abbrev Action.KeepsToItself (templates : Templates) (action : Action) : Prop :=
  action.Throughout templates fun a => a.exchanges = false

/-- Whether calls of templates whose bodies do not send or receive are alike in contexts that are
alike. -/
def Caller.Alike (templates : Templates) (call : Caller) : Prop :=
  ∀ (name : String) (arguments : Fields Json) (sharing : Option Sharing) (R : Pairing)
    (ctx ctx' : Context),
    (∀ t, templates.find name = .ok t → ∀ a ∈ t.body, a.KeepsToItself templates) →
      ctx.Alike R ctx' →
        (call name arguments sharing ctx).Alike R (call name arguments sharing ctx')

section Actions

variable {templates : Templates} {call : Caller}

mutual

/-- **What an action does in contexts that are alike is alike.** -/
theorem alike_execute (hcall : call.Alike templates) :
    (action : Action) → action.KeepsToItself templates →
    {R : Pairing} → {ctx ctx' : Context} → ctx.Alike R ctx' →
      (action.execute call ctx).Alike R (action.execute call ctx')
  | .createVariables assignments, _, _, _, _, h => .ofScript (h.assign assignments)
  | .echo message, _, _, _, _, h => .ofScript (h.echo message)
  | .sleep milliseconds, _, _, _, _, h => .ofScript (h.sleep milliseconds)
  | .fail message, _, _, _, _, h => .ofScript (h.fail message)
  | .assertFailure action expected, hkeeps, R, ctx, ctx', h => by
    rw [Action.execute, Action.execute]
    have hinner := alike_execute hcall action (hkeeps.inside rfl) h
    refine (alike_bracketed h _ hinner).andThen fun R' outcome hR => ?_
    exact .ofScript ((h.mono hR).judgeFailure ..)
  | .send endpoint draft, hkeeps, _, _, _, _ => nomatch hkeeps.self
  | .receive endpoint receipt, hkeeps, _, _, _, _ => nomatch hkeeps.self
  | .callTemplate template arguments sharing, hkeeps, R, ctx, ctx', h =>
    hcall _ _ _ R ctx ctx' (fun t ht a ha => hkeeps.inside ⟨t, ht, ha⟩) h
  | .sequence _ sharing actions, hkeeps, R, ctx, ctx', h => by
    rw [Action.execute, Action.execute]
    refine .after (h.derive sharing) fun R' inner inner' _ hinner => ?_
    exact alike_executeAll hcall actions (fun a ha => hkeeps.inside ha) hinner
  | .parallel _ sharing actions, hkeeps, R, ctx, ctx', h => by
    rw [Action.execute, Action.execute]
    refine .after (h.deriveMany sharing _) fun R' contexts contexts' _ hcontexts => ?_
    refine .forks ?_ fun _ => .done _
    exact alike_executeEach hcall actions (fun a ha => hkeeps.inside ha) hcontexts
  | .iterate loop actions, hkeeps, R, ctx, ctx', h => by
    rw [Action.execute, Action.execute]
    refine .after (h.derive loop.sharing) fun R' inner inner' _ hinner => ?_
    have hbody := alike_executeAll hcall actions (fun a ha => hkeeps.inside ha) hinner
    exact loop.alike_repeated hinner hbody
  | .record recording _ capture delay, _, _, _, _, h => .ofScript (h.record recording capture delay)

theorem alike_executeAll (hcall : call.Alike templates) : (actions : List Action) →
    (∀ a ∈ actions, a.KeepsToItself templates) → {R : Pairing} → {ctx ctx' : Context} →
    ctx.Alike R ctx' →
      (executeAll call ctx actions).Alike R (executeAll call ctx' actions)
  | [], _, _, _, _, _ => .done _
  | action :: rest, hkeeps, R, ctx, ctx', h => by
    obtain ⟨haction, hrest⟩ := List.forall_mem_cons.1 hkeeps
    rw [executeAll, executeAll]
    refine (alike_bracketed h _ (alike_execute hcall action haction h)).onSuccess fun R' hR => ?_
    exact alike_executeAll hcall rest hrest (h.mono hR)

theorem alike_executeEach (hcall : call.Alike templates) : (actions : List Action) →
    (∀ a ∈ actions, a.KeepsToItself templates) → {R : Pairing} →
    {contexts contexts' : List Context} →
      List.Forall₂ (Context.Alike R) contexts contexts' → List.Forall₂ (Course.Alike R)
        (executeEach call contexts actions) (executeEach call contexts' actions)
  | [], _, _, contexts, contexts', h => by
    cases h <;> exact .nil
  | action :: rest, hkeeps, R, contexts, contexts', h => by
    obtain ⟨haction, hrest⟩ := List.forall_mem_cons.1 hkeeps
    cases h with
    | nil => exact .nil
    | cons hctx hothers =>
      rw [executeEach, executeEach]
      refine .cons (alike_bracketed hctx _ (alike_execute hcall action haction hctx)) ?_
      exact alike_executeEach hcall rest hrest hothers

end

end Actions

/-! ## Templates -/

namespace Templates

/-- Whether calls come to the body of the same template in contexts that are alike, or fail in the
same way before. -/
def EntersAlike (templates : Templates) (name : String) (R : Pairing)
    (entered entered' : Except Failure (Template × Context)) : Prop :=
  (∃ f, entered = .error f ∧ entered' = .error f) ∨
    ∃ t inner inner', templates.find name = .ok t ∧ entered = .ok (t, inner) ∧
      entered' = .ok (t, inner') ∧ inner.Alike R inner'

theorem alike_enter (templates : Templates) (name : String) (arguments : Fields Json)
    (sharing : Option Sharing) {R : Pairing} {ctx ctx' : Context} (h : ctx.Alike R ctx') :
    (templates.enter name arguments sharing ctx).run.Alike (templates.EntersAlike name) R
      (templates.enter name arguments sharing ctx').run := by
  have hfails : ∀ R' f, templates.EntersAlike name R' (.error f) (.error f) :=
    fun _ f => .inl ⟨f, rfl, rfl⟩
  rw [enter, enter]
  cases hfound : templates.find name with
  | error f => exact .done (hfails R f)
  | ok t =>
    have hbind : ∀ R' store, R ≤ R' → Activity.Alike R'
        (Activity.ofExcept (t.bind ctx.library store arguments))
          (Activity.ofExcept (t.bind ctx'.library store arguments)) := fun R' store _ => by
      rw [h.library]
      exact Activity.alike_ofExcept _
    refine Activity.alike_ok_bind t (Activity.alike_bind_of h.store hfails fun R₁ store hR₁ => ?_)
    refine Activity.alike_bind_of (hbind R₁ store hR₁) hfails fun R₂ bindings hR₂ => ?_
    have h₂ := h.mono (hR₁.trans hR₂)
    refine Script.Alike.bind (Activity.alike_lift_of (h₂.derive _)) ?_
    rintro R₃ _ _ hR₃ ⟨inner, inner', rfl, rfl, hinner⟩
    refine Activity.alike_bind_of (hinner.setAll bindings) hfails fun R₄ _ hR₄ => .done (.inr ?_)
    exact ⟨t, inner, inner', hfound, rfl, rfl, hinner.mono hR₄⟩

theorem alike_call (templates : Templates) : (depth : Nat) → (templates.call depth).Alike templates
  | 0 => fun _ _ _ _ _ _ _ _ => .done _
  | depth + 1 => by
    intro name arguments sharing R ctx ctx' hkeeps h
    refine .after (templates.alike_enter name arguments sharing h) fun R' entered
      entered' _ he => ?_
    rcases he with ⟨f, rfl, rfl⟩ | ⟨t, inner, inner', ht, rfl, rfl, hinner⟩
    · exact .done _
    · refine (alike_executeAll (templates.alike_call depth) t.body (hkeeps t ht) hinner).andThen ?_
      exact fun _ outcome _ => .done _

end Templates

end Scenario
