import Scenario.Action.Execution
import Scenario.Proofs.Session.Ownership

/-!
# Isolation

Each kind of action makes the contexts of what it holds in its own way: a loop one for all of its
passes, actions side by side one for each branch, a call one for the body of the template.  A
context that shares the scope writes where its parent writes, and an isolated one writes to a copy.
This file follows the scopes through all of them.

## What is here

* `Context.minds_send`, `Context.minds_receive` and their like: a simple action writes to the scope
  of its context and to no other.
* `Context.writesOnly_derive` — a derived context owns its scope: it is that of the parent, or it
  was opened just now.
* `Caller.Owns` — what is asked of calls of templates, so that the induction on actions goes
  through; `Templates.owns_call` gives it by induction on the depth of the calls.
* `isolation_frame` — whatever an action holds, it writes only to the scope of its context and to
  scopes that it has opened, and an action with an isolated scope only to the latter.
-/

set_option autoImplicit false

namespace Scenario

/-! ## Simple actions -/

section Simple

variable {ctx : Context} {own : Set Nat}

theorem Context.minds_store : ctx.store.run.Minds own := Activity.minds_step nofun

theorem Context.minds_report (what : Occurrence) : (ctx.report what).Minds own := .step nofun

theorem Context.minds_resolve (text : String) : (ctx.resolve text).run.Minds own :=
  Activity.minds_bind minds_store fun _ => Activity.minds_ofExcept _

theorem Context.minds_resolveText (value : Json) : (ctx.resolveText value).run.Minds own := by
  cases value with
  | string text => exact Activity.minds_bind (minds_resolve text) fun _ => trivial
  | _ => trivial

theorem Context.minds_validate (path expected actual : String) :
    (ctx.validate path expected actual).run.Minds own :=
  Activity.minds_bind minds_store fun _ => Activity.minds_ofExcept _

theorem Context.minds_echo (message : String) : (ctx.echo message).run.Minds own :=
  Activity.minds_bind (minds_resolve message) fun _ => Activity.minds_lift (minds_report _)

theorem Context.minds_sleep (milliseconds : String) : (ctx.sleep milliseconds).run.Minds own := by
  refine Activity.minds_bind (minds_resolve milliseconds) fun resolved => ?_
  split
  · exact Activity.minds_sleep _
  · trivial

theorem Context.minds_fail (message : String) : (ctx.fail message).run.Minds own :=
  Activity.minds_bind (minds_resolve message) fun _ => trivial

theorem Context.minds_judgeFailure (action : String) (expected : Option String)
    (outcome : Outcome) : (ctx.judgeFailure action expected outcome).run.Minds own := by
  cases outcome with
  | ok _ => trivial
  | error f =>
    cases expected with
    | none => trivial
    | some expected => exact minds_validate "error" expected f.message

theorem Context.minds_record (recording : Nat) (capture : Option String) (delay : Option Nat) :
    (ctx.record recording capture delay).run.Minds own := by
  have hnote : (ctx.record recording capture none).run.Minds own := by
    cases capture with
    | none => exact Activity.minds_step nofun
    | some name =>
      refine Activity.minds_bind minds_store fun _ => ?_
      exact Activity.minds_bind (Activity.minds_ofExcept _) fun _ => Activity.minds_step nofun
  cases delay with
  | none => exact hnote
  | some ms => exact Activity.minds_bind (Activity.minds_sleep ms) fun _ => hnote

theorem Manager.minds_poll (m : Manager) (key : String) (deadline remaining : Nat)
    (look : Option Message × Nat) : (m.poll key deadline remaining look).Minds own := by
  induction remaining using Nat.strongRecOn generalizing own look with
  | ind remaining ih =>
    obtain ⟨found, now⟩ := look
    cases found with
    | some reply =>
      rw [poll_some]
      trivial
    | none =>
      rw [poll_none]
      split
      · trivial
      · next hleft =>
        have hnap := Manager.nap_pos (m := m) hleft
        have hle : Manager.left deadline remaining now ≤ remaining := Nat.min_le_left ..
        exact ⟨nofun, fun look => ih _ (by omega) look⟩

theorem Manager.minds_find (m : Manager) (key : String) (timeout : Nat) :
    (m.find key timeout).run.Minds own := by
  refine Activity.minds_bind (Activity.minds_step nofun) fun _ => ?_
  refine Activity.minds_bind (Activity.minds_step nofun) fun _ => ?_
  refine Activity.minds_bind (Activity.minds_lift (m.minds_poll ..)) fun found => ?_
  cases found with
  | some reply => trivial
  | none => exact Activity.minds_bind (Activity.minds_step nofun) fun _ => trivial

theorem Endpoint.minds_receiveSelected (e : Endpoint) (key : String) (timeout : Option Nat) :
    (e.receiveSelected ctx key timeout).run.Minds own := by
  refine Activity.minds_tryCatch (e.manager.minds_find ..) fun f => ?_
  split
  · exact Activity.minds_bind (Activity.minds_lift (Context.minds_report _)) fun _ => trivial
  · trivial

theorem Endpoint.minds_receive (e : Endpoint) (timeout : Option Nat) :
    (e.receive ctx timeout).run.Minds own := by
  refine Activity.minds_bind (Activity.minds_bind Context.minds_store fun store => ?_) fun key =>
    e.minds_receiveSelected key timeout
  split
  · trivial
  · trivial

theorem Endpoint.minds_dispatch (e : Endpoint) (request : Message) :
    (e.dispatch request).Minds own :=
  ⟨nofun, fun _ => ⟨nofun, fun _ => ⟨nofun, fun _ => trivial⟩⟩⟩

theorem Endpoint.minds_settle (e : Endpoint) (key : String) (response : Response) :
    (e.settle key response).run.Minds own := by
  cases response with
  | failure f => exact Activity.minds_bind (Activity.minds_step nofun) fun _ => trivial
  | silence => trivial
  | reply m => exact Activity.minds_step nofun
  | later delay m =>
    rw [settle]
    split
    · exact Activity.minds_step nofun
    · trivial

theorem Endpoint.minds_accept (e : Endpoint) (reply : Message) :
    (e.accept reply).run.Minds own := by
  rw [accept]
  split
  · trivial
  · exact Activity.minds_step nofun

variable (hctx : ctx.scope ∈ own)
include hctx

theorem Context.minds_set (name : String) (value : Json) : (ctx.set name value).run.Minds own := by
  refine Activity.minds_step ?_
  rintro scope ⟨⟩
  exact hctx

theorem Context.minds_setAll (fields : Fields Json) : (ctx.setAll fields).run.Minds own := by
  induction fields with
  | nil => trivial
  | cons field rest ih => exact Activity.minds_bind (minds_set hctx _ _) fun _ => ih

theorem Context.minds_assign (assignments : Fields Json) :
    (ctx.assign assignments).run.Minds own := by
  induction assignments with
  | nil => trivial
  | cons assignment rest ih =>
    refine Activity.minds_bind (minds_resolveText _) fun _ => ?_
    exact Activity.minds_bind (minds_set hctx _ _) fun _ => ih

theorem Endpoint.minds_send (e : Endpoint) (request : Message) :
    (e.send ctx request).run.Minds own := by
  rw [send]
  split
  · trivial
  · next key _ =>
    have hdispatch : (do
        let response ← ExceptT.lift (e.dispatch request)
        e.settle key response : Activity Unit).run.Minds own :=
      Activity.minds_bind (Activity.minds_lift (e.minds_dispatch request)) (e.minds_settle key)
    refine Activity.minds_bind ?_ fun _ => ?_
    · exact Activity.minds_bind (Context.minds_set hctx _ _) fun _ => Activity.minds_step nofun
    · split
      · exact Activity.minds_bind (Context.minds_set hctx _ _) fun _ => hdispatch
      · exact hdispatch

theorem Context.minds_send (e : Endpoint) (d : Draft) : (ctx.send e d).run.Minds own := by
  refine Activity.minds_bind minds_store fun _ => ?_
  refine Activity.minds_bind (Activity.minds_ofExcept _) fun _ => ?_
  refine Activity.minds_bind (Activity.minds_step nofun) fun _ => ?_
  exact Activity.minds_bind (Activity.minds_step nofun) fun _ => e.minds_send hctx _

theorem Context.minds_extractHeaders (m : Message) (targets : Fields String) :
    (ctx.extractHeaders m targets).run.Minds own := by
  induction targets with
  | nil => trivial
  | cons field rest ih =>
    rw [extractHeaders]
    split
    · trivial
    · exact Activity.minds_bind (minds_set hctx _ _) fun _ => ih

theorem Context.minds_extractPayload (m : Message) (targets : Fields String) :
    (ctx.extractPayload m targets).run.Minds own := by
  induction targets with
  | nil => trivial
  | cons field rest ih =>
    rw [extractPayload]
    split
    · trivial
    · exact Activity.minds_bind (minds_set hctx _ _) fun _ => ih

theorem Context.minds_handle (r : Receipt) (m : Message) : (ctx.handle r m).run.Minds own := by
  have hextract : (do
      ctx.extractHeaders m r.headerVariables
      ctx.extractPayload m r.payloadVariables : Activity Unit).run.Minds own :=
    Activity.minds_bind (minds_extractHeaders hctx m _) fun _ => minds_extractPayload hctx m _
  rw [handle]
  split
  · exact hextract
  · refine Activity.minds_bind minds_store fun _ => ?_
    exact Activity.minds_bind (Activity.minds_ofExcept _) fun _ => hextract

theorem Context.minds_receive (e : Endpoint) (r : Receipt) : (ctx.receive e r).run.Minds own := by
  refine Activity.minds_bind ?_ fun m => minds_handle hctx r m
  rw [obtain]
  split
  · exact Activity.minds_bind (minds_resolve _) fun key => e.minds_receiveSelected key r.timeout
  · exact e.minds_receive r.timeout

end Simple

/-! ## Derived contexts -/

namespace Context

variable {ctx : Context} {own : Set Nat} {sharing : Sharing}

/-- **A derived context owns its scope**: it was opened just now if it is not that of the parent. -/
theorem writesOnly_derive (hctx : sharing = .shared → ctx.scope ∈ own) :
    (ctx.derive sharing).WritesOnly (fun o inner => inner.scope ∈ o) own := by
  cases sharing with
  | shared => exact hctx rfl
  | isolated => exact ⟨nofun, fun scope => .inr rfl⟩

/-- So do several contexts that are derived one after the other. -/
theorem writesOnly_deriveMany (hctx : sharing = .shared → ctx.scope ∈ own) (n : Nat) :
    (ctx.deriveMany sharing n).WritesOnly (fun o inners => ∀ inner ∈ inners, inner.scope ∈ o)
      own := by
  induction n generalizing own with
  | zero => exact List.forall_mem_nil _
  | succ n ih =>
    refine (writesOnly_derive hctx).bind fun o first ho hfirst => ?_
    refine (ih fun hshared => ho (hctx hshared)).bind fun o' others ho' hothers => ?_
    exact List.forall_mem_cons.2 ⟨ho' hfirst, hothers⟩

/-- **Isolated contexts have scopes of their own**, which were not there before and begin with the
same variables. -/
theorem alone_deriveMany (ctx : Context) (n : Nat) (s : Session) :
    (ctx.deriveMany .isolated n).alone s =
      ((List.range' s.scopes.length n).map
          fun scope => { ctx with scope := scope, isolated := true },
        { s with scopes := s.scopes ++ List.replicate n (s.store ctx.scope) }) := by
  induction n generalizing s with
  | zero =>
    show ([], s) = _
    rw [List.replicate_zero, List.append_nil]
    rfl
  | succ n ih =>
    let copied : Session := (s.take (.copy ctx.scope)).2
    have hlength : copied.scopes.length = s.scopes.length + 1 := List.length_append
    have hscopes : copied.scopes = s.scopes ++ [s.store ctx.scope] := rfl
    have hfirst : (ctx.deriveMany .isolated (n + 1)).alone s =
        ({ ctx with scope := s.scopes.length, isolated := true } ::
          ((ctx.deriveMany .isolated n).alone copied).1,
            ((ctx.deriveMany .isolated n).alone copied).2) :=
      Script.alone_bind (ctx.deriveMany .isolated n) _ copied
    rw [hfirst, ih copied, hlength, List.range'_succ, List.map_cons, List.replicate_succ]
    rw [show copied.store ctx.scope = s.store ctx.scope from s.store_copy ctx.scope, hscopes,
      List.append_assoc, List.singleton_append]
    rfl

end Context

/-! ## Loops and reports -/

section Containers

variable {ctx : Context} {own : Set Nat} {body : Course Outcome}

theorem writesOnly_bracketed (name : String) (hbody : body.WritesOnly own) :
    (bracketed ctx name body).WritesOnly own := by
  refine .after_minds ⟨nofun, fun _ => ⟨nofun, fun _ => trivial⟩⟩ fun before => ?_
  refine hbody.andThen fun outcome => .ofScript ⟨nofun, fun now => ?_⟩
  cases outcome with
  | ok _ => exact ⟨nofun, fun _ => trivial⟩
  | error f => exact ⟨nofun, fun _ => trivial⟩

theorem Course.WritesOnly.onSuccess {next : Unit → Course Outcome} (hbody : body.WritesOnly own)
    (hnext : (next ()).WritesOnly own) : (body.onSuccess next).WritesOnly own := by
  refine hbody.andThen fun outcome => ?_
  cases outcome with
  | ok _ => exact hnext
  | error f => exact .done _

namespace Loop

variable (l : Loop) (hctx : ctx.scope ∈ own)
include hctx

theorem minds_setIndex (index : Int64) : (l.setIndex ctx index).Minds own := by
  refine .step ?_
  rintro scope ⟨⟩
  exact hctx

theorem writesOnly_repeatCount (hbody : body.WritesOnly own) (n : Nat) (index : Int64) :
    (l.repeatCount ctx body n index).WritesOnly own := by
  induction n generalizing index with
  | zero => exact .after_minds (l.minds_setIndex hctx index) fun _ => .done _
  | succ n ih => exact .after_minds (l.minds_setIndex hctx index) fun _ => hbody.onSuccess (ih _)

theorem writesOnly_whenHolds (condition : String) (index : Int64) {next : Unit → Course Outcome}
    (hnext : (next ()).WritesOnly own) : (l.whenHolds ctx condition index next).WritesOnly own := by
  have hcheck : (do
      l.setIndex ctx index
      let store ← Script.step (.read ctx.scope)
      return l.holds condition index ctx.library store : Script (Except Failure Bool)).Minds own :=
    (l.minds_setIndex hctx index).bind fun _ => ⟨nofun, fun _ => trivial⟩
  refine .after_minds hcheck fun verdict => ?_
  match verdict with
  | .error f => exact .done _
  | .ok false => exact .done _
  | .ok true => exact hnext

theorem writesOnly_repeatWhile (condition : String) (hbody : body.WritesOnly own) (left : Nat)
    (index : Int64) : (l.repeatWhile ctx condition body left index).WritesOnly own := by
  induction left generalizing index with
  | zero => exact l.writesOnly_whenHolds hctx condition index (.done _)
  | succ left ih => exact l.writesOnly_whenHolds hctx condition index (hbody.onSuccess (ih _))

theorem writesOnly_repeated (hbody : body.WritesOnly own) :
    (l.repeated ctx body).WritesOnly own := by
  rw [repeated]
  split
  · exact l.writesOnly_repeatCount hctx hbody _ _
  · exact l.writesOnly_repeatWhile hctx _ hbody _ _

end Loop

end Containers

/-! ## Actions -/

/-- Whether calls of templates write only to scopes that are owned if that of the caller is. -/
def Caller.Owns (call : Caller) : Prop :=
  ∀ (template : String) (arguments : Fields Json) (sharing : Option Sharing) (ctx : Context)
    (own : Set Nat), ctx.scope ∈ own → (call template arguments sharing ctx).WritesOnly own

section Actions

variable {call : Caller}

mutual

/-- An action writes only to scopes that are owned if that of its context is. -/
theorem writesOnly_execute (hcall : call.Owns) :
    (action : Action) → {ctx : Context} → {own : Set Nat} →
    ctx.scope ∈ own → (action.execute call ctx).WritesOnly own
  | .createVariables assignments, ctx, own, hctx => .ofScript (ctx.minds_assign hctx assignments)
  | .echo message, ctx, own, hctx => .ofScript (ctx.minds_echo message)
  | .sleep milliseconds, ctx, own, hctx => .ofScript (ctx.minds_sleep milliseconds)
  | .fail message, ctx, own, hctx => .ofScript (ctx.minds_fail message)
  | .assertFailure action expected, ctx, own, hctx => by
    rw [Action.execute]
    refine (writesOnly_bracketed _ (writesOnly_execute hcall action hctx)).andThen fun outcome => ?_
    exact .ofScript (ctx.minds_judgeFailure ..)
  | .send endpoint draft, ctx, own, hctx => .ofScript (ctx.minds_send hctx endpoint draft)
  | .receive endpoint receipt, ctx, own, hctx =>
    .ofScript (ctx.minds_receive hctx endpoint receipt)
  | .callTemplate template arguments sharing, ctx, own, hctx => hcall _ _ _ _ _ hctx
  | .sequence _ sharing actions, ctx, own, hctx => by
    rw [Action.execute]
    exact .after (ctx.writesOnly_derive fun _ => hctx) fun o inner _ hinner =>
      writesOnly_executeAll hcall actions hinner
  | .parallel _ sharing actions, ctx, own, hctx => by
    rw [Action.execute]
    refine .after (ctx.writesOnly_deriveMany (fun _ => hctx) _) fun o contexts _ hcontexts => ?_
    exact .fork (writesOnly_executeEach hcall actions hcontexts) fun _ => .done _
  | .iterate loop actions, ctx, own, hctx => by
    rw [Action.execute]
    exact .after (ctx.writesOnly_derive fun _ => hctx) fun o inner _ hinner =>
      loop.writesOnly_repeated hinner (writesOnly_executeAll hcall actions hinner)
  | .record recording _ capture delay, ctx, own, hctx => .ofScript (ctx.minds_record ..)

theorem writesOnly_executeAll (hcall : call.Owns) : (actions : List Action) → {ctx : Context} →
    {own : Set Nat} → ctx.scope ∈ own → (executeAll call ctx actions).WritesOnly own
  | [], _, _, _ => .done _
  | action :: rest, _, _, hctx =>
    (writesOnly_bracketed _ (writesOnly_execute hcall action hctx)).onSuccess
      (writesOnly_executeAll hcall rest hctx)

theorem writesOnly_executeEach (hcall : call.Owns) : (actions : List Action) →
    {contexts : List Context} → {own : Set Nat} → (∀ ctx ∈ contexts, ctx.scope ∈ own) →
    ∀ p ∈ executeEach call contexts actions, p.WritesOnly own
  | [], [], own, hcontexts => nofun
  | [], _ :: _, own, hcontexts => nofun
  | _ :: _, [], own, hcontexts => nofun
  | action :: rest, ctx :: contexts, own, hcontexts => by
    obtain ⟨hctx, hothers⟩ := List.forall_mem_cons.1 hcontexts
    exact List.forall_mem_cons.2 ⟨writesOnly_bracketed _ (writesOnly_execute hcall action hctx),
      writesOnly_executeEach hcall rest hothers⟩

end

end Actions

/-! ## Calls -/

namespace Templates

variable (templates : Templates) {name : String} {arguments : Fields Json}
  {sharing : Option Sharing} {ctx : Context} {own : Set Nat}

/-- The body of a template gets a context that owns its scope, which was opened just now if it is
not that of the caller. -/
theorem writesOnly_enter (hctx : ∀ t, templates.find name = .ok t →
    sharing.getD t.sharing = .shared → ctx.scope ∈ own) :
    (templates.enter name arguments sharing ctx).run.WritesOnly
      (fun o entered => ∀ t inner, entered = .ok (t, inner) → inner.scope ∈ o) own := by
  have hfail : ∀ (o : Set Nat) (f : Failure) (t : Template) (inner : Context),
      Except.error f = .ok (t, inner) → inner.scope ∈ o := nofun
  refine Activity.writesOnly_bind (Q := fun _ found => templates.find name = found) rfl
    (fun o f _ => hfail o f) fun o t ho ht => ?_
  refine Activity.writesOnly_bind Context.minds_store (fun o f _ => hfail o f)
    fun o₁ store ho₁ _ => ?_
  refine Activity.writesOnly_bind (Activity.minds_ofExcept _) (fun o f _ => hfail o f)
    fun o₂ bindings ho₂ _ => ?_
  have hderive := ctx.writesOnly_derive fun hshared => ho₂ (ho₁ (ho (hctx t ht hshared)))
  refine Activity.writesOnly_bind (Activity.writesOnly_lift hderive) (fun o f _ => hfail o f)
    fun o inner _ hinner => ?_
  refine Activity.writesOnly_bind (inner.minds_setAll (hinner inner rfl) bindings)
    (fun o f _ => hfail o f) fun o' _ ho' _ => ?_
  rintro _ _ ⟨⟩
  exact ho' (hinner inner rfl)

/-- **A call writes only to scopes that are owned** if that of the caller is, and it need not be
if the body is isolated. -/
theorem writesOnly_call (depth : Nat) (hctx : ∀ t, templates.find name = .ok t →
    sharing.getD t.sharing = .shared → ctx.scope ∈ own) :
    (templates.call depth name arguments sharing ctx).WritesOnly own := by
  induction depth generalizing name arguments sharing ctx own with
  | zero => exact .done _
  | succ depth ih =>
    have hcall : (templates.call depth).Owns := fun _ _ _ _ _ hctx => ih fun _ _ _ => hctx
    refine .after (templates.writesOnly_enter hctx) fun o entered _ hentered => ?_
    match entered with
    | .error f => exact .done _
    | .ok (t, inner) =>
      exact (writesOnly_executeAll hcall t.body (hentered t inner rfl)).andThen fun _ => .done _

/-- Calls of templates write only to scopes that are owned if that of the caller is. -/
theorem owns_call (depth : Nat) : (templates.call depth).Owns := fun _ _ _ _ _ hctx =>
  templates.writesOnly_call depth fun _ _ _ => hctx

end Templates

/-! ## Isolated actions -/

/-- Whether what an action holds works on a copy of the variables of its context. -/
def Action.IsIsolated (templates : Templates) : Action → Prop
  | .sequence _ sharing _ => sharing = .isolated
  | .parallel _ sharing _ => sharing = .isolated
  | .iterate loop _ => loop.sharing = .isolated
  | .callTemplate template _ sharing =>
    ∀ t, templates.find template = .ok t → sharing.getD t.sharing = .isolated
  | _ => False

/-- An isolated action writes only to scopes that it opens. -/
theorem writesOnly_execute_of_isIsolated {templates : Templates} {depth : Nat} {ctx : Context}
    {action : Action} (h : action.IsIsolated templates) :
    (action.execute (templates.call depth) ctx).WritesOnly ∅ := by
  have hcopy {sharing : Sharing} (hsharing : sharing = .isolated) {own : Set Nat} :
      sharing = .shared → ctx.scope ∈ own := by
    subst hsharing
    exact nofun
  have hcall := templates.owns_call depth
  cases action with
  | sequence _ sharing actions =>
    rw [Action.execute]
    exact .after (ctx.writesOnly_derive (hcopy h)) fun o inner _ hinner =>
      writesOnly_executeAll hcall actions hinner
  | parallel _ sharing actions =>
    rw [Action.execute]
    refine .after (ctx.writesOnly_deriveMany (hcopy h) _) fun o contexts _ hcontexts => ?_
    exact .fork (writesOnly_executeEach hcall actions hcontexts) fun _ => .done _
  | iterate loop actions =>
    rw [Action.execute]
    exact .after (ctx.writesOnly_derive (hcopy h)) fun o inner _ hinner =>
      loop.writesOnly_repeated hinner (writesOnly_executeAll hcall actions hinner)
  | callTemplate template arguments sharing =>
    exact templates.writesOnly_call depth fun t ht => hcopy (h t ht)
  | _ => exact h.elim

/-- **Isolation is a frame.**  Whatever an action holds and however it ends, it leaves all variables
as they are but those of its context and of scopes that are opened while it runs, and an isolated
action leaves those of its context as well.  Everything inside of an action is an action that runs
in a context, so it does the same for what is around it. -/
theorem isolation_frame (templates : Templates) (depth : Nat) (ctx : Context) (action : Action) :
    let p := bracketed ctx action.name (action.execute (templates.call depth) ctx)
    p.LeavesOthers {ctx.scope} ∧ (action.IsIsolated templates → p.LeavesOthers ∅) := by
  refine ⟨?_, fun h => ?_⟩
  · exact (writesOnly_bracketed _ (writesOnly_execute (templates.owns_call depth) action
      (Set.mem_singleton _))).leavesOthers
  · exact (writesOnly_bracketed _ (writesOnly_execute_of_isIsolated h)).leavesOthers

/-- A branch of an isolated action sets a variable in a loop, and another one sets it and fails. -/
theorem isolation_frame_failing_branch :
    let ctx : Context := { scope := 0, library := ⟨"", "", []⟩, run := "" }
    let s : Session := { scopes := [⟨[("x", .string "outer")]⟩] }
    let action : Action := .parallel "both" .isolated
      [.iterate { bound := .count 2 } [.createVariables [("x", .bool true)]],
        .sequence "failing" .shared
          [.createVariables [("x", .null)], .callTemplate "missing" [] none]]
    let p := bracketed ctx action.name (action.execute (Templates.call [] 1) ctx)
    (s.run p).1.isOk = false ∧ (s.run p).2.store 0 = ⟨[("x", .string "outer")]⟩ := by
  intro ctx s action p
  have hend : (p.start s).1.result?.map (·.isOk) = some false := by decide +kernel
  obtain ⟨outcome, houtcome, hfails⟩ := Option.map_eq_some_iff.1 hend
  refine ⟨?_, ?_⟩
  · rw [Session.run, Task.run]
    split
    · next r hr =>
      cases houtcome.symm.trans hr
      exact hfails
    · next hr => cases houtcome.symm.trans hr
  · exact ((isolation_frame [] 1 ctx action).2 rfl).keeps (s.woven_run p) Nat.one_pos
      (Set.notMem_empty _)

end Scenario
