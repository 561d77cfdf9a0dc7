import Scenario.Action.Execution
import Scenario.Proofs.Action.Quiet

/-!
# The logs of actions

Everything that runs reports its life: that it has started, and whether it has succeeded or failed
and why.  What lies in between is up to the kind of action, and it is made of the lives of the
actions inside: one after the other in a sequence, in any order where they run side by side, and
not at all where a call fails before it comes to the body of its template.  `Logs` says so for
each kind of action, and this file shows that no run has another log.

## What is here

* `Action.Holds` — what is directly inside of an action, and `Action.Throughout` — that something is
  so at every depth.
* `Logs` — the logs that there can be, each with the outcome that it goes with.  The first failure
  in a sequence is the last thing that happens in it, and the outcome is what the closing report
  says.
* `logs_execute` and `Templates.logs_call` — the log of an action and of a call is one of these, by
  induction on the action and on the depth of calls.
* `Logs.openActions` — where nothing runs side by side, reports nest as brackets do.
-/

set_option autoImplicit false

namespace Scenario

/-! ## What actions hold -/

/-- Whether an action is directly inside of another one, or in the body of the template that this
calls. -/
def Action.Holds (templates : Templates) : Action → Action → Prop
  | .assertFailure action _, b => b = action
  | .callTemplate name _ _, b => ∃ t, templates.find name = .ok t ∧ b ∈ t.body
  | .sequence _ _ actions, b => b ∈ actions
  | .parallel _ _ actions, b => b ∈ actions
  | .iterate _ actions, b => b ∈ actions
  | _, _ => False

/-- Whether something is so of an action and of all actions inside, however deep. -/
def Action.Throughout (templates : Templates) (P : Action → Prop) (a : Action) : Prop :=
  ∀ b, Relation.ReflTransGen (Action.Holds templates) a b → P b

theorem Action.Throughout.self {templates : Templates} {P : Action → Prop} {a : Action}
    (h : a.Throughout templates P) : P a :=
  h a .refl

theorem Action.Throughout.inside {templates : Templates} {P : Action → Prop} {a b : Action}
    (h : a.Throughout templates P) (hb : a.Holds templates b) : b.Throughout templates P :=
  fun c hc => h c (.head hb hc)

theorem Action.Throughout.of_inside {templates : Templates} {P : Action → Prop} {a : Action}
    (ha : P a) (h : ∀ b, a.Holds templates b → b.Throughout templates P) :
    a.Throughout templates P := by
  intro c hc
  rcases Relation.ReflTransGen.cases_head hc with rfl | ⟨b, hb, hc⟩
  · exact ha
  · exact h b hb c hc

/-- Whether an action holds no others. -/
def Action.isSimple : Action → Bool
  | .assertFailure _ _ => false
  | .callTemplate _ _ _ => false
  | .sequence _ _ _ => false
  | .parallel _ _ _ => false
  | .iterate _ _ => false
  | _ => true

theorem Action.Throughout.of_isSimple {templates : Templates} {P : Action → Prop} {a : Action}
    (ha : a.isSimple) (h : P a) : a.Throughout templates P := by
  refine .of_inside h fun b hb => ?_
  cases a <;> first | exact hb.elim | cases ha

/-! ## Logs -/

/-- The report that an action has ended. -/
def Occurrence.ended (name : String) (duration : Binary64) : Outcome → Occurrence
  | .ok _ => .actionSucceeded name duration
  | .error f => .actionFailed name f.message duration

/-- Whether a failure is one that an action that holds no others can end with. -/
def Action.Raises : Action → Failure → Prop
  | .send e _, f => e.Raises f
  | _, f => f.IsBare

/-- What a log can be of. -/
inductive Stretch where
  /-- An action with the reports of its life. -/
  | life (action : Action)
  /-- What lies between these. -/
  | inside (action : Action)
  /-- Actions one after the other. -/
  | all (actions : List Action)
  /-- The passes of a loop. -/
  | passes (actions : List Action)

/-- **The logs that there can be**, with the outcome that each goes with. -/
inductive Logs (templates : Templates) : Stretch → List Occurrence → Outcome → Prop where
  | life {action : Action} {log : List Occurrence} {outcome : Outcome} (duration : Binary64)
    (h : Logs templates (.inside action) log outcome) :
    Logs templates (.life action)
      (.actionStarted action.name :: (log ++ [.ended action.name duration outcome])) outcome
  | simple {action : Action} {log : List Occurrence} {outcome : Outcome} (ha : action.isSimple)
    (hlog : ∀ what ∈ log, what.isIncidental) (hraises : ∀ f, outcome = .error f → action.Raises f) :
    Logs templates (.inside action) log outcome
  /-- Whatever the action inside has ended with. -/
  | assertFailure {action : Action} {expected : Option String} {log : List Occurrence}
    {inner outcome : Outcome} (h : Logs templates (.life action) log inner)
    (hraises : ∀ f, outcome = .error f → f.IsBare) :
    Logs templates (.inside (.assertFailure action expected)) log outcome
  /-- A call that does not come to the body of the template. -/
  | refused {name : String} {arguments : Fields Json} {sharing : Option Sharing} {f : Failure}
    (hf : f.IsBare) : Logs templates (.inside (.callTemplate name arguments sharing)) [] (.error f)
  | called {name : String} {arguments : Fields Json} {sharing : Option Sharing} {t : Template}
    {log : List Occurrence} {outcome : Outcome} (ht : templates.find name = .ok t)
    (h : Logs templates (.all t.body) log outcome) :
    Logs templates (.inside (.callTemplate name arguments sharing)) log
      (Templates.wrap name outcome)
  | sequence {name : String} {sharing : Sharing} {actions : List Action} {log : List Occurrence}
    {outcome : Outcome} (h : Logs templates (.all actions) log outcome) :
    Logs templates (.inside (.sequence name sharing actions)) log outcome
  /-- The logs of the branches in some order. -/
  | parallel {name : String} {sharing : Sharing} {actions : List Action}
    {ends : List (List Occurrence × Outcome)} {whole : List Occurrence}
    (hlength : ends.length = actions.length)
    (h : ∀ (i : Nat) (action : Action) (e : List Occurrence × Outcome), actions[i]? = some action →
      ends[i]? = some e → Logs templates (.life action) e.1 e.2)
    (hwhole : Interleaves (ends.map (·.1)) whole) :
    Logs templates (.inside (.parallel name sharing actions)) whole
      (joinOutcomes (actions.map Action.name) (ends.map (·.2)))
  | iterate {loop : Loop} {actions : List Action} {log : List Occurrence} {outcome : Outcome}
    (h : Logs templates (.passes actions) log outcome) :
    Logs templates (.inside (.iterate loop actions)) log outcome
  | none : Logs templates (.all []) [] (.ok ())
  /-- The first failure is the last thing that happens. -/
  | failed {action : Action} {rest : List Action} {log : List Occurrence} {f : Failure}
    (h : Logs templates (.life action) log (.error f)) :
    Logs templates (.all (action :: rest)) log (.error f)
  | next {action : Action} {rest : List Action} {log more : List Occurrence} {outcome : Outcome}
    (h : Logs templates (.life action) log (.ok ()))
    (hrest : Logs templates (.all rest) more outcome) :
    Logs templates (.all (action :: rest)) (log ++ more) outcome
  /-- The loop itself decides that there is no other pass. -/
  | stopped {actions : List Action} {outcome : Outcome}
    (hraises : ∀ f, outcome = .error f → f.IsBare) : Logs templates (.passes actions) [] outcome
  | passFailed {actions : List Action} {log : List Occurrence} {f : Failure}
    (h : Logs templates (.all actions) log (.error f)) :
    Logs templates (.passes actions) log (.error f)
  | pass {actions : List Action} {log more : List Occurrence} {outcome : Outcome}
    (h : Logs templates (.all actions) log (.ok ()))
    (hrest : Logs templates (.passes actions) more outcome) :
    Logs templates (.passes actions) (log ++ more) outcome

/-! ## What reports nothing -/

/-- Whether a script reports nothing and ends with values of some kind. -/
abbrev Script.Silent {α : Type} (ctx : Context) (P : α → Prop) (x : Script α) : Prop :=
  x.Tells (some ctx.run) ctx.test fun log a => log = [] ∧ P a

section Silent

variable {α β ρ : Type} {ctx : Context}

theorem Script.Silent.bind {P : α → Prop} {P' : β → Prop} {x : Script α} {f : α → Script β}
    (hx : x.Silent ctx P) (hf : ∀ a, P a → (f a).Silent ctx P') : (x.bind f).Silent ctx P' := by
  refine Script.Tells.bind hx ?_
  rintro _ a ⟨rfl, ha⟩
  exact hf a ha

theorem Activity.silent_bind {P : Except Failure α → Prop} {P' : Except Failure β → Prop}
    {x : Activity α} {f : α → Activity β} (hx : x.run.Silent ctx P)
    (he : ∀ e, P (.error e) → P' (.error e)) (hf : ∀ a, P (.ok a) → (f a).run.Silent ctx P') :
    (x >>= f).run.Silent ctx P' := by
  refine Script.Silent.bind hx fun r hr => ?_
  cases r with
  | ok a => exact hf a hr
  | error e => exact ⟨rfl, he e hr⟩

theorem Activity.silent_lift {P : α → Prop} {x : Script α} (hx : x.Silent ctx P) :
    (ExceptT.lift x : Activity α).run.Silent ctx fun r => ∃ a, r = .ok a ∧ P a :=
  Script.Silent.bind hx fun a ha => ⟨rfl, a, rfl, ha⟩

theorem Context.silent_setAll (inner : Context) (fields : Fields Json) :
    (inner.setAll fields).run.Silent ctx fun r => r = .ok () := by
  induction fields with
  | nil => exact ⟨rfl, rfl⟩
  | cons field rest ih =>
    exact Activity.silent_bind (P := fun r => r = .ok ()) ⟨trivial, fun _ => ⟨rfl, rfl⟩⟩ nofun
      fun _ _ => ih

theorem Context.silent_judgeFailure (action : String) (expected : Option String)
    (outcome : Outcome) : (ctx.judgeFailure action expected outcome).run.Silent ctx Bare := by
  cases outcome with
  | ok _ => exact ⟨rfl, bare_error rfl⟩
  | error f =>
    cases expected with
    | none => exact ⟨rfl, bare_ok ()⟩
    | some expected => exact ⟨trivial, fun _ => ⟨rfl, Expectation.bare_validate ..⟩⟩

/-- What follows a script that reports nothing. -/
theorem Course.Tells.after_silent {P : α → Prop} {Q : List Occurrence → ρ → Prop} {x : Script α}
    {f : α → Course ρ} (hx : x.Silent ctx P)
    (hf : ∀ a, P a → (f a).Tells (some ctx.run) ctx.test Q) :
    (Course.after x f).Tells (some ctx.run) ctx.test Q := by
  refine .after hx ?_
  rintro _ a ⟨rfl, ha⟩
  exact hf a ha

end Silent

/-- Whether a context signs its reports as another one does. -/
def Context.SignsAs (inner ctx : Context) : Prop := inner.run = ctx.run ∧ inner.test = ctx.test

theorem Context.silent_derive (ctx : Context) (sharing : Sharing) :
    (ctx.derive sharing).Silent ctx fun inner => inner.SignsAs ctx := by
  cases sharing with
  | shared => exact ⟨rfl, rfl, rfl⟩
  | isolated => exact ⟨trivial, fun _ => ⟨rfl, rfl, rfl⟩⟩

theorem Context.silent_deriveMany (ctx : Context) (sharing : Sharing) (n : Nat) :
    (ctx.deriveMany sharing n).Silent ctx fun inners =>
      inners.length = n ∧ ∀ inner ∈ inners, inner.SignsAs ctx := by
  induction n with
  | zero => exact ⟨rfl, rfl, nofun⟩
  | succ n ih =>
    refine (ctx.silent_derive sharing).bind fun first hfirst => ?_
    refine ih.bind fun others hothers => ?_
    exact ⟨rfl, congrArg (· + 1) hothers.1, List.forall_mem_cons.2 ⟨hfirst, hothers.2⟩⟩

/-! ## Containers -/

/-- Whether the reports of a course are signed by a context and its log is one there can be. -/
abbrev Context.Logs (templates : Templates) (ctx : Context) (stretch : Stretch)
    (p : Course Outcome) :
    Prop := p.Tells (some ctx.run) ctx.test (Scenario.Logs templates stretch)

section Containers

variable {templates : Templates} {ctx inner : Context} {stretch : Stretch} {action : Action}
  {actions : List Action} {p body : Course Outcome}

theorem Context.SignsAs.logs (hinner : inner.SignsAs ctx) (h : inner.Logs templates stretch p) :
    ctx.Logs templates stretch p := by
  rwa [Context.Logs, ← hinner.1, ← hinner.2]

theorem Context.Quiet.logs {a : Activity Unit} (h : ctx.Quiet action.Raises a)
    (ha : action.isSimple) : ctx.Logs templates (.inside action) (.ofActivity a) :=
  .ofScript (h.mono fun _ _ hlog => .simple ha hlog.1 hlog.2)

theorem logs_bracketed (h : ctx.Logs templates (.inside action) body) :
    ctx.Logs templates (.life action) (bracketed ctx action.name body) := by
  refine .after (Q := fun log _ => log = [.actionStarted action.name])
    ⟨⟨rfl, rfl⟩, fun _ => ⟨trivial, fun _ => rfl⟩⟩ ?_
  rintro _ before rfl
  refine h.andThen fun log outcome hlog => .ofScript ⟨trivial, fun now => ?_⟩
  cases outcome with
  | ok _ => exact ⟨⟨rfl, rfl⟩, fun _ => .life _ hlog⟩
  | error f => exact ⟨⟨rfl, rfl⟩, fun _ => .life _ hlog⟩

/-- What follows a course only if it succeeds. -/
theorem Course.Tells.onSuccess {run test : Option String} {Q Q' : List Occurrence → Outcome → Prop}
    {next : Unit → Course Outcome} (hp : p.Tells run test Q)
    (hfail : ∀ log f, Q log (.error f) → Q' log (.error f))
    (hnext : ∀ log, Q log (.ok ()) → (next ()).Tells run test fun more => Q' (log ++ more)) :
    (p.onSuccess next).Tells run test Q' := by
  refine hp.andThen fun log outcome hlog => ?_
  cases outcome with
  | ok _ => exact hnext log hlog
  | error f => exact .done (by simpa using hfail log f hlog)

namespace Loop

variable (l : Loop) (hbody : ctx.Logs templates (.all actions) body)

theorem silent_setIndex (index : Int64) : (l.setIndex ctx index).Silent ctx fun _ => True :=
  ⟨trivial, fun _ => ⟨rfl, trivial⟩⟩

theorem logs_whenHolds (condition : String) (index : Int64) {next : Unit → Course Outcome}
    (hnext : ctx.Logs templates (.passes actions) (next ())) :
    ctx.Logs templates (.passes actions) (l.whenHolds ctx condition index next) := by
  have hcheck : (do
      l.setIndex ctx index
      let store ← Script.step (.read ctx.scope)
      return l.holds condition index ctx.library store : Script (Except Failure Bool)).Silent ctx
        Bare :=
    (l.silent_setIndex index).bind fun _ _ => ⟨trivial, fun _ =>
      ⟨rfl, (bare_resolve ..).bind fun _ => Condition.bare_evaluate _⟩⟩
  refine .after_silent hcheck fun verdict hverdict => ?_
  match verdict with
  | .error f => exact .done (.stopped fun _ heq => by cases heq; exact hverdict.layers f rfl)
  | .ok false => exact .done (.stopped nofun)
  | .ok true => exact hnext

include hbody

theorem logs_pass {next : Unit → Course Outcome}
    (hnext : ctx.Logs templates (.passes actions) (next ())) :
    ctx.Logs templates (.passes actions) (body.onSuccess next) :=
  hbody.onSuccess (fun _ _ => .passFailed) fun _ hlog => hnext.mono fun _ _ => .pass hlog

theorem logs_repeatCount (n : Nat) (index : Int64) :
    ctx.Logs templates (.passes actions) (l.repeatCount ctx body n index) := by
  induction n generalizing index with
  | zero => exact .after_silent (l.silent_setIndex index) fun _ _ => .done (.stopped nofun)
  | succ n ih =>
    exact .after_silent (l.silent_setIndex index) fun _ _ => logs_pass hbody (ih _)

theorem logs_repeatWhile (condition : String) (left : Nat) (index : Int64) :
    ctx.Logs templates (.passes actions) (l.repeatWhile ctx condition body left index) := by
  induction left generalizing index with
  | zero =>
    refine l.logs_whenHolds condition index (.done (.stopped ?_))
    rintro _ ⟨⟩
    rfl
  | succ left ih => exact l.logs_whenHolds condition index (logs_pass hbody (ih _))

theorem logs_repeated : ctx.Logs templates (.passes actions) (l.repeated ctx body) := by
  rw [repeated]
  split
  · exact l.logs_repeatCount hbody _ _
  · exact l.logs_repeatWhile hbody _ _ _

end Loop

end Containers

/-! ## Actions -/

/-- Whether calls of templates have logs that there can be. -/
def Caller.Logs (templates : Templates) (call : Caller) : Prop :=
  ∀ (name : String) (arguments : Fields Json) (sharing : Option Sharing) (ctx : Context),
    ctx.Logs templates (.inside (.callTemplate name arguments sharing))
      (call name arguments sharing ctx)

section Actions

variable {templates : Templates} {call : Caller}

theorem length_executeEach (call : Caller) : (actions : List Action) → {contexts : List Context} →
    contexts.length = actions.length →
    (executeEach call contexts actions).length = actions.length
  | [], [], _ => rfl
  | _ :: rest, _ :: _, h =>
    congrArg (· + 1) (length_executeEach call rest (Nat.succ.inj h))

mutual

/-- The log of what an action does is one that there can be. -/
theorem logs_execute (hcall : call.Logs templates) : (action : Action) → (ctx : Context) →
    ctx.Logs templates (.inside action) (action.execute call ctx)
  | .createVariables assignments, ctx => (ctx.quiet_assign assignments).logs rfl
  | .echo message, ctx => (ctx.quiet_echo message).logs rfl
  | .sleep milliseconds, ctx => (ctx.quiet_sleep milliseconds).logs rfl
  | .fail message, ctx => (ctx.quiet_fail message).logs rfl
  | .assertFailure action expected, ctx => by
    rw [Action.execute]
    refine (logs_bracketed (logs_execute hcall action ctx)).andThen fun log inner hlog => ?_
    refine .ofScript ((ctx.silent_judgeFailure action.name expected inner).mono ?_)
    rintro _ outcome ⟨rfl, hbare⟩
    rw [List.append_nil]
    exact .assertFailure hlog hbare.layers
  | .send endpoint draft, ctx => (ctx.quiet_send endpoint draft).logs rfl
  | .receive endpoint receipt, ctx => (ctx.quiet_receive endpoint receipt).logs rfl
  | .callTemplate name arguments sharing, ctx => hcall name arguments sharing ctx
  | .sequence _ sharing actions, ctx => by
    rw [Action.execute]
    exact .after_silent (ctx.silent_derive sharing) fun inner hinner =>
      (hinner.logs (logs_executeAll hcall actions inner)).mono fun _ _ => .sequence
  | .parallel _ sharing actions, ctx => by
    rw [Action.execute]
    refine .after_silent (ctx.silent_deriveMany sharing _) fun contexts hcontexts => ?_
    have hlength := length_executeEach call actions hcontexts.1
    refine .fork (fun i log outcome => ∃ action, actions[i]? = some action ∧
      Scenario.Logs templates (.life action) log outcome) (fun i p hp => ?_)
      fun ends whole hends hlogs hwhole => .done ?_
    · obtain ⟨inner, action, hinner, haction, hlogs⟩ :=
        logs_executeEach hcall actions hcontexts.1 i p hp
      exact ((hcontexts.2 inner hinner).logs hlogs).mono fun _ _ hlog => ⟨action, haction, hlog⟩
    · rw [List.append_nil, joinBranches_ended]
      refine .parallel (hends.trans hlength) (fun i action e haction he => ?_) hwhole
      obtain ⟨other, hother, hlog⟩ := hlogs i e he
      cases haction.symm.trans hother
      exact hlog
  | .iterate loop actions, ctx => by
    rw [Action.execute]
    exact .after_silent (ctx.silent_derive _) fun inner hinner =>
      (hinner.logs (loop.logs_repeated (logs_executeAll hcall actions inner))).mono
        fun _ _ => .iterate
  | .record recording _ capture delay, ctx => (ctx.quiet_record recording capture delay).logs rfl

theorem logs_executeAll (hcall : call.Logs templates) : (actions : List Action) →
    (ctx : Context) → ctx.Logs templates (.all actions) (executeAll call ctx actions)
  | [], _ => .done .none
  | action :: rest, ctx =>
    (logs_bracketed (logs_execute hcall action ctx)).onSuccess (fun _ _ => .failed)
      fun _ hlog => (logs_executeAll hcall rest ctx).mono fun _ _ => .next hlog

theorem logs_executeEach (hcall : call.Logs templates) : (actions : List Action) →
    {contexts : List Context} → contexts.length = actions.length → ∀ (i : Nat) (p : Course Outcome),
    (executeEach call contexts actions)[i]? = some p →
    ∃ inner action, inner ∈ contexts ∧ actions[i]? = some action ∧
      inner.Logs templates (.life action) p
  | [], [], _, _, _, hp => nomatch hp
  | action :: rest, inner :: contexts, _, 0, p, hp => by
    cases hp
    exact ⟨inner, action, List.mem_cons_self, rfl, logs_bracketed (logs_execute hcall action inner)⟩
  | action :: rest, inner :: contexts, hlength, i + 1, p, hp => by
    obtain ⟨other, a, hother, ha, hlogs⟩ :=
      logs_executeEach hcall rest (Nat.succ.inj hlength) i p hp
    exact ⟨other, a, List.mem_cons_of_mem _ hother, ha, hlogs⟩

end

end Actions

/-! ## Calls -/

namespace Templates

variable (templates : Templates) {name : String} {arguments : Fields Json}
  {sharing : Option Sharing} {ctx : Context}

/-- What a call does before the body runs fails by itself or comes to the template of the name. -/
theorem silent_enter : (templates.enter name arguments sharing ctx).run.Silent ctx fun entered =>
    (∀ f, entered = .error f → f.IsBare) ∧ ∀ t inner, entered = .ok (t, inner) →
      templates.find name = .ok t ∧ inner.SignsAs ctx := by
  have herror : ∀ f : Failure, f.IsBare → (∀ g, Except.error (α := Template × Context) f =
      .error g →
      g.IsBare) ∧ ∀ (t : Template) (inner : Context), Except.error f = .ok (t, inner) →
        templates.find name = .ok t ∧ inner.SignsAs ctx := by
    intro f hf
    refine ⟨?_, nofun⟩
    rintro _ ⟨⟩
    exact hf
  refine Activity.silent_bind (P := fun r => templates.find name = r ∧ Bare r)
    ⟨rfl, rfl, templates.bare_find name⟩ (fun f hf => herror f (hf.2.layers f rfl)) fun t ht => ?_
  refine Activity.silent_bind (P := Bare) ⟨trivial, fun _ => ⟨rfl, bare_ok _⟩⟩
    (fun f hf => herror f (hf.layers f rfl)) fun store _ => ?_
  refine Activity.silent_bind (P := Bare) ⟨rfl, t.bare_bind ..⟩
    (fun f hf => herror f (hf.layers f rfl)) fun bindings _ => ?_
  refine Activity.silent_bind (Activity.silent_lift (ctx.silent_derive _)) (fun f hf => nomatch hf)
    fun inner hinner => ?_
  refine Activity.silent_bind (Context.silent_setAll inner bindings) nofun fun _ _ =>
    ⟨rfl, nofun, ?_⟩
  rintro _ _ ⟨⟩
  obtain ⟨_, ⟨⟩, hsigns⟩ := hinner
  exact ⟨ht.1, hsigns⟩

/-- The log of a call is one that there can be, however deep calls may nest. -/
theorem logs_call (depth : Nat) : (templates.call depth).Logs templates := by
  induction depth with
  | zero => exact fun _ _ _ _ => .done (.refused rfl)
  | succ depth ih =>
    intro name arguments sharing ctx
    refine .after_silent templates.silent_enter fun entered hentered => ?_
    match entered with
    | .error f => exact .done (.refused (hentered.1 f rfl))
    | .ok (t, inner) =>
      obtain ⟨ht, hinner⟩ := hentered.2 t inner rfl
      refine (hinner.logs (logs_executeAll ih t.body inner)).andThen fun log outcome hlog =>
        .done ?_
      rw [List.append_nil]
      exact .called ht hlog

end Templates

/-! ## Nesting -/

/-- The names of the actions that have started and have not ended, the innermost first, after one
more occurrence.  Only the innermost can end. -/
def Occurrence.stack (names : List String) : Occurrence → Option (List String)
  | .actionStarted name => some (name :: names)
  | .actionSucceeded name _ => if names.head? = some name then some names.tail else none
  | .actionFailed name _ _ => if names.head? = some name then some names.tail else none
  | _ => some names

/-- The names of the actions that have started and have not ended after a log. -/
def openActions (names : List String) (log : List Occurrence) : Option (List String) :=
  log.foldlM Occurrence.stack names

theorem openActions_append (names : List String) (log more : List Occurrence) :
    openActions names (log ++ more) = (openActions names log).bind (openActions · more) :=
  List.foldlM_append

theorem openActions_of_isIncidental (names : List String) {log : List Occurrence}
    (h : ∀ what ∈ log, what.isIncidental) : openActions names log = some names := by
  induction log with
  | nil => rfl
  | cons what rest ih =>
    obtain ⟨hwhat, hrest⟩ := List.forall_mem_cons.1 h
    cases what <;> first | exact ih hrest | cases hwhat

/-- Whether an action runs others side by side. -/
def Action.isParallel : Action → Bool
  | .parallel _ _ _ => true
  | _ => false

/-- Whether something is so of all actions that a stretch is about, and of all inside of them. -/
def Stretch.Throughout (templates : Templates) (P : Action → Prop) : Stretch → Prop
  | .life action => action.Throughout templates P
  | .inside action => action.Throughout templates P
  | .all actions => ∀ action ∈ actions, action.Throughout templates P
  | .passes actions => ∀ action ∈ actions, action.Throughout templates P

/-- **Reports nest properly** where no actions run side by side: after a log those actions are open
that were before. -/
theorem Logs.openActions {templates : Templates} {stretch : Stretch} {log : List Occurrence}
    {outcome : Outcome} (h : Logs templates stretch log outcome)
    (hsequential : stretch.Throughout templates fun a => a.isParallel = false)
    (names : List String) : openActions names log = some names := by
  induction h generalizing names with
  | @life action log outcome duration h ih =>
    show Scenario.openActions (action.name :: names) (log ++ [_]) = _
    rw [openActions_append, ih hsequential, Option.bind_some]
    cases outcome <;> simp [Scenario.openActions, Occurrence.ended, Occurrence.stack]
  | simple _ hlog _ => exact openActions_of_isIncidental names hlog
  | assertFailure _ _ ih => exact ih (hsequential.inside rfl) names
  | refused _ => rfl
  | called ht _ ih => exact ih (fun a ha => hsequential.inside ⟨_, ht, ha⟩) names
  | sequence _ ih => exact ih (fun a ha => hsequential.inside ha) names
  | parallel => exact absurd hsequential.self Bool.noConfusion
  | iterate _ ih => exact ih (fun a ha => hsequential.inside ha) names
  | none => rfl
  | failed _ ih => exact ih (hsequential _ List.mem_cons_self) names
  | next _ _ ih ihrest =>
    rw [openActions_append, ih (hsequential _ List.mem_cons_self)]
    exact ihrest (fun a ha => hsequential a (List.mem_cons_of_mem _ ha)) names
  | stopped _ => rfl
  | passFailed _ ih => exact ih hsequential names
  | pass _ _ ih ihrest =>
    rw [openActions_append, ih hsequential]
    exact ihrest hsequential names

/-- Nothing in a log is about a test. -/
theorem Logs.isLifecycle_or_isIncidental {templates : Templates} {stretch : Stretch}
    {log : List Occurrence} {outcome : Outcome} (h : Logs templates stretch log outcome) :
    ∀ what ∈ log, what.isLifecycle ∨ what.isIncidental := by
  induction h with
  | @life action log outcome duration _ ih =>
    refine List.forall_mem_cons.2 ⟨.inl rfl, List.forall_mem_append.2 ⟨ih, ?_⟩⟩
    cases outcome <;> exact List.forall_mem_singleton.2 (.inl rfl)
  | simple _ hlog _ => exact fun what hwhat => .inr (hlog what hwhat)
  | parallel hlength _ hwhole ih =>
    intro what hwhat
    obtain ⟨part, hpart, hwhat⟩ := hwhole.mem hwhat
    obtain ⟨e, he, rfl⟩ := List.mem_map.1 hpart
    obtain ⟨i, hi, rfl⟩ := List.mem_iff_getElem.1 he
    exact ih i _ _ (List.getElem?_eq_getElem (hlength ▸ hi)) (List.getElem?_eq_getElem hi)
      what hwhat
  | refused | none | stopped => exact nofun
  | next _ _ ih ihrest => exact List.forall_mem_append.2 ⟨ih, ihrest⟩
  | pass _ _ ih ihrest => exact List.forall_mem_append.2 ⟨ih, ihrest⟩
  | _ => assumption

end Scenario
