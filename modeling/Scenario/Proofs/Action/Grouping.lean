import Scenario.Proofs.Action.Congruence
import Scenario.Proofs.Action.Log
import Scenario.Proofs.Session.Sequel

/-!
# Putting actions into groups

A test that has grown is put into order by making groups: some of its actions go into a sequence, or
into a template that is called where they were.  If variables are shared this should not change what
the test does.  It does not: but for the reports of the lives of actions, of which there are more
with a group than without, the same is left behind, and the outcome is the same, but that a failure
of a template tells which template it was.

Three things make a group differ from what is in it.  There are reports around it, and nobody reads
them.  The context inside is another one, but only in whether the scope was made for it, and nobody
asks for this.  And calls in the body of a template nest one deeper than they would without the
template, which matters only to a call that nests too deeply.  To tell this from all others such a
call marks the session instead of being refused, and a run that leaves no mark has made none.

## What is here

* `executeAll_isolated` — actions do the same whether the scope was made for the context or not.
* `Session.run_onSuccess`, `Session.run_bracketed` — how actions run one after the other.
* `Action.Groups` — an action runs others and wraps their failures.
  `Templates.groups_callTemplate` and `Templates.groups_sequence` are the two kinds of these.
* `run_group` — a group among actions and what is in it among them leave sessions that resemble each
  other.
* `grouping_transparent` — so calls and sequences can be put in and taken out.
-/

set_option autoImplicit false

namespace Scenario

/-! ## Contexts inside -/

namespace Context

variable (ctx : Context) (b : Bool)

theorem derive_isolated (sharing : Sharing) :
    ({ ctx with isolated := b } : Context).derive sharing = ctx.derive sharing := by
  cases sharing <;> rfl

theorem deriveMany_isolated (sharing : Sharing) (n : Nat) :
    ({ ctx with isolated := b } : Context).deriveMany sharing n = ctx.deriveMany sharing n := by
  induction n with
  | zero => rfl
  | succ n ih => rw [deriveMany, deriveMany, derive_isolated, ih]

theorem assign_isolated (assignments : Fields Json) :
    ({ ctx with isolated := b } : Context).assign assignments = ctx.assign assignments := by
  induction assignments with
  | nil => rfl
  | cons field rest ih =>
    obtain ⟨name, value⟩ := field
    rw [assign, assign, ih]
    cases value <;> rfl

theorem extractHeaders_isolated (m : Message) (headers : Fields String) :
    ({ ctx with isolated := b } : Context).extractHeaders m headers =
      ctx.extractHeaders m headers := by
  induction headers with
  | nil => rfl
  | cons field rest ih =>
    obtain ⟨header, name⟩ := field
    rw [extractHeaders, extractHeaders, ih]
    rfl

theorem extractPayload_isolated (m : Message) (parts : Fields String) :
    ({ ctx with isolated := b } : Context).extractPayload m parts = ctx.extractPayload m parts := by
  induction parts with
  | nil => rfl
  | cons field rest ih =>
    obtain ⟨pointer, name⟩ := field
    rw [extractPayload, extractPayload, ih]
    rfl

theorem receive_isolated (e : Endpoint) (r : Receipt) :
    ({ ctx with isolated := b } : Context).receive e r = ctx.receive e r := by
  have hhandle : ({ ctx with isolated := b } : Context).handle r = ctx.handle r := by
    funext m
    rw [handle, handle, extractHeaders_isolated, extractPayload_isolated]
    rfl
  rw [receive, receive, hhandle]
  rfl

end Context

/-- Whether calls do not depend on whether the scope was made for the context. -/
def Caller.IgnoresIsolation (call : Caller) : Prop :=
  ∀ name arguments sharing (ctx : Context) (b : Bool),
    call name arguments sharing { ctx with isolated := b } = call name arguments sharing ctx

theorem Action.execute_isolated {call : Caller} (hcall : call.IgnoresIsolation) (ctx : Context)
    (b : Bool) : (a : Action) →
    a.execute call { ctx with isolated := b } = a.execute call ctx
  | .createVariables assignments => by rw [execute, execute, ctx.assign_isolated b]
  | .echo _ => rfl
  | .sleep _ => rfl
  | .fail _ => rfl
  | .assertFailure a _ => by
    rw [execute, execute, execute_isolated hcall ctx b a]
    rfl
  | .send _ _ => rfl
  | .receive e r => by rw [execute, execute, ctx.receive_isolated b]
  | .callTemplate name arguments sharing => hcall name arguments sharing ctx b
  | .sequence _ sharing _ => by rw [execute, execute, ctx.derive_isolated b]
  | .parallel _ sharing actions => by rw [execute, execute, ctx.deriveMany_isolated b]
  | .iterate l _ => by rw [execute, execute, ctx.derive_isolated b]
  | .record .. => rfl

/-- **Nothing that is done depends on whether the scope was made for the context.** -/
theorem executeAll_isolated {call : Caller} (hcall : call.IgnoresIsolation) (ctx : Context)
    (b : Bool) (actions : List Action) :
    executeAll call { ctx with isolated := b } actions = executeAll call ctx actions := by
  induction actions with
  | nil => rfl
  | cons a rest ih =>
    rw [executeAll, executeAll, ih, a.execute_isolated hcall ctx b]
    rfl

namespace Templates

variable {templates : Templates}

theorem enter_isolated (name : String) (arguments : Fields Json) (sharing : Option Sharing)
    (ctx : Context) (b : Bool) :
    templates.enter name arguments sharing { ctx with isolated := b } =
      templates.enter name arguments sharing ctx := by
  unfold enter
  simp only [ctx.derive_isolated b]
  rfl

theorem ignoresIsolation_callOr {deeper : Caller} (h : deeper.IgnoresIsolation) (depth : Nat) :
    (templates.callOr deeper depth).IgnoresIsolation := by
  intro name arguments sharing ctx b
  cases depth with
  | zero => exact h name arguments sharing ctx b
  | succ depth => rw [callOr, callOr, enter_isolated]

theorem ignoresIsolation_call (depth : Nat) : (templates.call depth).IgnoresIsolation := by
  rw [call_eq_callOr]
  exact ignoresIsolation_callOr (fun _ _ _ _ _ => rfl) depth

end Templates

/-! ## Runs of parts -/

theorem executeAll_append (call : Caller) (ctx : Context) (xs ys : List Action) :
    executeAll call ctx (xs ++ ys) =
      (executeAll call ctx xs).onSuccess fun _ => executeAll call ctx ys := by
  induction xs with
  | nil => rfl
  | cons x rest ih =>
    rw [List.cons_append, executeAll, executeAll, ih]
    show _ = ((bracketed ctx x.name (x.execute call ctx)).onSuccess _).andThen _
    rw [Course.onSuccess_andThen, Course.onSuccess]
    congr 1

namespace Session

variable (s : Session)

theorem run_done {ρ : Type} (r : ρ) : s.run (.done r) = (r, s) := run_of_result? rfl

/-- What follows runs if there is success, in what is left. -/
theorem run_onSuccess (p : Course Outcome) (next : Unit → Course Outcome) :
    s.run (p.onSuccess next) = match (s.run p).1 with
      | .ok _ => (s.run p).2.run (next ())
      | .error f => (.error f, (s.run p).2) := by
  rw [Course.onSuccess, run_andThen]
  cases (s.run p).1 with
  | ok _ => rfl
  | error f => exact run_done _ _

theorem marks_run_onSuccess (p : Course Outcome) (next : Unit → Course Outcome) :
    (s.run p).2.marks ≤ (s.run (p.onSuccess next)).2.marks := by
  rw [Course.onSuccess, run_andThen]
  exact Session.marks_run _ _

/-- The reports of the life of an action around a course change neither its outcome nor anything but
reports of this kind, all of which belong to the run. -/
theorem run_bracketed (ctx : Context) (name : String) (p : Course Outcome) :
    ∃ started ended : Session, started.Resembles s ∧ started.marks = s.marks ∧
      s.run (bracketed ctx name p) = ((started.run p).1, ended) ∧
      ended.Resembles (started.run p).2 ∧ ended.marks = (started.run p).2.marks := by
  let started := s.report (some ctx.run) ctx.test (.actionStarted name)
  have hrun : s.run (bracketed ctx name p) = started.run (p.andThen _) := run_after s _ _
  rw [run_andThen, run_ofScript] at hrun
  have hstarted : started.Resembles s := .of_report rfl _ _ (.refl s)
  refine ⟨started, (s.run (bracketed ctx name p)).2, hstarted, s.marks_report _ _ _, ?_⟩
  rw [hrun]
  generalize started.run p = inside
  obtain ⟨outcome, left⟩ := inside
  cases outcome with
  | ok u => exact ⟨rfl, .of_report rfl _ _ (.refl left), left.marks_report _ _ _⟩
  | error f => exact ⟨rfl, .of_report rfl _ _ (.refl left), left.marks_report _ _ _⟩

end Session

/-! ## Groups -/

section Groups

variable {K L C : Caller} {ctx : Context} {xs ys zs : List Action} {g : Action}
  {wrapped : Failure → Failure}

/-- Whether an action runs others, with calls of its own, and wraps their failures, unless it marks
the session. -/
def Action.Groups (K L : Caller) (ctx : Context) (wrapped : Failure → Failure) (g : Action)
    (actions : List Action) : Prop :=
  ∀ s : Session, s.marks < (s.run (g.execute K ctx)).2.marks ∨
    s.run (g.execute K ctx) =
      ((s.run (executeAll L ctx actions)).1.mapError wrapped, (s.run (executeAll L ctx actions)).2)

/-- How the outcome of actions with a group among them goes with that of the same actions without
the group: if what comes before the group succeeds and what is in the group fails, this failure is
the outcome without the group, and it is wrapped in the outcome with it.  Otherwise they are the
same. -/
def Regrouped (wrapped : Failure → Failure) (before inside grouped flat : Outcome) : Prop :=
  match before, inside with
  | .ok _, .error f => flat = .error f ∧ grouped = .error (wrapped f)
  | _, _ => grouped = flat

theorem Regrouped.eq_of_id {before inside grouped flat : Outcome}
    (h : Regrouped id before inside grouped flat) : grouped = flat := by
  match before, inside with
  | .ok _, .error _ => exact h.2.trans h.1.symm
  | .ok _, .ok _ => exact h
  | .error _, _ => exact h

/-- A group before other actions, in a session that leaves no mark, and what is in the group in one
that resembles it. -/
theorem run_group_cons (hzs : (executeAll K ctx zs).UpToMark (executeAll C ctx zs))
    (hys : (executeAll L ctx ys).UpToMark (executeAll C ctx ys))
    (hgroup : g.Groups K L ctx wrapped ys)
    {s t : Session} (hst : s.Resembles t)
    (hmarks : (s.run (executeAll K ctx (g :: zs))).2.marks ≤ s.marks) :
    (s.run (executeAll K ctx (g :: zs))).2.Resembles (t.run (executeAll C ctx (ys ++ zs))).2 ∧
      Regrouped wrapped (.ok ()) (t.run (executeAll C ctx ys)).1
        (s.run (executeAll K ctx (g :: zs))).1 (t.run (executeAll C ctx (ys ++ zs))).1 := by
  obtain ⟨started, ended, hstarted, hfirst, hbracketed, hended, hlast⟩ :=
    s.run_bracketed ctx g.name (g.execute K ctx)
  have hgrouped := s.run_onSuccess (bracketed ctx g.name (g.execute K ctx)) fun _ =>
    executeAll K ctx zs
  have hgrows := s.marks_run_onSuccess (bracketed ctx g.name (g.execute K ctx)) fun _ =>
    executeAll K ctx zs
  have hflat := t.run_onSuccess (executeAll C ctx ys) fun _ => executeAll C ctx zs
  rw [← executeAll_append] at hflat
  rw [← executeAll, hbracketed] at hgrouped hgrows
  change ended.marks ≤ _ at hgrows
  -- a mark that is left by the group, by what is in it or by what comes after is there in the end
  rcases hgroup started with hmarked | hgroup
  · omega
  rw [hgroup] at hgrouped hended hlast
  dsimp only at hlast
  rcases hys.run (hstarted.trans hst) with hmarked | ⟨houtcome, hinside⟩
  · omega
  · have hleft := hended.trans hinside
    rw [houtcome] at hgrouped
    rcases hinner : (t.run (executeAll C ctx ys)).1 with f | ⟨⟩
    · rw [hinner] at hgrouped hflat
      rw [hgrouped, hflat]
      exact ⟨hleft, rfl, rfl⟩
    · rw [hinner] at hgrouped hflat
      change _ = ended.run (executeAll K ctx zs) at hgrouped
      rw [hgrouped] at hmarks ⊢
      rw [hflat]
      rcases hzs.run hleft with hmarked | ⟨hrest, hend⟩
      · have hinside := started.marks_run (executeAll L ctx ys)
        omega
      · exact ⟨hend, hrest⟩

/-- A group among actions, in a session that leaves no mark, and what is in the group among them. -/
theorem run_group (hxs : (executeAll K ctx xs).UpToMark (executeAll C ctx xs))
    (hzs : (executeAll K ctx zs).UpToMark (executeAll C ctx zs))
    (hys : (executeAll L ctx ys).UpToMark (executeAll C ctx ys))
    (hgroup : g.Groups K L ctx wrapped ys)
    {s : Session} (hmarks : (s.run (executeAll K ctx (xs ++ g :: zs))).2.marks ≤ s.marks) :
    (s.run (executeAll K ctx (xs ++ g :: zs))).2.Resembles
        (s.run (executeAll C ctx (xs ++ ys ++ zs))).2 ∧
      Regrouped wrapped (s.run (executeAll C ctx xs)).1
        ((s.run (executeAll C ctx xs)).2.run (executeAll C ctx ys)).1
        (s.run (executeAll K ctx (xs ++ g :: zs))).1
        (s.run (executeAll C ctx (xs ++ ys ++ zs))).1 := by
  have hgrouped := s.run_onSuccess (executeAll K ctx xs) fun _ => executeAll K ctx (g :: zs)
  have hgrows := s.marks_run_onSuccess (executeAll K ctx xs) fun _ => executeAll K ctx (g :: zs)
  have hflat := s.run_onSuccess (executeAll C ctx xs) fun _ => executeAll C ctx (ys ++ zs)
  rw [← executeAll_append] at hgrouped hgrows hflat
  rw [List.append_assoc]
  rcases hxs.run (.refl s) with hmarked | ⟨houtcome, hbefore⟩
  · omega
  · rw [houtcome] at hgrouped
    rcases hfirst : (s.run (executeAll C ctx xs)).1 with f | ⟨⟩
    · rw [hfirst] at hgrouped hflat
      rw [hgrouped, hflat]
      exact ⟨hbefore, rfl⟩
    · rw [hfirst] at hgrouped hflat
      rw [hgrouped] at hmarks ⊢
      rw [hflat]
      exact run_group_cons hzs hys hgroup hbefore (hmarks.trans (s.marks_run _))

end Groups

/-! ## Calls of templates -/

/-- A call that is not made; the session is marked. -/
def Caller.mark : Caller := fun _ _ _ _ => .take .mark fun _ => .done (.ok ())

namespace Templates

variable {templates : Templates} {ctx : Context}

/-- Actions do the same with less depth until they need more. -/
theorem upToMark_callOr (deeper : Caller) (depth more : Nat) (names : List String) :
    Caller.Related Course.UpToMark (templates.callOr .mark depth)
      (templates.callOr deeper (depth + more)) names := by
  induction depth generalizing names with
  | zero => exact fun _ _ _ _ _ => .mark
  | succ depth ih =>
    intro name _ arguments sharing ctx
    rw [Nat.add_right_comm]
    exact related_callOr Course.isCongruence_upToMark (fun _ _ => ih _) arguments sharing ctx

theorem upToMark_executeAll (depth more : Nat) (ctx : Context) (actions : List Action) :
    (executeAll (templates.callOr .mark depth) ctx actions).UpToMark
      (executeAll (templates.call (depth + more)) ctx actions) := by
  rw [call_eq_callOr]
  exact related_executeAll Course.isCongruence_upToMark actions (upToMark_callOr _ depth more _) ctx

/-- Actions do not mark sessions: all that they report belongs to their run. -/
theorem marks_run (depth : Nat) (ctx : Context) (actions : List Action) (s : Session) :
    (s.run (executeAll (templates.call depth) ctx actions)).2.marks = s.marks := by
  obtain ⟨events, hevents, hsigned, -⟩ :=
    (logs_executeAll (templates.logs_call depth) actions ctx).woven (s.woven_run _)
  rw [Session.marks, Session.marks, ← Array.countP_toList, ← Array.countP_toList, hevents,
    List.countP_append, Nat.add_eq_left, List.countP_eq_zero]
  intro e he
  rw [(hsigned e he).1]
  exact nofun

/-- A call without arguments of a template without parameters comes to the body in the context that
the call is made in, if variables are shared. -/
theorem alone_enter {name : String} {t : Template} {sharing : Option Sharing}
    (hfind : templates.find name = .ok t) (hparameters : t.parameters = [])
    (hsharing : sharing.getD t.sharing = .shared) (s : Session) :
    (templates.enter name [] sharing ctx).run.alone s =
      (.ok (t, { ctx with isolated := false }), s) := by
  have hbind : ∀ store, t.bind ctx.library store [] = .ok [] := by
    intro store
    rw [Template.bind, hparameters]
    rfl
  have hrest : (templates.enter name [] sharing ctx).run = (ExceptT.run do
      let store ← ctx.store
      let bindings ← Activity.ofExcept (t.bind ctx.library store [])
      let inner ← ExceptT.lift (ctx.derive (sharing.getD t.sharing))
      inner.setAll bindings
      return (t, inner)) := by
    rw [enter, hfind]
    rfl
  rw [hrest, hsharing]
  simp only [hbind]
  rfl

/-- Such a call runs the body, and a failure of the body is wrapped. -/
theorem groups_callTemplate {name : String} {t : Template} {sharing : Option Sharing}
    (hfind : templates.find name = .ok t) (hparameters : t.parameters = [])
    (hsharing : sharing.getD t.sharing = .shared) {deeper : Caller}
    (hdeeper : deeper.IgnoresIsolation) (depth : Nat) :
    (Action.callTemplate name [] sharing).Groups (templates.callOr deeper (depth + 1))
      (templates.callOr deeper depth) ctx (.template name) t.body := by
  intro s
  refine .inr ?_
  rw [Action.execute, callOr, Session.run_after, alone_enter hfind hparameters hsharing]
  dsimp only
  rw [Session.run_andThen, executeAll_isolated (ignoresIsolation_callOr hdeeper depth),
    Session.run_done]
  cases (s.run (executeAll (templates.callOr deeper depth) ctx t.body)).1 <;> rfl

theorem groups_mark {L : Caller} {wrapped : Failure → Failure} {name : String}
    {arguments : Fields Json} {sharing : Option Sharing} {actions : List Action} :
    (Action.callTemplate name arguments sharing).Groups .mark L ctx wrapped actions := by
  intro s
  rw [Action.execute, Caller.mark, Session.run_take]
  exact .inl (s.marks_lt_mark.trans_le (Session.marks_run _ _))

/-- A sequence that shares variables runs what is in it. -/
theorem groups_sequence (depth : Nat) (name : String) (actions : List Action) :
    (Action.sequence name .shared actions).Groups (templates.call depth) (templates.call depth) ctx
      id actions := by
  intro s
  refine .inr ?_
  rw [← executeAll_isolated (ignoresIsolation_call depth) ctx false, Action.execute]
  show s.run (executeAll _ _ actions) = _
  cases s.run (executeAll _ _ actions) with
  | mk outcome left => cases outcome <;> rfl

/-- A call among actions goes with the body among them. -/
theorem run_among_callTemplate {name : String} {t : Template} {sharing : Option Sharing}
    (hfind : templates.find name = .ok t) (hparameters : t.parameters = [])
    (hsharing : sharing.getD t.sharing = .shared) {depth : Nat} {xs zs : List Action} {s : Session}
    (h : templates.Suffices depth ctx (xs ++ .callTemplate name [] sharing :: zs) s) :
    let run (actions : List Action) (s : Session) :=
      s.run (executeAll (templates.call depth) ctx actions)
    let grouped := run (xs ++ .callTemplate name [] sharing :: zs) s
    let flat := run (xs ++ t.body ++ zs) s
    grouped.2.Resembles flat.2 ∧ Regrouped (.template name) (run xs s).1
      (run t.body (run xs s).2).1 grouped.1 flat.1 := by
  intro run grouped flat
  have hsame := h .mark
  have hmarks := templates.marks_run depth ctx (xs ++ .callTemplate name [] sharing :: zs) s
  rw [← hsame] at hmarks
  obtain ⟨L, hbody, hcall⟩ : ∃ L, (executeAll L ctx t.body).UpToMark
      (executeAll (templates.call depth) ctx t.body) ∧ (Action.callTemplate name [] sharing).Groups
        (templates.callOr .mark depth) L ctx (.template name) t.body := by
    cases depth with
    | zero => exact ⟨_, upToMark_executeAll 0 0 ctx t.body, groups_mark⟩
    | succ depth => exact ⟨_, upToMark_executeAll depth 1 ctx t.body,
        groups_callTemplate hfind hparameters hsharing (fun _ _ _ _ _ => rfl) depth⟩
  have hgroup := run_group (upToMark_executeAll depth 0 ctx xs) (upToMark_executeAll depth 0 ctx zs)
    hbody hcall hmarks.le
  rwa [hsame] at hgroup

/-- A sequence among actions that shares variables goes with what is in it among them. -/
theorem run_among_sequence (depth : Nat) (ctx : Context) (s : Session) (name : String)
    (xs ys zs : List Action) :
    let run (actions : List Action) (s : Session) :=
      s.run (executeAll (templates.call depth) ctx actions)
    let grouped := run (xs ++ .sequence name .shared ys :: zs) s
    let flat := run (xs ++ ys ++ zs) s
    grouped.2.Resembles flat.2 ∧ grouped.1 = flat.1 := by
  intro run grouped flat
  have hgroup := run_group (.refl (executeAll (templates.call depth) ctx xs))
    (.refl (executeAll (templates.call depth) ctx zs)) (.refl _)
    (groups_sequence depth name ys) (templates.marks_run depth ctx _ s).le
  exact ⟨hgroup.1, hgroup.2.eq_of_id⟩

end Templates

/-- **Groups that share variables are transparent.**  Wherever they are among actions, a sequence
and what is in it have the same outcome and leave the same session behind, but for reports of the
lives of actions, in every context and session.  So do a call without arguments and the body of the
template, if this has no parameters, but that a failure of the body is wrapped, once.  This is so
for every depth that calls may nest up to, as long as none is made that nests deeper.  If templates
do not call themselves then there are no such calls, with the depth that there is. -/
theorem grouping_transparent (templates : Templates) (depth : Nat) (ctx : Context) (s : Session)
    (xs ys zs : List Action) :
    let run (actions : List Action) (s : Session) :=
      s.run (executeAll (templates.call depth) ctx actions)
    let flat := run (xs ++ ys ++ zs) s
    (∀ name,
      let grouped := run (xs ++ .sequence name .shared ys :: zs) s
      grouped.2.unreported = flat.2.unreported ∧ grouped.1 = flat.1) ∧
    (∀ name t sharing, templates.find name = .ok t → t.parameters = [] → t.body = ys →
      sharing.getD t.sharing = .shared →
      templates.Suffices depth ctx (xs ++ .callTemplate name [] sharing :: zs) s →
      let grouped := run (xs ++ .callTemplate name [] sharing :: zs) s
      let before := run xs s
      let inside := run ys before.2
      grouped.2.unreported = flat.2.unreported ∧
        Regrouped (.template name) before.1 inside.1 grouped.1 flat.1) ∧
    (templates.Acyclic → ∀ actions, templates.Suffices templates.depth ctx actions s) := by
  refine ⟨fun name => ?_, ?_, fun h actions => templates.suffices_of_acyclic h ctx actions s⟩
  · exact templates.run_among_sequence depth ctx s name xs ys zs
  · rintro name t sharing hfind hparameters rfl hsharing hsuffices
    exact Templates.run_among_callTemplate hfind hparameters hsharing hsuffices

/-- What is called fails after it has set a variable again. -/
theorem grouping_transparent_failing :
    let t : Template :=
      { name := "t", body := [.createVariables [("x", .string "2")], .fail "no"] }
    let templates : Templates := [("t", t)]
    let ctx : Context := { scope := 0, library := .builtin, run := "r" }
    let s : Session := { scopes := [.empty] }
    let first : List Action := [.createVariables [("x", .string "1")]]
    let last : List Action := [.echo "z"]
    let flat := s.run (templates.runAll ctx (first ++ t.body ++ last))
    let called := s.run (templates.runAll ctx (first ++ .callTemplate "t" [] none :: last))
    called.2.unreported = flat.2.unreported ∧
      ∃ f, flat.1 = .error f ∧ called.1 = .error (.template "t" f) := by
  intro t templates ctx s first last flat called
  have hacyclic : templates.Acyclic := .of_rank (fun _ => 0) (by decide)
  obtain ⟨-, hcall, hsuffices⟩ :=
    grouping_transparent templates templates.depth ctx s first t.body last
  obtain ⟨hleft, hregrouped⟩ := hcall "t" t none rfl rfl rfl rfl (hsuffices hacyclic _)
  refine ⟨hleft, ?_⟩
  have hbefore : ((templates.runAll ctx first).start s).1.result?.map (·.isOk) = some true := by
    decide +kernel
  obtain ⟨before, hbefore, hsucceeds⟩ := Option.map_eq_some_iff.1 hbefore
  have hinside : ((templates.runAll ctx t.body).start
      ((templates.runAll ctx first).start s).2).1.result?.map (·.isOk) = some false := by
    decide +kernel
  obtain ⟨inside, hinside, hfails⟩ := Option.map_eq_some_iff.1 hinside
  change Regrouped _ (s.run (templates.runAll ctx first)).1
    ((s.run (templates.runAll ctx first)).2.run (templates.runAll ctx t.body)).1 _ _ at hregrouped
  rw [Session.run_of_result? hbefore, Session.run_of_result? hinside] at hregrouped
  match before, inside with
  | .ok _, .error f => exact ⟨f, hregrouped⟩

end Scenario
