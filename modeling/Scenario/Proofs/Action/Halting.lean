import Scenario.Proofs.Action.Log
import Scenario.Proofs.Action.Machine
import Scenario.Proofs.Session.Script

/-!
# Why running actions comes to an end

`Work` is unfolded with nothing to count down, and this file shows that it comes to an end all the
same.  Each construct has its own reason.  Actions inside of others are smaller.  A loop has made
one pass more every time, and stops at its limit at the latest.  A wait for a reply sleeps for at
least one millisecond before it looks again, and does not look after its deadline.  What calls do is
left open here.

All these reasons are put into one relation.  `Work.Unfolds` says that work, when it is unfolded
from some time on, is a certain course; it is an inductive relation, so there is no such course for
work that is unfolded for ever.  What a course counts down is compared here with what work compares:
that the counts of a course never run out before is the content of the lemmas.

## What is here

* `Work.Unfolds` — work that is a course, `Work.Unfolds.halts` — such work comes to an end, and
  `Work.Realizes` — the same of work with something to follow.
* `Work.unfolds_weigh`, `Work.realizes_count` and `Work.realizes_condition` — waits and loops.
* `Action.callees` — the templates that an action calls, and `Work.realizes_action` — an action is
  the course that it executes as, if calls of these templates are.
-/

set_option autoImplicit false

namespace Scenario

namespace Work

/-! ## Work that is a course -/

/-- From some time on work is the same as a course, but for what is unfolded on the way. -/
inductive Unfolds (templates : Templates) : Nat → Work → Course Outcome → Prop where
  | done {time : Nat} (outcome : Outcome) : Unfolds templates time (.done outcome) (.done outcome)
  | take {time : Nat} {step : Step} {next : step.Yield → Work}
    {next' : step.Yield → Course Outcome}
    (h : ∀ s : Session, time ≤ s.clock →
      Unfolds templates s.clock (next (s.take step).1) (next' (s.take step).1)) :
    Unfolds templates time (.take step next) (.take step next')
  | pause {time ms : Nat} {next : Unit → Work} {next' : Unit → Course Outcome}
    (h : Unfolds templates (time + min ms Session.longestPause) (next ()) (next' ())) :
    Unfolds templates time (.pause ms next) (.pause ms next')
  | fork {time : Nat} {branches : List (Work × Course Outcome)} {join : List Outcome → Work}
    {join' : List Outcome → Course Outcome} (hb : ∀ b ∈ branches, Unfolds templates time b.1 b.2)
    (hj : ∀ outcomes time', time ≤ time' →
      Unfolds templates time' (join outcomes) (join' outcomes)) :
    Unfolds templates time (.fork (branches.map Prod.fst) join)
      (.fork (branches.map Prod.snd) join')
  | unfold {time : Nat} {w w' : Work} {p : Course Outcome} (hw : w.unfold templates = some w')
    (h : Unfolds templates time w' p) : Unfolds templates time w p

variable {templates : Templates} {time : Nat}

theorem Unfolds.later {w : Work} {p : Course Outcome} (h : w.Unfolds templates time p) {time' : Nat}
    (hle : time ≤ time') : w.Unfolds templates time' p := by
  induction h generalizing time' with
  | done outcome => exact .done outcome
  | take _ ih => exact .take fun s hs => ih s (Nat.le_trans hle hs) (Nat.le_refl _)
  | pause _ ih => exact .pause (ih (Nat.add_le_add_right hle _))
  | fork _ _ ihb ihj =>
    exact .fork (fun b hb => ihb b hb hle) fun outcomes time₁ h₁ =>
      ihj outcomes time₁ (Nat.le_trans hle h₁) (Nat.le_refl _)
  | unfold hw _ ih => exact .unfold hw (ih hle)

/-- **Work that is a course comes to an end.** -/
theorem Unfolds.halts {w : Work} {p : Course Outcome} (h : w.Unfolds templates time p) :
    w.Halts templates time := by
  induction h with
  | done outcome => exact halts_done outcome
  | take _ ih => exact halts_take ih
  | pause _ ih => exact halts_pause ih
  | fork _ _ ihb ihj =>
    refine halts_fork (fun w hw => ?_) ihj
    obtain ⟨b, hb, rfl⟩ := List.mem_map.1 hw
    exact ihb b hb
  | unfold hw _ ih => exact halts_unfold hw ih

/-- Whatever has come out, what follows is the same. -/
def Resumes (templates : Templates) {α : Type} (time : Nat) (next : α → Work)
    (next' : α → Course Outcome) : Prop :=
  ∀ a time', time ≤ time' → (next a).Unfolds templates time' (next' a)

/-- Work with something to follow is the same as a course with the same to follow. -/
def Realizes (templates : Templates) (body : (Outcome → Work) → Work) (p : Course Outcome) : Prop :=
  ∀ ⦃time : Nat⦄ ⦃next : Outcome → Work⦄ ⦃next' : Outcome → Course Outcome⦄,
    Resumes templates time next next' → (body next).Unfolds templates time (p.andThen next')

theorem Resumes.later {α : Type} {next : α → Work} {next' : α → Course Outcome}
    (h : Resumes templates time next next') {time' : Nat} (hle : time ≤ time') :
    Resumes templates time' next next' :=
  fun a time₁ h₁ => h a time₁ (Nat.le_trans hle h₁)

theorem resumes_done : Resumes templates time Work.done Course.done :=
  fun outcome _ _ => .done outcome

end Work

/-! ## Scripts -/

theorem Course.onSuccess_andThen (p : Course Outcome) (next : Unit → Course Outcome)
    (g : Outcome → Course Outcome) :
    (p.onSuccess next).andThen g = p.andThen fun
      | .ok _ => (next ()).andThen g
      | .error f => g (.error f) := by
  rw [onSuccess, andThen_assoc]
  congr 1
  funext outcome
  cases outcome <;> rfl

namespace Work

variable {templates : Templates} {time : Nat} {α : Type}

theorem unfolds_after {x : Script α} {next : α → Work} {next' : α → Course Outcome}
    (h : Resumes templates time next next') :
    (after x next).Unfolds templates time (.after x next') := by
  induction x generalizing time with
  | done a => exact h a time (Nat.le_refl _)
  | take step rest ih => exact .take fun s hs => ih _ (h.later hs)
  | pause ms rest ih => exact .pause (ih () (h.later (Nat.le_add_right ..)))

/-- What follows a script may depend on what is known of its value. -/
theorem unfolds_after_of {run test : Option String} {Q : List Occurrence → α → Prop} {x : Script α}
    {next : α → Work} {next' : α → Course Outcome} (hx : x.Tells run test Q)
    (h : ∀ log a time', time ≤ time' → Q log a → (next a).Unfolds templates time' (next' a)) :
    (after x next).Unfolds templates time (.after x next') := by
  induction x generalizing time Q with
  | done a => exact h [] a time (Nat.le_refl _) hx
  | take step rest ih =>
    exact .take fun s hs => ih _ (hx.2 _) fun log a time' hle hq =>
      h _ a time' (Nat.le_trans hs hle) hq
  | pause ms rest ih =>
    exact .pause (ih () hx fun log a time' hle hq =>
      h log a time' (Nat.le_trans (Nat.le_add_right ..) hle) hq)

theorem realizes_ofScript (x : Script Outcome) :
    Realizes templates (fun next => after x next) (.ofScript x) := by
  intro time next next' h
  rw [Course.ofScript_andThen]
  exact unfolds_after h

theorem realizes_ofActivity (a : Activity Unit) :
    Realizes templates (fun next => after a.run next) (.ofActivity a) :=
  realizes_ofScript a.run

theorem realizes_bracketed {body : (Outcome → Work) → Work} {p : Course Outcome}
    (h : Realizes templates body p) (ctx : Context) (name : String) :
    Realizes templates (bracketed ctx name body) (Scenario.bracketed ctx name p) := by
  intro time next next' hnext
  rw [Scenario.bracketed, Course.after_andThen]
  refine unfolds_after fun before time₁ h₁ => ?_
  rw [Course.andThen_assoc]
  refine h fun outcome time₂ h₂ => ?_
  rw [Course.ofScript_andThen]
  exact unfolds_after (hnext.later (Nat.le_trans h₁ h₂))

/-- What follows only if something has succeeded. -/
theorem realizes_onSuccess {body rest : (Outcome → Work) → Work} {p q : Course Outcome}
    (h : Realizes templates body p) (hrest : Realizes templates rest q) :
    Realizes templates (fun next => body (onSuccess next fun _ => rest next))
      (p.onSuccess fun _ => q) := by
  intro time next next' hnext
  rw [Course.onSuccess_andThen]
  refine h fun outcome time₁ h₁ => ?_
  cases outcome with
  | ok _ => exact hrest (hnext.later h₁)
  | error f => exact hnext _ time₁ h₁

/-! ## Waiting for a reply -/

/-- **A wait comes to its deadline.**  Each time it has slept, less time is left than before. -/
theorem unfolds_weigh (m : Manager) (key : String) {deadline remaining now : Nat}
    {next : Option Message → Work} {next' : Option Message → Course Outcome}
    (hleft : deadline ≤ now + remaining) (h : Resumes templates now next next')
    (found : Option Message) :
    (weigh m key deadline next (found, now)).Unfolds templates now
      (.after (m.poll key deadline remaining (found, now)) next') := by
  induction remaining using Nat.strongRecOn generalizing now found with
  | ind remaining ih =>
    cases found with
    | some reply =>
      rw [Manager.poll_some]
      exact h _ _ (Nat.le_refl _)
    | none =>
      -- there is not more time left than there can be
      have hclock : Manager.left deadline remaining now = deadline - now := by
        rw [Manager.left]
        omega
      rw [Manager.poll_none, hclock, weigh]
      by_cases hover : deadline ≤ now
      · rw [if_pos hover, if_pos (by omega)]
        exact h _ _ (Nat.le_refl _)
      · have hsome : deadline - now ≠ 0 := by omega
        rw [if_neg hover, if_neg hsome]
        have hpos := Manager.nap_pos (m := m) hsome
        have hnap : m.nap (deadline - now) ≤ deadline - now := by
          rw [Manager.nap]
          omega
        have hshort : m.nap (deadline - now) ≤ Session.longestPause := Nat.min_le_right ..
        refine .pause (.unfold rfl (.take fun s hs => ?_))
        refine ih _ ?_ ?_ (h.later (Nat.le_trans (Nat.le_add_right ..) hs)) _
        · omega
        · omega

theorem unfolds_find (m : Manager) (key : String) (timeout : Nat)
    {next : Except Failure Message → Work} {next' : Except Failure Message → Course Outcome}
    (h : Resumes templates time next next') :
    (find m key timeout next).Unfolds templates time (.after (m.find key timeout).run next') := by
  refine .take fun s hs => .take fun s' hs' => ?_
  show Unfolds templates _ _
    (.after (Script.bind (Script.bind (m.poll key _ timeout (_, s'.clock)) _) _) next')
  rw [Course.after_bind, Course.after_bind]
  have hnow : time ≤ s'.clock := Nat.le_trans hs hs'
  refine unfolds_weigh m key (Nat.le_refl _) (fun found time₁ h₁ => ?_) _
  cases found with
  | some reply => exact h _ _ (Nat.le_trans hnow h₁)
  | none => exact .take fun s₁ hs₁ => h _ _ (Nat.le_trans hnow (Nat.le_trans h₁ hs₁))

theorem realizes_receive (ctx : Context) (e : Endpoint) (r : Receipt) :
    Realizes templates (receive ctx e r) (.ofActivity (ctx.receive e r)) := by
  intro time next next' h
  rw [Course.ofActivity, Course.ofScript_andThen]
  have hobtain : ∀ f : Except Failure Message → Course Outcome,
      Course.after (ctx.obtain e r).run f =
        .after (awaitedKey ctx e r).run fun
          | .ok key => .after (e.receiveSelected ctx key r.timeout).run f
          | .error failure => f (.error failure) := by
    intro f
    rw [Context.obtain, awaitedKey]
    cases r.selector with
    | some selector =>
      show Course.after (Script.bind (ctx.resolve selector).run _) f = _
      rw [Course.after_bind]
      congr 1
      funext key
      cases key <;> rfl
    | none =>
      show Course.after (Script.bind (Manager.key ctx e.keyName).run _) f = _
      rw [Course.after_bind]
      congr 1
      funext key
      cases key <;> rfl
  show Unfolds templates time _ (.after (Script.bind (ctx.obtain e r).run _) next')
  rw [Course.after_bind, hobtain]
  refine unfolds_after fun key time₁ h₁ => ?_
  cases key with
  | error f => exact h _ _ h₁
  | ok key =>
    show Unfolds templates time₁ _
      (.after (Script.bind (e.manager.find key (r.timeout.getD e.settings.timeout)).run _) _)
    rw [Course.after_bind]
    refine unfolds_find _ _ _ fun found time₂ h₂ => ?_
    have hlater := h.later (Nat.le_trans h₁ h₂)
    cases found with
    | ok m => exact unfolds_after hlater
    | error f =>
      cases hf : f.isTimeout with
      | true =>
        simp only [hf, ↓reduceIte]
        exact .take fun s hs => hlater _ _ hs
      | false =>
        simp only [hf, Bool.false_eq_true, ↓reduceIte]
        exact hlater _ _ (Nat.le_refl _)

/-! ## Loops -/

section Loops

variable {l : Loop} {ctx : Context} {body : List Action} {inner : Course Outcome}

/-- What a loop with a count has made and what it has left are its count, and it stops when it has
made as many. -/
theorem realizes_count {limit : Nat} (hbound : l.bound = .count limit)
    (hbody : Realizes templates (.actions ctx body) inner) {left passes : Nat}
    (hleft : passes + left = limit) (index : Int64) :
    Realizes templates (.loop l ctx body passes index) (l.repeatCount ctx inner left index) := by
  induction left generalizing passes index with
  | zero =>
    intro time next next' hnext
    rw [Loop.repeatCount, Course.after_andThen]
    refine .unfold rfl (unfolds_after fun _ time₁ h₁ => ?_)
    have hstop : ¬ passes < limit := by omega
    simp only [hbound, hstop, ↓reduceIte]
    exact hnext _ _ h₁
  | succ left ih =>
    intro time next next' hnext
    rw [Loop.repeatCount, Course.after_andThen]
    refine .unfold rfl (unfolds_after fun _ time₁ h₁ => ?_)
    have hgo : passes < limit := by omega
    simp only [hbound, hgo, ↓reduceIte]
    exact realizes_onSuccess hbody (ih (by omega) _) (hnext.later h₁)

/-- The next pass of a loop with a condition. -/
theorem unfolds_pass {text : String} (hbound : l.bound = .condition text) {passes : Nat}
    {index : Int64} {next : Outcome → Work} {next' : Outcome → Course Outcome}
    {rest : Unit → Course Outcome} (hnext : Resumes templates time next next')
    (hrest : ∀ time', time ≤ time' → Unfolds templates time'
      (if l.limit ≤ passes then next (.error (.iterationLimit l.limit))
        else .actions ctx body (onSuccess next fun _ =>
          .loop l ctx body (passes + 1) (index + l.step) next)) ((rest ()).andThen next')) :
    (Work.loop l ctx body passes index next).Unfolds templates time
      ((l.whenHolds ctx text index rest).andThen next') := by
  rw [Loop.whenHolds, Course.after_andThen]
  refine .unfold rfl (.take fun s hs => ?_)
  simp only [after, hbound]
  refine .take fun s' hs' => ?_
  have hlater : time ≤ s'.clock := Nat.le_trans hs hs'
  show Unfolds templates s'.clock _
    (.after (.done (l.holds text index ctx.library (s'.take (.read ctx.scope)).1)) _)
  cases l.holds text index ctx.library (s'.take (.read ctx.scope)).1 with
  | error f => exact hnext _ _ hlater
  | ok holds =>
    cases holds with
    | false => exact hnext _ _ hlater
    | true => exact hrest _ hlater

/-- What a loop with a condition has made and what it has left are its limit.  Whatever the
condition is, it stops when it has made as many passes. -/
theorem realizes_condition {text : String} (hbound : l.bound = .condition text)
    (hbody : Realizes templates (.actions ctx body) inner) {left passes : Nat}
    (hleft : passes + left = l.limit) (index : Int64) :
    Realizes templates (.loop l ctx body passes index)
      (l.repeatWhile ctx text inner left index) := by
  induction left generalizing passes index with
  | zero =>
    intro time next next' hnext
    refine unfolds_pass hbound hnext fun time₁ h₁ => ?_
    rw [if_pos (by omega)]
    exact hnext _ _ h₁
  | succ left ih =>
    intro time next next' hnext
    refine unfolds_pass hbound hnext fun time₁ h₁ => ?_
    rw [if_neg (by omega)]
    exact realizes_onSuccess hbody (ih (by omega) _) (hnext.later h₁)

/-- **A loop stops**, if what it repeats does. -/
theorem realizes_loop (hbody : Realizes templates (.actions ctx body) inner) :
    Realizes templates (.loop l ctx body 0 l.start) (l.repeated ctx inner) := by
  rw [Loop.repeated]
  split
  · next limit hbound => exact realizes_count hbound hbody (Nat.zero_add limit) _
  · next text hbound => exact realizes_condition hbound hbody (Nat.zero_add l.limit) _

end Loops

end Work

/-! ## Actions -/

mutual

/-- The templates that an action calls, not in the bodies of other templates. -/
def Action.callees : Action → List String
  | .callTemplate name _ _ => [name]
  | .assertFailure a _ => a.callees
  | .sequence _ _ body => calleesAll body
  | .parallel _ _ body => calleesAll body
  | .iterate _ body => calleesAll body
  | _ => []

/-- The templates that actions call. -/
def calleesAll : List Action → List String
  | [] => []
  | a :: rest => a.callees ++ calleesAll rest

end

namespace Work

variable {templates : Templates} {call : Caller}

/-- Calls of these templates are courses. -/
def RealizesCalls (templates : Templates) (call : Caller) (names : List String) : Prop :=
  ∀ name ∈ names, ∀ arguments sharing ctx,
    Realizes templates (.call name arguments sharing ctx) (call name arguments sharing ctx)

theorem RealizesCalls.left {names others : List String}
    (h : RealizesCalls templates call (names ++ others)) : RealizesCalls templates call names :=
  fun name hname => h name (List.mem_append_left _ hname)

theorem RealizesCalls.right {names others : List String}
    (h : RealizesCalls templates call (names ++ others)) : RealizesCalls templates call others :=
  fun name hname => h name (List.mem_append_right _ hname)

mutual

/-- **An action is a course**, if the calls in it are. -/
theorem realizes_action : (a : Action) → RealizesCalls templates call a.callees → (ctx : Context) →
    Realizes templates (.action ctx a) (a.execute call ctx)
  | .createVariables assignments, _, ctx => fun _ _ _ h => .unfold rfl (realizes_ofActivity _ h)
  | .echo message, _, ctx => fun _ _ _ h => .unfold rfl (realizes_ofActivity _ h)
  | .sleep milliseconds, _, ctx => fun _ _ _ h => .unfold rfl (realizes_ofActivity _ h)
  | .fail message, _, ctx => fun _ _ _ h => .unfold rfl (realizes_ofActivity _ h)
  | .assertFailure a expected, hcalls, ctx => by
    intro time next next' hnext
    rw [Action.execute, Course.andThen_assoc]
    refine .unfold rfl (realizes_bracketed (realizes_action a hcalls ctx) ctx a.name
      fun outcome time₁ h₁ => ?_)
    exact realizes_ofActivity _ (hnext.later h₁)
  | .send endpoint draft, _, ctx => fun _ _ _ h => .unfold rfl (realizes_ofActivity _ h)
  | .receive endpoint receipt, _, ctx => fun _ _ _ h => .unfold rfl (realizes_receive ctx _ _ h)
  | .callTemplate template arguments sharing, hcalls, ctx => fun _ _ _ h =>
    .unfold rfl (hcalls template List.mem_cons_self arguments sharing ctx h)
  | .sequence _ sharing body, hcalls, ctx => by
    intro time next next' hnext
    rw [Action.execute, Course.after_andThen]
    refine .unfold rfl (unfolds_after fun inner time₁ h₁ => ?_)
    exact realizes_actions body hcalls inner (hnext.later h₁)
  | .parallel _ sharing body, hcalls, ctx => by
    intro time next next' hnext
    rw [Action.execute, Course.after_andThen]
    refine .unfold rfl (unfolds_after fun contexts time₁ h₁ => ?_)
    obtain ⟨branches, hworks, hcourses, hb⟩ := unfolds_branches body hcalls contexts
    rw [← hworks, ← hcourses]
    exact .fork (fun b hmem => hb b hmem time₁) fun outcomes time₂ h₂ =>
      hnext _ _ (Nat.le_trans h₁ h₂)
  | .iterate l body, hcalls, ctx => by
    intro time next next' hnext
    rw [Action.execute, Course.after_andThen]
    refine .unfold rfl (unfolds_after fun inner time₁ h₁ => ?_)
    exact realizes_loop (realizes_actions body hcalls inner) (hnext.later h₁)
  | .record recording _ capture delay, _, ctx => fun _ _ _ h =>
    .unfold rfl (realizes_ofActivity _ h)

/-- Actions one after the other are a course. -/
theorem realizes_actions : (body : List Action) → RealizesCalls templates call (calleesAll body) →
    (ctx : Context) → Realizes templates (.actions ctx body) (executeAll call ctx body)
  | [], _, ctx => fun _ _ _ h => .unfold rfl (h _ _ (Nat.le_refl _))
  | a :: rest, hcalls, ctx => by
    rw [executeAll]
    have ha := realizes_bracketed (realizes_action a hcalls.left ctx) ctx a.name
    have hrest := realizes_actions rest hcalls.right ctx
    exact fun _ _ _ h => .unfold rfl (realizes_onSuccess ha hrest h)

/-- Branches are courses, each on its own. -/
theorem unfolds_branches : (body : List Action) →
    RealizesCalls templates call (calleesAll body) → (contexts : List Context) →
    ∃ branches : List (Work × Course Outcome),
      branches.map Prod.fst = List.zipWith (fun inner a =>
        bracketed inner a.name (.action inner a) .done) contexts body ∧
      branches.map Prod.snd = executeEach call contexts body ∧
      ∀ b ∈ branches, ∀ time, b.1.Unfolds templates time b.2
  | [], _, [] => ⟨[], rfl, rfl, nofun⟩
  | [], _, _ :: _ => ⟨[], rfl, rfl, nofun⟩
  | _ :: _, _, [] => ⟨[], rfl, rfl, nofun⟩
  | a :: rest, hcalls, ctx :: contexts => by
    obtain ⟨branches, hworks, hcourses, hb⟩ := unfolds_branches rest hcalls.right contexts
    refine ⟨(bracketed ctx a.name (.action ctx a) .done,
      Scenario.bracketed ctx a.name (a.execute call ctx)) :: branches, ?_, ?_, ?_⟩
    · rw [List.map_cons, hworks, List.zipWith_cons_cons]
    · rw [List.map_cons, hcourses, executeEach]
    · refine List.forall_mem_cons.2 ⟨fun time => ?_, hb⟩
      have hdone : Resumes templates time Work.done Course.done := resumes_done
      have ha := realizes_bracketed (realizes_action a hcalls.left ctx) ctx a.name hdone
      rwa [Course.andThen_done] at ha

end

end Work
end Scenario
