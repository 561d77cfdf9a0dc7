import Mathlib.Order.WellFounded
import Scenario.Action.Execution

/-!
# Running actions without a bound

Courses are finite by their making: a loop counts down the passes that are left, a call counts down
the depth at which calls can nest, and a wait for a reply the time that there can be.  So that
courses end says little about the actions that they come from.  This file runs actions with none of
these counts.  A loop compares the passes it has made with what it is to make, a call enters the
body of its template however deep it is, and a wait compares the clock with its deadline.  Nothing
is unfolded before its turn, so that work can be done here for ever.  What is computed within one
step, such as the value of a text with calls inside of calls, comes to an end by itself: resolving
recurs on shorter texts only.

## What is here

* `Work` is what is left to do, and `Work.unfold` puts in place of an action, a call, a loop or a
  wait what it does first.
* `Work.Goes` — one thing that is done in a session, and `Work.Later` — others have changed the
  session in whatever way meanwhile, but for the clock, which does not run backwards.
* `Work.exists_later` — only what is done cannot go on.
* `Work.Halts` — from some time on nothing goes on for ever (`Work.Halts.not_endless`), whatever
  others do.  `Work.halts_take` to `Work.halts_unfold` are the rules for this, one for each kind of
  work.
-/

set_option autoImplicit false

namespace Scenario

/-- What is left to do.  Work that stands for an action, for actions one after the other, for a
call, for the next pass of a loop or for the next look for a reply is unfolded when its turn comes;
what is done with its outcome follows. -/
inductive Work where
  | done (outcome : Outcome)
  | take (step : Step) (next : step.Yield → Work)
  | pause (ms : Nat) (next : Unit → Work)
  /-- A pause that ends at some time. -/
  | waiting (due : Nat) (next : Unit → Work)
  | fork (branches : List Work) (join : List Outcome → Work)
  | action (ctx : Context) (a : Action) (next : Outcome → Work)
  | actions (ctx : Context) (body : List Action) (next : Outcome → Work)
  | call (template : String) (arguments : Fields Json) (sharing : Option Sharing) (ctx : Context)
    (next : Outcome → Work)
  | loop (l : Loop) (ctx : Context) (body : List Action) (passes : Nat) (index : Int64)
    (next : Outcome → Work)
  | poll (m : Manager) (key : String) (deadline : Nat) (next : Option Message → Work)

namespace Work

/-! ## Unfolding -/

/-- Goes on with the value of a script. -/
def after {α : Type} : Script α → (α → Work) → Work
  | .done a, f => f a
  | .take step next, f => .take step fun y => after (next y) f
  | .pause ms next, f => .pause ms fun u => after (next u) f

/-- Goes on if something has succeeded. -/
def onSuccess (next : Outcome → Work) (f : Unit → Work) : Outcome → Work
  | .ok _ => f ()
  | .error e => next (.error e)

/-- Puts the reports of the life of an action around it. -/
def bracketed (ctx : Context) (name : String) (body : (Outcome → Work) → Work)
    (next : Outcome → Work) : Work :=
  after (do ctx.report (.actionStarted name); Script.step .now) fun before =>
    body fun outcome =>
      after (do
        let now ← Script.step .now
        let duration := Binary64.ofNat (now - before)
        match outcome with
        | .ok _ => ctx.report (.actionSucceeded name duration)
        | .error f => ctx.report (.actionFailed name f.message duration)
        return outcome) next

/-- What comes of a look for a reply. -/
def weigh (m : Manager) (key : String) (deadline : Nat) (next : Option Message → Work) :
    Option Message × Nat → Work
  | (some reply, _) => next (some reply)
  | (none, now) =>
    if deadline ≤ now then next none
    else .pause (m.nap (deadline - now)) fun _ => .poll m key deadline next

/-- The next look for a reply. -/
def look (m : Manager) (key : String) (deadline : Nat) (next : Option Message → Work) : Work :=
  .take (.claimReply m key) (weigh m key deadline next)

/-- Waits for a reply under a key. -/
def find (m : Manager) (key : String) (timeout : Nat) (next : Except Failure Message → Work) :
    Work :=
  .take (.purge m) fun _ => .take (.claimReply m key) fun look =>
    weigh m key (look.2 + timeout) (fun
      | some reply => next (.ok reply)
      | none => .take (.expireKey m key) fun _ =>
        next (.error (.timeout s!"no reply received for correlation key '{key}'" timeout))) look

/-- The key of the message that a receipt is about. -/
def awaitedKey (ctx : Context) (e : Endpoint) (r : Receipt) : Activity String :=
  match r.selector with
  | some selector => ctx.resolve selector
  | none => Manager.key ctx e.keyName

/-- Receives a message. -/
def receive (ctx : Context) (e : Endpoint) (r : Receipt) (next : Outcome → Work) : Work :=
  after (awaitedKey ctx e r).run fun
    | .error f => next (.error f)
    | .ok key => find e.manager key (r.timeout.getD e.settings.timeout) fun
      | .ok m => after (ctx.handle r m).run next
      | .error f =>
        after (do
          if f.isTimeout then ExceptT.lift (ctx.report (.keyTimeout e.keyName key))
          throw f : Activity Unit).run next

/-- The next pass of a loop, after so many. -/
def pass (l : Loop) (ctx : Context) (body : List Action) (passes : Nat) (index : Int64)
    (next : Outcome → Work) : Work :=
  let again : Work := .actions ctx body (onSuccess next fun _ =>
    .loop l ctx body (passes + 1) (index + l.step) next)
  after (l.setIndex ctx index) fun _ =>
    match l.bound with
    | .count limit => if passes < limit then again else next (.ok ())
    | .condition text => .take (.read ctx.scope) fun store =>
      match l.holds text index ctx.library store with
      | .error f => next (.error f)
      | .ok false => next (.ok ())
      | .ok true => if l.limit ≤ passes then next (.error (.iterationLimit l.limit)) else again

/-- What an action does. -/
def perform (ctx : Context) : Action → (Outcome → Work) → Work
  | .createVariables assignments, next => after (ctx.assign assignments).run next
  | .echo message, next => after (ctx.echo message).run next
  | .sleep milliseconds, next => after (ctx.sleep milliseconds).run next
  | .fail message, next => after (ctx.fail message).run next
  | .assertFailure a expected, next =>
    bracketed ctx a.name (.action ctx a) fun outcome =>
      after (ctx.judgeFailure a.name expected outcome).run next
  | .send endpoint draft, next => after (ctx.send endpoint draft).run next
  | .receive endpoint receipt, next => receive ctx endpoint receipt next
  | .callTemplate template arguments sharing, next => .call template arguments sharing ctx next
  | .sequence _ sharing body, next =>
    after (ctx.derive sharing) fun inner => .actions inner body next
  | .parallel _ sharing body, next =>
    after (ctx.deriveMany sharing body.length) fun contexts =>
      .fork (List.zipWith (fun inner a => bracketed inner a.name (.action inner a) .done)
          contexts body)
        fun outcomes => next (joinBranches (body.map Action.name) (outcomes.map .ended))
  | .iterate l body, next =>
    after (ctx.derive l.sharing) fun inner => .loop l inner body 0 l.start next
  | .record recording _ capture delay, next => after (ctx.record recording capture delay).run next

/-- The body of a template that is called. -/
def enter (templates : Templates) (name : String) (arguments : Fields Json)
    (sharing : Option Sharing) (ctx : Context) (next : Outcome → Work) : Work :=
  after (templates.enter name arguments sharing ctx).run fun
    | .error f => next (.error f)
    | .ok (template, inner) =>
      .actions inner template.body fun outcome => next (Templates.wrap name outcome)

/-- What stands for something else is put in its place. -/
def unfold (templates : Templates) : Work → Option Work
  | action ctx a next => some (perform ctx a next)
  | actions _ [] next => some (next (.ok ()))
  | actions ctx (a :: rest) next =>
    some (bracketed ctx a.name (.action ctx a) (onSuccess next fun _ => .actions ctx rest next))
  | call name arguments sharing ctx next => some (enter templates name arguments sharing ctx next)
  | loop l ctx body passes index next => some (pass l ctx body passes index next)
  | poll m key deadline next => some (look m key deadline next)
  | _ => none

/-! ## Going on -/

/-- One thing that is done next.  Of several branches any can go on, and a pause does not end before
its time. -/
inductive Goes (templates : Templates) : Work × Session → Work × Session → Prop where
  | take {step : Step} {next : step.Yield → Work} {s : Session} :
    Goes templates (.take step next, s) (next (s.take step).1, (s.take step).2)
  | pause {ms : Nat} {next : Unit → Work} {s : Session} :
    Goes templates (.pause ms next, s) (.waiting (s.clock + min ms Session.longestPause) next, s)
  | wake {due : Nat} {next : Unit → Work} {s : Session} (h : due ≤ s.clock) :
    Goes templates (.waiting due next, s) (next (), s)
  | branch {before after : List Work} {join : List Outcome → Work} {w w' : Work} {s s' : Session}
    (h : Goes templates (w, s) (w', s')) :
    Goes templates (.fork (before ++ w :: after) join, s) (.fork (before ++ w' :: after) join, s')
  | join {outcomes : List Outcome} {join : List Outcome → Work} {s : Session} :
    Goes templates (.fork (outcomes.map .done) join, s) (join outcomes, s)
  | unfold {w w' : Work} {s : Session} (h : w.unfold templates = some w') :
    Goes templates (w, s) (w', s)

/-- Something is done after others have changed the session, and time may have passed. -/
def Later (templates : Templates) (a b : Work × Session) : Prop :=
  ∃ s, a.2.clock ≤ s.clock ∧ Goes templates (a.1, s) b

variable {templates : Templates}

/-- What is done takes no time. -/
theorem Goes.clock_eq {a b : Work × Session} (h : Goes templates a b) :
    b.2.clock = a.2.clock := by
  induction h with
  | @take step _ s => exact s.clock_take step
  | branch _ ih => exact ih
  | pause | wake | join | unfold => rfl

mutual

/-- **Only what is done cannot go on.**  A pause has to be waited for. -/
theorem exists_later : (w : Work) → (s : Session) →
    (∃ outcome, w = .done outcome) ∨ ∃ b, Later templates (w, s) b
  | .done outcome, s => .inl ⟨outcome, rfl⟩
  | .take _ _, s => .inr ⟨_, s, Nat.le_refl _, .take⟩
  | .pause _ _, s => .inr ⟨_, s, Nat.le_refl _, .pause⟩
  | .waiting due _, s =>
    .inr ⟨_, s.passTo due, Nat.le_max_left .., .wake (Nat.le_max_right ..)⟩
  | .fork branches join, s => by
    rcases exists_later_branch branches s with ⟨outcomes, rfl⟩ | ⟨before, w, after, rfl, b, hb⟩
    · exact .inr ⟨_, s, Nat.le_refl _, .join⟩
    · obtain ⟨w', ended⟩ := b
      obtain ⟨s', hs', hgoes⟩ := hb
      exact .inr ⟨_, s', hs', .branch hgoes⟩
  | .action .., s => .inr ⟨_, s, Nat.le_refl _, .unfold rfl⟩
  | .actions _ [] _, s => .inr ⟨_, s, Nat.le_refl _, .unfold rfl⟩
  | .actions _ (_ :: _) _, s => .inr ⟨_, s, Nat.le_refl _, .unfold rfl⟩
  | .call .., s => .inr ⟨_, s, Nat.le_refl _, .unfold rfl⟩
  | .loop .., s => .inr ⟨_, s, Nat.le_refl _, .unfold rfl⟩
  | .poll .., s => .inr ⟨_, s, Nat.le_refl _, .unfold rfl⟩

/-- Of several branches that are not all done one can go on. -/
theorem exists_later_branch : (branches : List Work) → (s : Session) →
    (∃ outcomes : List Outcome, branches = outcomes.map .done) ∨
      ∃ before w after, branches = before ++ w :: after ∧ ∃ b, Later templates (w, s) b
  | [], s => .inl ⟨[], rfl⟩
  | w :: rest, s => by
    rcases exists_later w s with ⟨outcome, rfl⟩ | hw
    · rcases exists_later_branch rest s with ⟨outcomes, rfl⟩ | ⟨before, v, after, rfl, hv⟩
      · exact .inl ⟨outcome :: outcomes, rfl⟩
      · exact .inr ⟨.done outcome :: before, v, after, rfl, hv⟩
    · exact .inr ⟨[], w, rest, rfl, hw⟩

end

/-! ## Coming to an end -/

/-- Work at a later time comes from work at an earlier time by one thing that is done. -/
def Follows (templates : Templates) (later earlier : Work × Nat) : Prop :=
  ∃ s s', earlier.2 ≤ s.clock ∧ Goes templates (earlier.1, s) (later.1, s') ∧ later.2 = s'.clock

/-- **From some time on nothing goes on for ever**, whatever others do to the session. -/
def Halts (templates : Templates) (w : Work) (time : Nat) : Prop :=
  Acc (Follows templates) (w, time)

theorem Follows.time_le {a b : Work × Nat} (h : Follows templates b a) : a.2 ≤ b.2 := by
  obtain ⟨s, s', hs, hgoes, hb⟩ := h
  have hclock : s'.clock = s.clock := hgoes.clock_eq
  omega

/-- What can be done from some time on can be done from an earlier time on. -/
theorem Follows.earlier {w : Work} {time time' : Nat} {b : Work × Nat}
    (h : Follows templates b (w, time')) (hle : time ≤ time') : Follows templates b (w, time) := by
  obtain ⟨s, s', hs, hgoes, hb⟩ := h
  exact ⟨s, s', Nat.le_trans hle hs, hgoes, hb⟩

namespace Halts

variable {w : Work} {time time' : Nat}

theorem later (h : w.Halts templates time) (hle : time ≤ time') : w.Halts templates time' :=
  .intro _ fun _ hb => h.inv (hb.earlier hle)

/-- **What halts has no endless runs.** -/
theorem not_endless {s : Session} (h : w.Halts templates s.clock) :
    ¬ ∃ run : Nat → Work × Session, run 0 = (w, s) ∧
      ∀ n, Later templates (run n) (run (n + 1)) := by
  rintro ⟨run, hstart, hrun⟩
  refine (acc_iff_isEmpty_descending_chain.1 h).false
    ⟨fun n => ((run n).1, (run n).2.clock), ?_, fun n => ?_⟩
  · exact congrArg (fun a : Work × Session => (a.1, a.2.clock)) hstart
  · obtain ⟨s', hs', hgoes⟩ := hrun n
    exact ⟨s', (run (n + 1)).2, hs', hgoes, rfl⟩

end Halts

section Rules

variable {time : Nat}

theorem halts_done (outcome : Outcome) : (Work.done outcome).Halts templates time := by
  refine .intro _ fun b hb => ?_
  obtain ⟨s, s', -, hgoes, -⟩ := hb
  cases hgoes with
  | unfold h => cases h

theorem halts_take {step : Step} {next : step.Yield → Work}
    (h : ∀ s : Session, time ≤ s.clock → (next (s.take step).1).Halts templates s.clock) :
    (Work.take step next).Halts templates time := by
  refine .intro _ fun b hb => ?_
  obtain ⟨s, s', hs, hgoes, htime⟩ := hb
  obtain ⟨w, time'⟩ := b
  cases htime
  have hclock := hgoes.clock_eq
  cases hgoes with
  | take =>
    refine (h s hs).later ?_
    exact Nat.le_of_eq hclock.symm
  | unfold h => cases h

theorem halts_waiting {due : Nat} {next : Unit → Work} (h : (next ()).Halts templates due) :
    (Work.waiting due next).Halts templates time := by
  refine .intro _ fun b hb => ?_
  obtain ⟨s, s', -, hgoes, htime⟩ := hb
  obtain ⟨w, time'⟩ := b
  cases htime
  cases hgoes with
  | wake hdue => exact h.later hdue
  | unfold h => cases h

theorem halts_pause {ms : Nat} {next : Unit → Work}
    (h : (next ()).Halts templates (time + min ms Session.longestPause)) :
    (Work.pause ms next).Halts templates time := by
  refine .intro _ fun b hb => ?_
  obtain ⟨s, s', hs, hgoes, htime⟩ := hb
  obtain ⟨w, time'⟩ := b
  cases htime
  cases hgoes with
  | pause => exact halts_waiting (h.later (Nat.add_le_add_right hs _))
  | unfold h => cases h

theorem halts_unfold {w w' : Work} (hunfold : w.unfold templates = some w')
    (h : w'.Halts templates time) : w.Halts templates time := by
  refine .intro _ fun b hb => ?_
  obtain ⟨s, s', hs, hgoes, htime⟩ := hb
  obtain ⟨v, time'⟩ := b
  cases htime
  cases hgoes with
  | unfold hv =>
    rw [hunfold] at hv
    cases hv
    exact h.later hs
  | take | pause | wake | branch | join => cases hunfold

/-! ### Branches -/

/-- One of several branches goes on. -/
inductive FollowsIn (templates : Templates) : List Work × Nat → List Work × Nat → Prop where
  | here {w w' : Work} {rest : List Work} {time time' : Nat}
    (h : Follows templates (w', time') (w, time)) :
    FollowsIn templates (w' :: rest, time') (w :: rest, time)
  | there {w : Work} {rest rest' : List Work} {time time' : Nat}
    (h : FollowsIn templates (rest', time') (rest, time)) :
    FollowsIn templates (w :: rest', time') (w :: rest, time)

theorem FollowsIn.time_le {a b : List Work × Nat} (h : FollowsIn templates b a) : a.2 ≤ b.2 := by
  induction h with
  | here h => exact h.time_le
  | there _ ih => exact ih

theorem FollowsIn.of_append {before after : List Work} {w w' : Work} {time time' : Nat}
    (h : Follows templates (w', time') (w, time)) :
    FollowsIn templates (before ++ w' :: after, time') (before ++ w :: after, time) := by
  induction before with
  | nil => exact .here h
  | cons v rest ih => exact .there ih

theorem FollowsIn.earlier {ws : List Work} {time' : Nat} {b : List Work × Nat}
    (h : FollowsIn templates b (ws, time')) (hle : time ≤ time') :
    FollowsIn templates b (ws, time) := by
  generalize ha : (ws, time') = a at h
  induction h generalizing ws with
  | here h =>
    cases ha
    exact .here (h.earlier hle)
  | there _ ih =>
    cases ha
    exact .there (ih rfl)

/-- While one branch goes on, time passes for the others and nothing else. -/
theorem acc_cons {w : Work} {rest : List Work} (hw : w.Halts templates time)
    (hrest : Acc (FollowsIn templates) (rest, time)) :
    Acc (FollowsIn templates) (w :: rest, time) := by
  have hboth : ∀ a : Work × Nat, Acc (Follows templates) a → ∀ r : List Work × Nat,
      Acc (FollowsIn templates) r → a.2 ≤ r.2 → Acc (FollowsIn templates) (a.1 :: r.1, r.2) := by
    intro a ha
    induction ha with
    | intro a _ iha =>
      intro r hr
      induction hr with
      | intro r hr ihr =>
        intro hle
        refine .intro _ fun b hb => ?_
        cases hb with
        | @here _ w' _ _ time' h =>
          have hothers : Acc (FollowsIn templates) (r.1, time') :=
            .intro _ fun c hc => hr c (hc.earlier h.time_le)
          exact iha (w', time') (h.earlier hle) (r.1, time') hothers (Nat.le_refl _)
        | @there _ _ rest' _ time' h =>
          exact ihr (rest', time') h (Nat.le_trans hle h.time_le)
  exact hboth (w, time) hw (rest, time) hrest (Nat.le_refl _)

theorem acc_branches {branches : List Work} (h : ∀ w ∈ branches, w.Halts templates time) :
    Acc (FollowsIn templates) (branches, time) := by
  induction branches with
  | nil => exact .intro _ fun _ hb => nomatch hb
  | cons w rest ih =>
    exact acc_cons (h w List.mem_cons_self) (ih fun v hv => h v (List.mem_cons_of_mem _ hv))

/-- Branches come to an end if each of them does, in whatever order they go on. -/
theorem halts_fork {branches : List Work} {join : List Outcome → Work}
    (hb : ∀ w ∈ branches, w.Halts templates time)
    (hj : ∀ outcomes time', time ≤ time' → (join outcomes).Halts templates time') :
    (Work.fork branches join).Halts templates time := by
  have hfork : ∀ a : List Work × Nat, Acc (FollowsIn templates) a → time ≤ a.2 →
      (Work.fork a.1 join).Halts templates a.2 := by
    intro a ha
    induction ha with
    | intro a _ ih =>
      intro hle
      refine .intro _ fun b hb => ?_
      obtain ⟨s, s', hs, hgoes, htime⟩ := hb
      obtain ⟨w, time'⟩ := b
      obtain ⟨branches, time₀⟩ := a
      cases htime
      have hclock := hgoes.clock_eq
      cases hgoes with
      | @branch before after _ v v' _ _ h =>
        refine ih (before ++ v' :: after, s'.clock) (.of_append ⟨s, s', hs, h, rfl⟩) ?_
        show time ≤ s'.clock
        rw [show s'.clock = s.clock from hclock]
        exact Nat.le_trans hle hs
      | join => exact hj _ _ (Nat.le_trans hle hs)
      | unfold h => cases h
  exact hfork (branches, time) (acc_branches hb) (Nat.le_refl _)

end Rules

end Work
end Scenario
