import Mathlib.Data.List.Chain
import Scenario.Proofs.Suite.Events

/-!
# Where a failure comes from

A failure passes through every action around it, each of which reports it with what it has failed
with itself, and ends up in the result of the run.  There are thus three views of one failure: the
nested failure, the reports, and the result.  This file ties them together, for actions that let
every failure pass: `Action.IsPlain` leaves out the one that swallows failures and the one that
gathers those of its branches.

What carries the induction is that the actions on the way are those that are open when the failure
happens, so a log ends by closing just these, from the inside out (`Unwinds`).

## What is here

* `Trail` — the way of a failure: who raised it, and what each action around has made of it.
  `Trail.head?_eq`, `Trail.getLast?_eq`, `Trail.layers_eq` and `Trail.isChain` read it off.
* `Logs.explained` — every log of plain actions unwinds a trail of the failure that it ends with.
* `TestCase.FailsBy` and `Suite.Yields.failsBy` — the three views agree in every run that fails.
-/

set_option autoImplicit false

namespace Scenario

/-! ## Trails -/

/-- What an action fails with if something inside of it has failed. -/
def Action.passOn : Action → Failure → Failure
  | .callTemplate name _ _, f => .template name f
  | _, f => f

/-- The template whose body an action runs. -/
def Action.template? : Action → Option String
  | .callTemplate name _ _ => some name
  | _ => none

/-- The way of a failure: the action that raised it, and then each action that it came through, with
what this failed with. -/
inductive Trail (templates : Templates) : Action → Failure → List (Action × Failure) → Prop where
  | raised {action : Action} {f : Failure} (hf : f.IsBare) : Trail templates action f [(action, f)]
  | passed {action inner : Action} {f : Failure} {trail : List (Action × Failure)}
    (hinner : action.Holds templates inner) (h : Trail templates inner f trail) :
    Trail templates action (action.passOn f) (trail ++ [(action, action.passOn f)])

namespace Trail

variable {templates : Templates} {action : Action} {f : Failure} {trail : List (Action × Failure)}

theorem ne_nil (h : Trail templates action f trail) : trail ≠ [] := by
  cases h <;> simp

/-- The last one is the action itself. -/
theorem getLast?_eq (h : Trail templates action f trail) : trail.getLast? = some (action, f) := by
  cases h <;> simp

theorem rootCause_eq_self {f : Failure} (hf : f.IsBare) : f.rootCause = f := by
  cases f <;> first | rfl | cases hf

/-- The first one raised what is inside all templates. -/
theorem head?_eq (h : Trail templates action f trail) :
    ∃ first, trail.head? = some (first, f.rootCause) := by
  induction h with
  | @raised action f hf => exact ⟨action, by rw [rootCause_eq_self hf]; rfl⟩
  | @passed action inner f trail _ h ih =>
    obtain ⟨first, hfirst⟩ := ih
    refine ⟨first, ?_⟩
    rw [List.head?_append, hfirst, Option.some_or]
    cases action <;> rfl

/-- A failure is wrapped once for each template that it came through. -/
theorem layers_eq (h : Trail templates action f trail) :
    f.layers = (trail.tail.filterMap (·.1.template?)).reverse := by
  induction h with
  | raised hf => exact hf
  | @passed action inner f trail _ h ih =>
    rw [List.tail_append_of_ne_nil h.ne_nil, List.filterMap_append, List.reverse_append, ← ih]
    cases action <;> rfl

/-- Each action holds the one before it, and passes on what that has failed with. -/
theorem isChain (h : Trail templates action f trail) :
    trail.IsChain fun inner outer =>
      outer.1.Holds templates inner.1 ∧ outer.2 = outer.1.passOn inner.2 := by
  induction h with
  | raised => exact .singleton _
  | @passed action inner f trail hinner h ih =>
    refine List.isChain_append.2 ⟨ih, .singleton _, fun x hx y hy => ?_⟩
    rw [h.getLast?_eq] at hx
    cases hx
    cases hy
    exact ⟨hinner, rfl⟩

end Trail

/-! ## Logs of failures -/

/-- What a report that an action has failed says. -/
def Occurrence.failure? : Occurrence → Option (String × String)
  | .actionFailed action reason _ => some (action, reason)
  | _ => none

/-- Whether a log ends as the actions of a trail fail one after the other, which are those that are
open then and were not before, and nothing has failed before. -/
def Unwinds (names : List String) (log : List Occurrence) (trail : List (Action × Failure)) :
    Prop :=
  ∃ before closing, log = before ++ closing ∧ (∀ what ∈ before, what.failure? = none) ∧
    openActions names before = some (trail.map (·.1.name) ++ names) ∧
    closing.map Occurrence.failure? = trail.map fun p => some (p.1.name, p.2.message)

namespace Unwinds

variable {names : List String} {log more : List Occurrence} {trail : List (Action × Failure)}

theorem of_isIncidental (h : ∀ what ∈ log, what.isIncidental) : Unwinds names log [] := by
  refine ⟨log, [], (List.append_nil log).symm, fun what hwhat => ?_,
    openActions_of_isIncidental names h, rfl⟩
  have hincidental := h what hwhat
  cases what <;> first | rfl | cases hincidental

theorem nil : Unwinds names [] [] := of_isIncidental nofun

/-- What lies before and has left nothing open. -/
theorem append (h : Unwinds names log []) (hmore : Unwinds names more trail) :
    Unwinds names (log ++ more) trail := by
  obtain ⟨before, closing, rfl, hbefore, hopened, hclosing⟩ := h
  obtain ⟨before', closing', rfl, hbefore', hopened', hclosing'⟩ := hmore
  obtain rfl : closing = [] := List.map_eq_nil_iff.1 hclosing
  refine ⟨before ++ before', closing', by simp, List.forall_mem_append.2 ⟨hbefore, hbefore'⟩, ?_,
    hclosing'⟩
  rw [openActions_append, hopened]
  exact hopened'

/-- An action that succeeds leaves nothing open. -/
theorem succeeded {name : String} (h : Unwinds (name :: names) log []) (duration : Binary64) :
    Unwinds names (.actionStarted name :: (log ++ [.actionSucceeded name duration])) [] := by
  obtain ⟨before, closing, rfl, hbefore, hopened, hclosing⟩ := h
  obtain rfl : closing = [] := List.map_eq_nil_iff.1 hclosing
  refine ⟨.actionStarted name :: (before ++ [.actionSucceeded name duration]), [], by simp, ?_, ?_,
    rfl⟩
  · exact List.forall_mem_cons.2 ⟨rfl, List.forall_mem_append.2
      ⟨hbefore, List.forall_mem_singleton.2 rfl⟩⟩
  · show openActions (name :: names) (before ++ [_]) = _
    rw [openActions_append, hopened]
    simp [openActions, Occurrence.stack]

/-- An action that fails is the next one of the trail. -/
theorem failed {action : Action} (h : Unwinds (action.name :: names) log trail) (f : Failure)
    (duration : Binary64) :
    Unwinds names (.actionStarted action.name ::
      (log ++ [.actionFailed action.name f.message duration])) (trail ++ [(action, f)]) := by
  obtain ⟨before, closing, rfl, hbefore, hopened, hclosing⟩ := h
  refine ⟨.actionStarted action.name :: before,
    closing ++ [.actionFailed action.name f.message duration], by simp, ?_, ?_, ?_⟩
  · exact List.forall_mem_cons.2 ⟨rfl, hbefore⟩
  · show openActions (action.name :: names) before = _
    rw [hopened]
    simp
  · simp [hclosing, Occurrence.failure?]

/-- The failures that such a log reports are those of the trail. -/
theorem filterMap_failure? (h : Unwinds names log trail) :
    log.filterMap Occurrence.failure? = trail.map fun p => (p.1.name, p.2.message) := by
  obtain ⟨before, closing, rfl, hbefore, -, hclosing⟩ := h
  have hmap : closing.filterMap Occurrence.failure? =
      (closing.map Occurrence.failure?).filterMap id := by rw [List.filterMap_map]; rfl
  rw [List.filterMap_append, List.filterMap_eq_nil_iff.2 hbefore, List.nil_append, hmap, hclosing,
    List.filterMap_map]
  exact congrFun List.filterMap_eq_map trail

end Unwinds

/-- Whether an action neither swallows failures nor runs others side by side, and does not send
through a transport that makes up failures of templates. -/
def Action.IsPlain : Action → Prop
  | .assertFailure _ _ => False
  | .parallel _ _ _ => False
  | .send e _ => ∀ d name cause, e.transport.respond d ≠ .failure (.template name cause)
  | _ => True

theorem Action.Raises.isBare {action : Action} {f : Failure} (h : action.Raises f)
    (hplain : action.IsPlain) : f.IsBare := by
  cases action with
  | send e draft =>
    rcases h with h | ⟨d, hd⟩
    · exact h
    · cases f with
      | template name cause => exact absurd hd (hplain d name cause)
      | _ => rfl
  | _ => exact h

/-- Whether a stretch fails because of what has happened on a trail. -/
def Stretch.FailsBy (templates : Templates) (f : Failure) (trail : List (Action × Failure)) :
    Stretch → Prop
  | .life action => Trail templates action f trail
  | .inside action => Trail templates action f (trail ++ [(action, f)])
  | .all actions => ∃ action ∈ actions, Trail templates action f trail
  | .passes actions => f.IsBare ∧ trail = [] ∨ ∃ action ∈ actions, Trail templates action f trail

/-- Whether a log is what the outcome says: nothing has failed, or it unwinds what has failed. -/
def Explained (templates : Templates) (stretch : Stretch) (names : List String)
    (log : List Occurrence) : Outcome → Prop
  | .ok _ => Unwinds names log []
  | .error f => ∃ trail, stretch.FailsBy templates f trail ∧ Unwinds names log trail

/-- **Every log unwinds the failure that it ends with**, by induction on the log. -/
theorem Logs.explained {templates : Templates} {stretch : Stretch} {log : List Occurrence}
    {outcome : Outcome} (h : Logs templates stretch log outcome)
    (hplain : stretch.Throughout templates Action.IsPlain) (names : List String) :
    Explained templates stretch names log outcome := by
  induction h generalizing names with
  | @life action log outcome duration h ih =>
    have hinner := ih hplain (action.name :: names)
    cases outcome with
    | ok _ => exact hinner.succeeded duration
    | error f =>
      obtain ⟨trail, htrail, hunwinds⟩ := hinner
      exact ⟨_, htrail, hunwinds.failed f duration⟩
  | @simple action log outcome _ hlog hraises =>
    cases outcome with
    | ok _ => exact .of_isIncidental hlog
    | error f =>
      exact ⟨[], .raised ((hraises f rfl).isBare hplain.self), .of_isIncidental hlog⟩
  | assertFailure => exact hplain.self.elim
  | refused hf => exact ⟨[], .raised hf, .nil⟩
  | @called name arguments sharing t log outcome ht h ih =>
    have hheld {a : Action} (ha : a ∈ t.body) :
        (Action.callTemplate name arguments sharing).Holds templates a := ⟨t, ht, ha⟩
    have hbody := ih (fun a ha => hplain.inside (hheld ha)) names
    cases outcome with
    | ok _ => exact hbody
    | error f =>
      obtain ⟨trail, ⟨action, haction, htrail⟩, hunwinds⟩ := hbody
      exact ⟨trail, .passed (hheld haction) htrail, hunwinds⟩
  | @sequence name sharing actions log outcome h ih =>
    have hinner := ih (fun a ha => hplain.inside ha) names
    cases outcome with
    | ok _ => exact hinner
    | error f =>
      obtain ⟨trail, ⟨action, haction, htrail⟩, hunwinds⟩ := hinner
      have hheld : (Action.sequence name sharing actions).Holds templates action := haction
      exact ⟨trail, .passed hheld htrail, hunwinds⟩
  | parallel => exact hplain.self.elim
  | @iterate loop actions log outcome h ih =>
    have hinner := ih (fun a ha => hplain.inside ha) names
    cases outcome with
    | ok _ => exact hinner
    | error f =>
      obtain ⟨trail, ⟨hf, rfl⟩ | ⟨action, haction, htrail⟩, hunwinds⟩ := hinner
      · exact ⟨[], .raised hf, hunwinds⟩
      · have hheld : (Action.iterate loop actions).Holds templates action := haction
        exact ⟨trail, .passed hheld htrail, hunwinds⟩
  | none => exact .nil
  | failed _ ih =>
    obtain ⟨trail, htrail, hunwinds⟩ := ih (hplain _ List.mem_cons_self) names
    exact ⟨trail, ⟨_, List.mem_cons_self, htrail⟩, hunwinds⟩
  | @next action rest log more outcome _ _ ih ihrest =>
    have hfirst : Unwinds names log [] := ih (hplain _ List.mem_cons_self) names
    have hrest := ihrest (fun a ha => hplain a (List.mem_cons_of_mem _ ha)) names
    cases outcome with
    | ok _ => exact hfirst.append hrest
    | error f =>
      obtain ⟨trail, ⟨a, ha, htrail⟩, hunwinds⟩ := hrest
      exact ⟨trail, ⟨a, List.mem_cons_of_mem _ ha, htrail⟩, hfirst.append hunwinds⟩
  | @stopped actions outcome hraises =>
    cases outcome with
    | ok _ => exact .nil
    | error f => exact ⟨[], .inl ⟨hraises f rfl, rfl⟩, .nil⟩
  | passFailed _ ih =>
    obtain ⟨trail, htrail, hunwinds⟩ := ih hplain names
    exact ⟨trail, .inr htrail, hunwinds⟩
  | @pass actions log more outcome _ _ ih ihrest =>
    have hfirst : Unwinds names log [] := ih hplain names
    have hrest := ihrest hplain names
    cases outcome with
    | ok _ => exact hfirst.append hrest
    | error f =>
      obtain ⟨trail, htrail, hunwinds⟩ := hrest
      exact ⟨trail, htrail, hfirst.append hunwinds⟩

/-! ## Runs that fail -/

/-- Whether the events of a run of a test case tell how it has come to fail. -/
structure TestCase.FailsBy (t : TestCase) (templates : Templates) (e : Failure)
    (events : List Event) (trail : List (Action × Failure)) : Prop where
  /-- The actions of the trail are those that have failed, each once and the innermost first. -/
  reported : events.filterMap (·.what.failure?) = trail.map fun p => (p.1.name, p.2.message)
  /-- They are the actions that have started and not ended when the first of them fails. -/
  opened : ∃ before after, events.map (·.what) = before ++ after ∧
    (∀ what ∈ before, what.failure? = none) ∧
    openActions [] before = some (trail.map (·.1.name))
  nested : trail.IsChain fun inner outer =>
    outer.1.Holds templates inner.1 ∧ outer.2 = outer.1.passOn inner.2
  innermost : ∃ action, trail.head? = some (action, e.rootCause)
  outermost : ∃ action ∈ t.actions, trail.getLast? = some (action, e)
  /-- The templates whose bodies the innermost action is in. -/
  layers : e.layers = (trail.tail.filterMap (·.1.template?)).reverse

/-- **Where a failure comes from.**  If a run fails then its reports, the failure itself and the
result agree on how it came to that: from the innermost action out, with the name of a template
around it for each body that it has left. -/
theorem Suite.Yields.failsBy {suite : Suite} {session ended : Session} {t : TestCase}
    {result : TestResult} {e : Failure} (h : suite.Yields session t result ended)
    (hplain : ∀ a ∈ t.actions, a.Throughout suite.templates Action.IsPlain)
    (he : result.outcome = .error e) :
    ∃ events trail, ended.events.toList = session.events.toList ++ events ∧
      t.FailsBy suite.templates e events trail ∧
      result.fields.get? "error" = some (.string e.message) ∧
      result.fields.get? "error_kind" = some (.string e.kind) := by
  obtain ⟨events, log, duration, hevents, hreports⟩ := h.reports
  have hlogs := hreports.logs
  rw [he] at hlogs
  obtain ⟨trail, ⟨action, haction, htrail⟩, hunwinds⟩ := hlogs.explained hplain []
  have hfields : result.fields.get? "error" = some (.string e.message) ∧
      result.fields.get? "error_kind" = some (.string e.kind) := by
    rw [TestResult.fields, he]
    exact ⟨rfl, rfl⟩
  refine ⟨events, trail, hevents, ⟨?_, ?_, htrail.isChain, htrail.head?_eq,
    ⟨action, haction, htrail.getLast?_eq⟩, htrail.layers_eq⟩, hfields⟩
  · have hmap : events.filterMap (·.what.failure?) =
        (events.map (·.what)).filterMap Occurrence.failure? := by rw [List.filterMap_map]; rfl
    rw [hmap, hreports.events, ← hunwinds.filterMap_failure?,
      List.filterMap_cons_none rfl, List.filterMap_append]
    exact List.append_nil _
  · obtain ⟨before, closing, rfl, hbefore, hopened, -⟩ := hunwinds
    refine ⟨.testStarted t.name :: before,
      closing ++ [.testFinished t.name result.success duration], ?_,
      List.forall_mem_cons.2 ⟨rfl, hbefore⟩, ?_⟩
    · rw [hreports.events, List.append_assoc, List.cons_append]
    · show openActions [] before = _
      rwa [List.append_nil] at hopened

/-- A template fails in a loop in the body of another one, in a call that binds a parameter. -/
theorem failsBy_nested_templates :
    let inner : Template := { name := "inner", body := [.echo "a", .fail "no $\x7bx\x7d"] }
    let outer : Template := { name := "outer", body := [.sequence "s" .isolated
      [.iterate { bound := .count 2 } [.callTemplate "inner" [("x", .string "1")] none]]] }
    let suite : Suite := { templates := [("inner", inner), ("outer", outer)] }
    let t : TestCase := { name := "n", actions := [.echo "b", .callTemplate "outer" [] none] }
    ∃ e, (suite.run {} t).1.outcome = .error e ∧ e.layers = ["outer", "inner"] ∧
      e.rootCause.message = "no 1" ∧
      ∃ events trail, (suite.run {} t).2.events.toList = events ∧
        t.FailsBy suite.templates e events trail := by
  intro inner outer suite t
  let ctx : Context := (({} : Session).begin suite.library .empty (some t.name)).1
  let begun : Session := (({} : Session).begin suite.library .empty (some t.name)).2
  have hend : ((suite.course ctx t).start begun).1.result?.map (fun
        | .ok _ => none
        | .error f => some (f.layers, f.rootCause.message)) =
      some (some (["outer", "inner"], "no 1")) := by
    decide +kernel
  obtain ⟨outcome, houtcome, hfails⟩ := Option.map_eq_some_iff.1 hend
  cases outcome with
  | ok _ => cases hfails
  | error e =>
    have hrun : begun.run (suite.course ctx t) = _ := Session.run_of_result? houtcome
    have he : (suite.run {} t).1.outcome = .error e := congrArg Prod.fst hrun
    have hinner {name : Json} : (Action.callTemplate "inner" [("x", name)] none).Throughout
        suite.templates Action.IsPlain := by
      refine .of_inside trivial ?_
      rintro b ⟨t, ⟨⟩, hb⟩
      revert b
      exact List.forall_mem_cons.2 ⟨.of_isSimple rfl trivial,
        List.forall_mem_singleton.2 (.of_isSimple rfl trivial)⟩
    have houter : (Action.callTemplate "outer" [] none).Throughout
        suite.templates Action.IsPlain := by
      refine .of_inside trivial ?_
      rintro b ⟨t, ⟨⟩, hb⟩
      cases List.mem_singleton.1 hb
      refine .of_inside trivial (List.forall_mem_singleton.2 ?_)
      exact .of_inside trivial (List.forall_mem_singleton.2 hinner)
    obtain ⟨events, trail, hevents, hfailsBy, -⟩ := (suite.yields_run {} t).failsBy
      (List.forall_mem_cons.2 ⟨.of_isSimple rfl trivial, List.forall_mem_singleton.2 houter⟩) he
    have hfailure : (e.layers, e.rootCause.message) = (["outer", "inner"], "no 1") :=
      Option.some.inj hfails
    exact ⟨e, he, congrArg Prod.fst hfailure, congrArg Prod.snd hfailure, events, trail, hevents,
      hfailsBy⟩

end Scenario
