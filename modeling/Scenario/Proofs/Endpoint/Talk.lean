import Scenario.Proofs.Action.Isolation
import Scenario.Proofs.Correlation.Prompt
import Scenario.Proofs.Endpoint.Script
import Scenario.Proofs.Session.Part

/-!
# Branches that talk to an endpoint

A branch sends a message and later receives the reply to it.  Between the two it has nothing but a
variable to remember the key by, and other branches that use the same endpoint have a variable of
the same name.  What keeps them apart is that each has a scope of its own.

This file follows one branch through its script, while other branches and replies that arrive go on
as they like.  Where it is in its script says what is in its variable and what it has done to the
table: first nothing, then only what is done on behalf of its message, and from the moment it
receives it is a find under the key of this message.

## What is here

* `Talk` is such a branch, and `Party` what goes on at the endpoint: branches, and replies that
  arrive by themselves.
* `Endpoint.Finding` — what is known of a strand that looks for a reply, and
  `Endpoint.Finding.result_iff` what a receive makes of it.
* `Talk.Phase` — where a branch is in its script.  `Talk.Phase.advance` says what the branch itself
  makes of it, by one lemma for each way from a phase to the next, and `Talk.Phase.append` what
  others do.  So `Talk.phase_play` describes every branch of a run.
* `Talk.Phase.handles`, `Talk.Phase.finding_of_result` and `Talk.Phase.result_of_handed` — what can
  be read off a phase.
-/

set_option autoImplicit false

namespace Scenario

open Correlation

/-! ## Branches and replies -/

/-- A branch that sends a message through an endpoint and later receives the reply to it. -/
structure Talk (e : Endpoint) where
  ctx : Context
  /-- What is done until there is a message. -/
  before : Activity Message
  /-- What is done between the send and the receive. -/
  between : Activity Unit
  timeout : Option Nat
  before_spares : before.run.Obeys Step.Spares fun _ => True
  before_minds : before.run.Minds {ctx.scope}
  between_spares : between.run.Obeys
    (fun step => step.Spares ∧ ∀ v, step ≠ .write ctx.scope e.keyName v) fun _ => True
  between_minds : between.run.Minds {ctx.scope}

/-- What goes on at an endpoint. -/
inductive Party (e : Endpoint) where
  | branch (talk : Talk e)
  /-- A reply that arrives by itself, from the transport at a later time or from elsewhere. -/
  | delivery (reply : Message)

namespace Talk

variable {e : Endpoint} (t : Talk e)

/-- How long the receive waits. -/
def patience : Nat := t.timeout.getD e.settings.timeout

/-- What the branch does with a message. -/
def converse (request : Message) : Activity Message := do
  e.send t.ctx request
  t.between
  e.receive t.ctx t.timeout

/-- What the branch does. -/
def activity : Activity Message := do
  let request ← t.before
  t.converse request

/-- Whether the branch can come to a message with some key. -/
def Makes (request : Message) (k : String) : Prop :=
  t.before.run.Ends (.ok request) ∧ e.correlator.requestKey? request = some k

/-- What the branch does between registering a message and receiving the reply. -/
def wait (request : Message) (k : String) : Activity Unit := do
  e.transmit t.ctx request k
  t.between

end Talk

namespace Party

variable {e : Endpoint}

/-- The script of a party.  A branch ends with what it has received. -/
def script : Party e → Script (Except Failure Message)
  | branch t => t.activity.run
  | delivery reply => (do
      e.accept reply
      return reply : Activity Message).run

/-- The scopes that a party writes to. -/
def owns : Party e → Set Nat
  | branch t => {t.ctx.scope}
  | delivery _ => ∅

end Party

namespace Talk

variable {e : Endpoint} {t : Talk e} {request : Message} {k : String}

theorem converse_eq (hk : e.correlator.requestKey? request = some k) :
    (t.converse request).run =
      .take (.write t.ctx.scope e.keyName (.string k)) fun _ =>
        .take (.createKey e.manager k) fun _ =>
          (t.wait request k).run.bind (ExceptT.bindCont fun _ => e.receive t.ctx t.timeout) := by
  show (e.send t.ctx request).run.bind _ = _
  rw [Endpoint.send_eq hk]
  show Script.take _ (fun _ => Script.take _ fun _ => ExceptT.run
    (e.transmit t.ctx request k >>= fun _ => t.between >>= fun _ => e.receive t.ctx t.timeout)) = _
  simp only [← bind_assoc]
  rfl

theorem converse_eq_of_none (hk : e.correlator.requestKey? request = none) :
    (t.converse request).run = .done (.error (.missingKey e.keyName)) := by
  show (e.send t.ctx request).run.bind _ = _
  rw [Endpoint.send_eq_of_none hk]
  rfl

theorem obeys_wait (hvariable : e.settings.messageIdVariable ≠ some e.keyName) :
    (t.wait request k).run.Obeys (e.Tends t.ctx request k) fun _ => True :=
  Activity.obeys_bind (Endpoint.obeys_transmit hvariable) (fun _ _ => trivial) fun _ _ =>
    t.between_spares.mono (fun _ h => Endpoint.tends_of_spares h.1 h.2) fun _ _ => trivial

end Talk

theorem Party.minds_script {e : Endpoint} (party : Party e) : party.script.Minds party.owns := by
  cases party with
  | branch t =>
    refine Activity.minds_bind t.before_minds fun request => ?_
    refine Activity.minds_bind (e.minds_send (Set.mem_singleton _) request) fun _ => ?_
    exact Activity.minds_bind t.between_minds fun _ => e.minds_receive t.timeout
  | delivery reply => exact Activity.minds_bind (e.minds_accept reply) fun _ => trivial

/-! ## What a branch has done -/

namespace Endpoint

/-- A strand has registered a key. -/
def Registered (e : Endpoint) (h : List Happening) (i : Nat) (k : String) : Prop :=
  ∃ ev ∈ h, ev.strand = i ∧ ev.deed = ⟨e.manager, k, .create⟩

/-- What is known of a strand that looks for the reply to its message. -/
structure Finding {ι : Type} (e : Endpoint) (request : Message) (k : String) (timeout : Nat)
    (prompt : Prop) (h : List Happening) (i : Nat) (σ : Strand ι Call.Answer) : Prop where
  registered : e.Registered h i k
  obeys : σ.Obeys (e.ActsFor request k) (Call.Answers (.find k timeout)) h i
  answered : Pool.Answered h i σ
  timed : Timed e.manager k timeout prompt h i σ

variable {ι : Type} {e : Endpoint} {request : Message} {k : String} {timeout : Nat} {prompt : Prop}
  {h : List Happening} {i : Nat}

theorem Registered.mono {h' : List Happening} (hr : e.Registered h i k) (hh : h <+: h') :
    e.Registered h' i k := by
  obtain ⟨ev, hev, hreg⟩ := hr
  exact ⟨ev, List.IsPrefix.mem hev hh, hreg⟩

/-- All that it has done was for its message. -/
theorem Finding.handles {σ : Strand ι Call.Answer} (f : e.Finding request k timeout prompt h i σ) :
    ∀ ev ∈ h, ev.strand = i → e.Handles request k ev.deed := by
  intro ev hev hi
  obtain ⟨step, hacts, hdoes⟩ := f.obeys.past ev hev hi
  exact hacts _ hdoes

theorem Finding.append {σ : Strand ι Call.Answer} (f : e.Finding request k timeout prompt h i σ)
    {others : List Happening} (hothers : ∀ ev ∈ others, ev.strand ≠ i) :
    e.Finding request k timeout prompt (h ++ others) i σ :=
  ⟨f.registered.mono (List.prefix_append ..), f.obeys.append hothers, f.answered.append hothers,
    f.timed.append hothers⟩

theorem Finding.advance {p : Pool ι Call.Answer} {σ : Strand ι Call.Answer}
    (f : e.Finding request k timeout prompt p.history i σ) (order : List String)
    (hpast : ∀ ev ∈ p.history, ev.time ≤ p.session.clock) (hdue : σ.due ≤ p.session.clock)
    (hprompt : prompt → σ.result? = none → p.session.clock ≤ σ.due) :
    e.Finding request k timeout prompt (p.advance i σ order).history i
      (σ.go p.session order).2.1 :=
  ⟨f.registered.mono (Pool.history_prefix_advance ..), f.obeys.advance order,
    f.answered.advance order, f.timed.advance order hpast hdue hprompt⟩

section Concluded

variable {ι α : Type} {e : Endpoint} {ctx : Context} {request reply : Message} {k : String}
  {timeout : Nat} {prompt : Prop} {h : List Happening} {i : Nat}
  {σ : Strand ι (Except Failure Message)} {τ : Strand ι Call.Answer}

/-- A find ends with a reply, or it fails because its time has run out. -/
theorem Finding.answer (finds : e.Finding request k timeout prompt h i τ) {answer : Call.Answer}
    (hanswer : τ.result? = some answer) :
    (∃ reply, answer = .ok (some reply)) ∨ ∃ f, answer = .error f := by
  have hscript := finds.obeys.script
  rw [(Strand.result?_eq_some.1 hanswer).2] at hscript
  exact hscript.imp_right fun h => ⟨_, h⟩

/-- A receive ends with a reply just if its find does. -/
theorem Finding.result_iff (finds : e.Finding request k timeout prompt h i τ)
    (follows : σ.Follows τ (e.concluded ctx k)) :
    σ.result? = some (.ok reply) ↔ τ.result? = some (.ok (some reply)) := by
  constructor
  · intro hσ
    cases hτ : τ.result? with
    | none => exact absurd (hσ.symm.trans (follows.result?_eq_none hτ)) nofun
    | some answer =>
      obtain ⟨-, hscript⟩ := follows.ended hτ
      rw [(Strand.result?_eq_some.1 hσ).2] at hscript
      rcases finds.answer hτ with ⟨reply', rfl⟩ | ⟨f, rfl⟩
      · cases hscript
        rfl
      · rw [concluded] at hscript
        by_cases hf : f.isTimeout
        · rw [if_pos hf] at hscript
          cases hscript
        · rw [if_neg hf] at hscript
          cases hscript
  · intro hτ
    exact Strand.result?_eq_some.2 (follows.ended hτ)

end Concluded

end Endpoint

/-! ## Where a branch is in its script -/

/-- Where a branch is in its script, and what it has done so far.  `store` are the variables of its
scope. -/
inductive Talk.Phase {e : Endpoint} (t : Talk e) (prompt : Prop) (store : Store)
    (h : List Happening) (i : Nat) (σ : Strand (Party e) (Except Failure Message)) : Prop where
  /-- It has not come to its message yet, or it has failed on the way. -/
  | preparing (τ : Strand (Party e) (Except Failure Message))
    (obeys : τ.Obeys Step.Spares (fun outcome => t.before.run.Ends outcome) h i)
    (follows : σ.Follows τ (ExceptT.bindCont t.converse))
  | registering (request : Message) (k : String) (made : t.Makes request k)
    (silent : ∀ ev ∈ h, ev.strand ≠ i)
    (remembered : store.get? e.keyName = some (.string k)) (pending : σ.pending = [])
    (script : σ.script = .take (.createKey e.manager k) fun _ =>
      (t.wait request k).run.bind (ExceptT.bindCont fun _ => e.receive t.ctx t.timeout))
  /-- It has registered its message and does not receive yet, or it has failed before it could. -/
  | waiting (request : Message) (k : String) (made : t.Makes request k)
    (registered : e.Registered h i k) (remembered : store.get? e.keyName = some (.string k))
    (τ : Strand (Party e) (Except Failure Unit))
    (obeys : τ.Obeys (e.Tends t.ctx request k) (fun _ => True) h i)
    (follows : σ.Follows τ (ExceptT.bindCont fun _ => e.receive t.ctx t.timeout))
  | receiving (request : Message) (k : String) (made : t.Makes request k)
    (τ : Strand (Party e) Call.Answer) (finds : e.Finding request k t.patience prompt h i τ)
    (follows : σ.Follows τ (e.concluded t.ctx k))
  /-- It has received nothing and reported that. -/
  | failed (request : Message) (k : String) (made : t.Makes request k)
    (τ : Strand (Party e) Call.Answer) (finds : e.Finding request k t.patience prompt h i τ)
    (f : Failure) (ended : τ.result? = some (.error f)) (result : σ.result? = some (.error f))

namespace Talk.Phase

variable {e : Endpoint} {t : Talk e} {prompt : Prop} {i : Nat}
  {σ : Strand (Party e) (Except Failure Message)}

/-- What others do leaves a branch where it is. -/
theorem append {store : Store} {h : List Happening} (o : t.Phase prompt store h i σ)
    {others : List Happening} (hothers : ∀ ev ∈ others, ev.strand ≠ i) :
    t.Phase prompt store (h ++ others) i σ := by
  have hh : h <+: h ++ others := List.prefix_append h others
  cases o with
  | preparing τ obeys follows => exact .preparing τ (obeys.append hothers) follows
  | registering request k made silent remembered pending script =>
    refine .registering request k made (fun ev hev => ?_) remembered pending script
    exact (List.mem_append.1 hev).elim (silent ev) (hothers ev)
  | waiting request k made registered remembered τ obeys follows =>
    exact .waiting request k made (registered.mono hh) remembered τ (obeys.append hothers) follows
  | receiving request k made τ finds follows =>
    exact .receiving request k made τ (finds.append hothers) follows
  | failed request k made τ finds f ended result =>
    exact .failed request k made τ (finds.append hothers) f ended result

section Advance

variable {p : Pool (Party e) (Except Failure Message)} {order : List String}

/-- A branch that does nothing to the table is where its next step has brought it. -/
theorem advance_of_go {σ' : Strand (Party e) (Except Failure Message)} {s' : Session}
    (hgo : σ.go p.session order = (none, σ', s'))
    (o : t.Phase prompt (s'.store t.ctx.scope) p.history i σ') :
    t.Phase prompt ((p.advance i σ order).session.store t.ctx.scope) (p.advance i σ order).history i
      (σ.go p.session order).2.1 := by
  have hsession : (p.advance i σ order).session = (σ.go p.session order).2.2 := rfl
  rw [Pool.history_advance_none (congrArg Prod.fst hgo), hsession, hgo]
  exact o

/-- A branch that has come to its message remembers the key, or it fails without one. -/
theorem advance_of_made {τ : Strand (Party e) (Except Failure Message)} {request : Message}
    (hscope : t.ctx.scope < p.session.scopes.length)
    (obeys : τ.Obeys Step.Spares (fun outcome => t.before.run.Ends outcome) p.history i)
    (follows : σ.Follows τ (ExceptT.bindCont t.converse)) (hτ : τ.result? = some (.ok request)) :
    t.Phase prompt ((p.advance i σ order).session.store t.ctx.scope) (p.advance i σ order).history i
      (σ.go p.session order).2.1 := by
  obtain ⟨hp, hs⟩ := follows.ended hτ
  have hs : σ.script = (t.converse request).run := hs
  cases hk : e.correlator.requestKey? request with
  | none =>
    rw [converse_eq_of_none hk] at hs
    exact advance_of_go (Strand.go_done hp hs) (.preparing τ obeys follows)
  | some k =>
    rw [converse_eq hk] at hs
    have hmade : t.before.run.Ends (.ok request) := by
      have hends := obeys.script
      rwa [(Strand.result?_eq_some.1 hτ).2] at hends
    have hsilent : ∀ ev ∈ p.history, ev.strand ≠ i := by
      intro ev hev hi
      obtain ⟨step, hspares, hdoes⟩ := obeys.past ev hev hi
      exact hspares _ hdoes
    have hwritten := Session.get?_store_changeStore hscope e.keyName (.string k) e.keyName
    exact advance_of_go (Strand.go_step hp hs rfl)
      (.registering request k ⟨hmade, hk⟩ hsilent (hwritten.trans (if_pos rfl)) hp rfl)

/-- A branch that has remembered the key registers it. -/
theorem advance_of_remembered {request : Message} {k : String}
    (hvariable : e.settings.messageIdVariable ≠ some e.keyName) (made : t.Makes request k)
    (silent : ∀ ev ∈ p.history, ev.strand ≠ i)
    (remembered : (p.session.store t.ctx.scope).get? e.keyName = some (.string k))
    (pending : σ.pending = [])
    (script : σ.script = .take (.createKey e.manager k) fun _ =>
      (t.wait request k).run.bind (ExceptT.bindCont fun _ => e.receive t.ctx t.timeout)) :
    t.Phase prompt ((p.advance i σ order).session.store t.ctx.scope) (p.advance i σ order).history i
      (σ.go p.session order).2.1 := by
  have hgo : σ.go p.session order = _ := Strand.go_step pending script rfl
  have hsession : (p.advance i σ order).session = (σ.go p.session order).2.2 := rfl
  rw [Pool.history_advance_some (congrArg Prod.fst hgo), hsession, hgo]
  refine .waiting request k made ⟨_, List.mem_append_right _ (List.mem_singleton.2 rfl), rfl, rfl⟩
    remembered ⟨σ.origin, 0, 0, σ.due, [], (t.wait request k).run⟩ ⟨fun ev hev hi => ?_, nofun,
      obeys_wait hvariable⟩ ⟨pending, rfl, rfl⟩
  rcases List.mem_append.1 hev with hev | hev
  · exact absurd hi (silent ev hev)
  · cases List.mem_singleton.1 hev
    refine ⟨.createKey e.manager k, ⟨?_, ?_, nofun⟩, rfl⟩
    · rintro d ⟨⟩
      exact ⟨rfl, .inr ⟨rfl, nofun, nofun⟩⟩
    · rintro d ⟨⟩
      nofun

/-- A branch that is done with waiting reads the key and becomes a find under it. -/
theorem advance_of_waited {request : Message} {k : String}
    {τ : Strand (Party e) (Except Failure Unit)}
    (hhanded : ∀ ev ∈ p.history, ev.deed.act ≠ .claim → ev.handed = none)
    (made : t.Makes request k) (registered : e.Registered p.history i k)
    (remembered : (p.session.store t.ctx.scope).get? e.keyName = some (.string k))
    (obeys : τ.Obeys (e.Tends t.ctx request k) (fun _ => True) p.history i)
    (follows : σ.Follows τ (ExceptT.bindCont fun _ => e.receive t.ctx t.timeout))
    (hτ : τ.result? = some (.ok ())) :
    t.Phase prompt ((p.advance i σ order).session.store t.ctx.scope) (p.advance i σ order).history i
      (σ.go p.session order).2.1 := by
  obtain ⟨hp, hs⟩ := follows.ended hτ
  obtain ⟨next, hreceive, hnext⟩ := @Endpoint.receive_eq e t.ctx t.timeout
  have hs : σ.script = .take (.read t.ctx.scope) next := hs.trans hreceive
  have hquiet : ∀ ev ∈ p.history, ev.strand = i → ev.deed.act ≠ .claim := by
    intro ev hev hi
    obtain ⟨step, htends, hdoes⟩ := obeys.past ev hev hi
    exact htends.claims _ hdoes
  refine advance_of_go (Strand.go_step hp hs rfl) (.receiving request k made
    ⟨σ.origin, 0, σ.due, σ.due, [], Call.script e.manager (.find k t.patience)⟩
    ⟨registered, ⟨?_, nofun, ?_⟩, ?_, ?_⟩ ⟨hp, rfl, ?_⟩)
  · exact (obeys.mono (fun _ htends => htends.acts) fun _ => id).past
  · exact (Call.obeys_script ..).mono (fun _ => Endpoint.actsFor_of_find) fun _ => id
  · exact .silent (fun ev hev hi => hhanded ev hev (hquiet ev hev hi)) nofun
      (Call.honest_script e.manager (.find k t.patience))
  · exact .starting hquiet rfl rfl rfl
  · exact (hnext _ k remembered).trans (Endpoint.receiveSelected_eq t.timeout)

/-- A branch whose find has ended returns the reply, or it reports that there is none and fails. -/
theorem advance_of_answered {request : Message} {k : String} {τ : Strand (Party e) Call.Answer}
    {answer : Call.Answer} (made : t.Makes request k)
    (finds : e.Finding request k t.patience prompt p.history i τ)
    (follows : σ.Follows τ (e.concluded t.ctx k)) (hτ : τ.result? = some answer) :
    t.Phase prompt ((p.advance i σ order).session.store t.ctx.scope) (p.advance i σ order).history i
      (σ.go p.session order).2.1 := by
  have o : t.Phase prompt (p.session.store t.ctx.scope) p.history i σ :=
    .receiving request k made τ finds follows
  obtain ⟨hp, hs⟩ := follows.ended hτ
  rcases finds.answer hτ with ⟨reply, rfl⟩ | ⟨f, rfl⟩
  · exact advance_of_go (Strand.go_done hp hs) o
  · rw [Endpoint.concluded] at hs
    by_cases hf : f.isTimeout
    · rw [if_pos hf] at hs
      exact advance_of_go (Strand.go_step hp hs rfl)
        (.failed request k made τ finds f hτ (Strand.result?_eq_some.2 ⟨hp, rfl⟩))
    · rw [if_neg hf] at hs
      exact advance_of_go (Strand.go_done hp hs) o

/-- **What a branch does next takes it on in its script.** -/
theorem advance (hvariable : e.settings.messageIdVariable ≠ some e.keyName)
    (hscope : t.ctx.scope < p.session.scopes.length)
    (hhanded : ∀ ev ∈ p.history, ev.deed.act ≠ .claim → ev.handed = none)
    (o : t.Phase prompt (p.session.store t.ctx.scope) p.history i σ) (order : List String)
    (hpast : ∀ ev ∈ p.history, ev.time ≤ p.session.clock) (hdue : σ.due ≤ p.session.clock)
    (hprompt : prompt → σ.result? = none → p.session.clock ≤ σ.due) :
    t.Phase prompt ((p.advance i σ order).session.store t.ctx.scope) (p.advance i σ order).history i
      (σ.go p.session order).2.1 := by
  have hsession : (p.advance i σ order).session = (σ.go p.session order).2.2 := rfl
  -- in each phase either the part that the branch follows goes on, or it has ended
  cases o with
  | preparing τ obeys follows =>
    cases hτ : τ.result? with
    | none =>
      rw [Pool.history_advance_of_follows follows hτ]
      exact .preparing _ (@Strand.Obeys.advance _ _ _ _ i τ p.beside obeys order)
        (follows.go hτ p.session order).2.2
    | some outcome =>
      cases outcome with
      | error f =>
        obtain ⟨hp, hs⟩ := follows.ended hτ
        exact advance_of_go (Strand.go_done hp hs) (.preparing τ obeys follows)
      | ok request => exact advance_of_made hscope obeys follows hτ
  | registering request k made silent remembered pending script =>
    exact advance_of_remembered hvariable made silent remembered pending script
  | waiting request k made registered remembered τ obeys follows =>
    cases hτ : τ.result? with
    | none =>
      obtain ⟨-, hsame, hfollows⟩ := follows.go hτ p.session order
      have hkept := obeys.get?_go hscope (fun _ htends => htends.writes) order
      have hregistered := registered.mono (Pool.history_prefix_advance i σ order)
      rw [Pool.history_advance_of_follows follows hτ] at hregistered ⊢
      rw [hsession, hsame]
      exact .waiting request k made hregistered (hkept.trans remembered) _
        (@Strand.Obeys.advance _ _ _ _ i τ p.beside obeys order) hfollows
    | some outcome =>
      cases outcome with
      | error f =>
        obtain ⟨hp, hs⟩ := follows.ended hτ
        exact advance_of_go (Strand.go_done hp hs)
          (.waiting request k made registered remembered τ obeys follows)
      | ok _ => exact advance_of_waited hhanded made registered remembered obeys follows hτ
  | receiving request k made τ finds follows =>
    cases hτ : τ.result? with
    | none =>
      have hfinds := @Endpoint.Finding.advance _ e request k t.patience prompt i p.beside τ finds
        order hpast (follows.due ▸ hdue)
          fun hp _ => follows.due ▸ hprompt hp (follows.result?_eq_none hτ)
      rw [Pool.history_advance_of_follows follows hτ]
      exact .receiving request k made _ hfinds (follows.go hτ p.session order).2.2
    | some answer => exact advance_of_answered made finds follows hτ
  | failed request k made τ finds f ended result =>
    obtain ⟨hp, hs⟩ := Strand.result?_eq_some.1 result
    exact advance_of_go (Strand.go_done hp hs) (.failed request k made τ finds f ended result)

end Advance

end Talk.Phase

/-! ## What a phase tells -/

namespace Talk.Phase

variable {e : Endpoint} {t : Talk e} {prompt : Prop} {store : Store} {h : List Happening} {i : Nat}
  {σ : Strand (Party e) (Except Failure Message)} {reply : Message}

/-- A branch has done nothing so far, or all that it has done was for its message. -/
theorem handles (o : t.Phase prompt store h i σ) :
    (∀ ev ∈ h, ev.strand ≠ i) ∨ ∃ request k, e.Registered h i k ∧
      ∀ ev ∈ h, ev.strand = i → e.Handles request k ev.deed := by
  cases o with
  | preparing τ obeys follows =>
    refine .inl fun ev hev hi => ?_
    obtain ⟨step, hspares, hdoes⟩ := obeys.past ev hev hi
    exact hspares _ hdoes
  | registering request k made silent => exact .inl silent
  | waiting request k made registered remembered τ obeys =>
    refine .inr ⟨request, k, registered, fun ev hev hi => ?_⟩
    obtain ⟨step, htends, hdoes⟩ := obeys.past ev hev hi
    exact htends.acts _ hdoes
  | receiving request k made τ finds | failed request k made τ finds =>
    exact .inr ⟨request, k, finds.registered, finds.handles⟩

/-- A branch that has looked for a reply is a find under its key, or was one. -/
theorem finding_of_looked (o : t.Phase prompt store h i σ) (hlooked : ¬ Quiet h i) :
    ∃ request k, ∃ τ : Strand (Party e) Call.Answer, t.Makes request k ∧
      e.Finding request k t.patience prompt h i τ ∧ (σ.Follows τ (e.concluded t.ctx k) ∨
        ∃ f, τ.result? = some (.error f) ∧ σ.result? = some (.error f)) := by
  cases o with
  | preparing τ obeys follows =>
    refine absurd (fun ev hev hi => ?_) hlooked
    obtain ⟨step, hspares, hdoes⟩ := obeys.past ev hev hi
    exact absurd hdoes (hspares _)
  | registering request k made silent =>
    exact absurd (fun ev hev hi => absurd hi (silent ev hev)) hlooked
  | waiting request k made registered remembered τ obeys =>
    refine absurd (fun ev hev hi => ?_) hlooked
    obtain ⟨step, htends, hdoes⟩ := obeys.past ev hev hi
    exact htends.claims _ hdoes
  | receiving request k made τ finds follows => exact ⟨request, k, τ, made, finds, .inl follows⟩
  | failed request k made τ finds f ended result =>
    exact ⟨request, k, τ, made, finds, .inr ⟨f, ended, result⟩⟩

/-- A branch that has ended with a reply has found it. -/
theorem finding_of_result (o : t.Phase prompt store h i σ) (hσ : σ.result? = some (.ok reply)) :
    ∃ request k, ∃ τ : Strand (Party e) Call.Answer, t.Makes request k ∧
      e.Finding request k t.patience prompt h i τ ∧ τ.result? = some (.ok (some reply)) := by
  cases o with
  | preparing τ obeys follows =>
    obtain ⟨request, hdone⟩ := follows.script_eq_of_ok hσ
    cases hk : e.correlator.requestKey? request with
    | none =>
      rw [converse_eq_of_none hk] at hdone
      cases hdone
    | some k =>
      rw [converse_eq hk] at hdone
      cases hdone
  | registering request k made silent remembered pending script =>
    rw [(Strand.result?_eq_some.1 hσ).2] at script
    cases script
  | waiting request k made registered remembered τ obeys follows =>
    obtain ⟨-, hdone⟩ := follows.script_eq_of_ok hσ
    obtain ⟨next, hreceive, -⟩ := @Endpoint.receive_eq e t.ctx t.timeout
    rw [hreceive] at hdone
    cases hdone
  | receiving request k made τ finds follows =>
    exact ⟨request, k, τ, made, finds, (finds.result_iff follows).1 hσ⟩
  | failed request k made τ finds f ended result =>
    rw [result] at hσ
    cases hσ

/-- A branch that was handed a reply ends with it. -/
theorem result_of_handed (o : t.Phase prompt store h i σ) {c : Nat} {ev : Happening}
    (hc : h[c]? = some ev) (hi : ev.strand = i) (hclaim : ev.deed.act = .claim)
    (hhanded : ev.handed = some reply) : σ.result? = some (.ok reply) := by
  obtain ⟨request, k, τ, -, finds, hend⟩ :=
    o.finding_of_looked fun hquiet => hquiet ev (List.mem_of_getElem? hc) hi hclaim
  have hτ := (finds.answered.result_of_handed hc hi hhanded).1
  rcases hend with follows | ⟨f, hfailed, -⟩
  · exact (finds.result_iff follows).2 hτ
  · cases hτ.symm.trans hfailed

end Talk.Phase

/-! ## Runs -/

/-- What holds all along in a run of parties that have scopes of their own. -/
structure Party.Apart {e : Endpoint} (s : Session) (prompt : Prop)
    (p : Pool (Party e) (Except Failure Message)) : Prop where
  grown : s.scopes.length ≤ p.session.scopes.length
  owned : ∀ σ ∈ p.strands, Pool.Owned owns s.scopes.length σ
  disjoint : p.strands.Pairwise fun σ τ => ∀ scope ∈ σ.origin.owns, scope ∉ τ.origin.owns
  opened : ∀ σ ∈ p.strands, ∀ scope ∈ σ.origin.owns, scope < s.scopes.length
  own : ∀ ev ∈ p.history, ev.strand < p.strands.length
  handed : ∀ ev ∈ p.history, ev.deed.act ≠ .claim → ev.handed = none
  past : ∀ ev ∈ p.history, ev.time ≤ p.session.clock
  onTime : prompt → p.isPrompt

/-- No other party writes to what belongs to a party. -/
theorem Party.Apart.store_advance {e : Endpoint} {s : Session} {prompt : Prop}
    {p : Pool (Party e) (Except Failure Message)} (c : Apart s prompt p) {i j : Nat}
    {σ τ : Strand (Party e) (Except Failure Message)} (hi : p.strands[i]? = some σ)
    (hj : p.strands[j]? = some τ) (hij : j ≠ i) {scope : Nat} (hscope : scope ∈ σ.origin.owns)
    (order : List String) : (p.advance j τ order).session.store scope = p.session.store scope := by
  have hother : scope ∉ τ.origin.owns := by
    obtain ⟨hlt, rfl⟩ := List.getElem?_eq_some_iff.1 hi
    obtain ⟨hlt', rfl⟩ := List.getElem?_eq_some_iff.1 hj
    rcases Nat.lt_or_gt_of_ne hij with h | h
    · exact fun hscope' => List.pairwise_iff_getElem.1 c.disjoint j i hlt' hlt h _ hscope' hscope
    · exact List.pairwise_iff_getElem.1 c.disjoint i j hlt hlt' h _ hscope
  exact (c.owned τ (List.mem_of_getElem? hj)).store_advance c.grown
    (c.opened σ (List.mem_of_getElem? hi) scope hscope) hother order

section Runs

variable {e : Endpoint} {s : Session} {moves : List (Move (Party e))}
  (hdisjoint : (moves.filterMap Move.started?).Pairwise fun a b => ∀ scope ∈ a.owns, scope ∉ b.owns)
  (hopened : ∀ a ∈ moves.filterMap Move.started?, ∀ scope ∈ a.owns, scope < s.scopes.length)
include hdisjoint hopened

theorem Party.apart_play (l : Nat) : Apart s (Pool.AlwaysPrompt script s moves)
    (Pool.play script s (moves.take l)) := by
  have hsublist : ((moves.take l).filterMap Move.started?).Sublist
      (moves.filterMap Move.started?) := (List.take_sublist l moves).filterMap _
  have horigins : (Pool.play script s (moves.take l)).strands.map (·.origin) = _ :=
    Pool.origins_play s _
  have hapart := hdisjoint.sublist hsublist
  rw [← horigins, List.pairwise_map] at hapart
  obtain ⟨hgrown, howned⟩ := Pool.owns_play Party.minds_script s (moves.take l)
  refine ⟨hgrown, howned, hapart, fun σ hσ => ?_, Pool.own_play s _, Pool.handed_play s _,
    fun ev hev => ((Pool.clock_le_play s _).2 ev hev).2, fun h => h.take l⟩
  refine hopened σ.origin (hsublist.subset ?_)
  rw [← horigins]
  exact List.mem_map_of_mem hσ

/-- **At every moment of a run each branch is in one of its phases.** -/
theorem Talk.phase_play (hvariable : e.settings.messageIdVariable ≠ some e.keyName) {i : Nat}
    {σ : Strand (Party e) (Except Failure Message)} {t : Talk e}
    (hσ : (Pool.play Party.script s moves).strands[i]? = some σ) (horigin : σ.origin = .branch t) :
    t.Phase (Pool.AlwaysPrompt Party.script s moves)
      ((Pool.play Party.script s moves).session.store t.ctx.scope)
      (Pool.play Party.script s moves).history i σ := by
  revert t
  refine Pool.play_strands_in (R := Party.Apart s (Pool.AlwaysPrompt Party.script s moves))
    (I := fun s' h i σ => ∀ {t : Talk e}, σ.origin = .branch t →
      t.Phase (Pool.AlwaysPrompt Party.script s moves) (s'.store t.ctx.scope) h i σ)
    (fun l _ => Party.apart_play hdisjoint hopened l) ?_ ?_ ?_ (fun _ _ _ _ _ => id) hσ
  · rintro p _ c t rfl
    refine .preparing ⟨.branch t, 0, 0, p.session.clock, [], t.before.run⟩
      ⟨fun ev hev hi => ?_, nofun, t.before_spares.ends⟩ ⟨rfl, rfl, rfl⟩
    exact absurd hi (Nat.ne_of_lt (c.own ev hev))
  · intro p i σ order c hi hdue o t horigin
    have hmem := List.mem_of_getElem? hi
    rw [(σ.frame_go p.session order).1] at horigin
    have hscope : t.ctx.scope < p.session.scopes.length := by
      refine Nat.lt_of_lt_of_le (c.opened σ hmem _ ?_) c.grown
      rw [horigin]
      exact Set.mem_singleton _
    exact (o horigin).advance hvariable hscope c.handed order c.past hdue fun hprompt =>
      Pool.isPrompt_iff.1 (c.onTime hprompt) σ hmem
  · intro p i σ j τ order c hi hj hij o t horigin
    have hscope : t.ctx.scope ∈ σ.origin.owns := by
      rw [horigin]
      exact Set.mem_singleton _
    rw [c.store_advance hi hj hij hscope]
    refine (o horigin).append fun ev hev => ?_
    obtain ⟨d, -, rfl⟩ := Option.map_eq_some_iff.1 (Option.mem_toList.1 hev)
    exact hij

end Runs

/-- What becomes of a branch that has looked for its reply and goes on twice: it looks again, or it
had looked at its deadline before, or it had been handed a reply. -/
theorem Talk.looks_of_turns {e : Endpoint} {s : Session} {early late : List (Move (Party e))}
    (hdisjoint : ((early ++ late).filterMap Move.started?).Pairwise fun a b =>
      ∀ scope ∈ a.owns, scope ∉ b.owns)
    (hopened : ∀ a ∈ (early ++ late).filterMap Move.started?,
      ∀ scope ∈ a.owns, scope < s.scopes.length)
    (hvariable : e.settings.messageIdVariable ≠ some e.keyName) {i : Nat}
    {σ : Strand (Party e) (Except Failure Message)} {t : Talk e}
    (hσ : (Pool.play Party.script s (early ++ late)).strands[i]? = some σ)
    (horigin : σ.origin = .branch t) (hlooked : ¬ Quiet (Pool.play Party.script s early).history i)
    (hturns : 2 ≤ (Pool.play Party.script s early).turns Party.script i late) :
    let h := (Pool.play Party.script s early).history
    (∃ c ev, h.length ≤ c ∧ (Pool.play Party.script s (early ++ late)).history[c]? = some ev ∧
        ev.strand = i ∧ ev.deed.act = .claim) ∨
      (∃ start, FirstLook h i start ∧ LookedSince h i (start + t.patience)) ∨
      ∃ (c : Nat) (ev : Happening) (reply : Message), h[c]? = some ev ∧ ev.strand = i ∧
        ev.deed.act = .claim ∧ ev.handed = some reply := by
  intro h
  have hearly : (early.filterMap Move.started?).Sublist
      ((early ++ late).filterMap Move.started?) := (List.sublist_append_left ..).filterMap _
  -- the branch has been there when it looked
  obtain ⟨τ, hτ⟩ : ∃ τ, (Pool.play Party.script s early).strands[i]? = some τ := by
    by_contra hnone
    refine hlooked fun ev hev hi => ?_
    have hlt := Pool.own_play s early ev hev
    rw [hi] at hlt
    exact absurd ⟨_, List.getElem?_eq_getElem hlt⟩ hnone
  have hbranch : τ.origin = .branch t := by
    have horigins : (Pool.play Party.script s (early ++ late)).strands.map (·.origin) =
        (Pool.play Party.script s early).strands.map (·.origin) ++
          late.filterMap Move.started? := by
      rw [Pool.origins_play, Pool.origins_play, List.filterMap_append]
    have hmap := congrArg (·[i]?) horigins
    simp only [List.getElem?_map, hσ, Option.map_some] at hmap
    rw [List.getElem?_append_left (by
      rw [List.length_map]
      exact (List.getElem?_eq_some_iff.1 hτ).1), List.getElem?_map, hτ] at hmap
    exact (Option.some.inj hmap).symm.trans horigin
  have o := Talk.phase_play (hdisjoint.sublist hearly) (fun a ha => hopened a (hearly.subset ha))
    hvariable hτ hbranch
  obtain ⟨request, k, ρ, -, finds, hend⟩ := o.finding_of_looked hlooked
  rcases finds.timed.looksWithin hlooked with ⟨hpending, hscript⟩ | hdeadline | ⟨reply, hfound⟩
  · rcases hend with follows | ⟨f, hfailed, -⟩
    · refine .inl ?_
      rw [Pool.play, List.foldl_append]
      refine Pool.looks_of_turns hτ (follows.pending.trans hpending) ?_ hturns
      rw [follows.script]
      exact hscript.bind _
    · rw [(Strand.result?_eq_some.1 hfailed).2] at hscript
      cases hscript
  · exact .inr (.inl hdeadline)
  · obtain ⟨c, ev, hc, hi, hclaim, hhanded, -⟩ := finds.answered.handed_of_result hfound
    exact .inr (.inr ⟨c, ev, reply, hc, hi, hclaim, hhanded⟩)

end Scenario
