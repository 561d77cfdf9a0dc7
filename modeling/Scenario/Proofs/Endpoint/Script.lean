import Scenario.Proofs.Correlation.Call

/-!
# The scripts of an endpoint

Sending and receiving are put together from parts.  Here they are brought into the form in which
they run, with the next step in front: a send writes the key of the message into its variable,
registers it and goes on, and a receive reads the variable and is a find from then on.

What a send does under a key is to the key of its own message, and so is what the receive does that
comes after it.  Both come by other keys only when they purge.

## What is here

* `Endpoint.send_eq`, `Endpoint.receive_eq` and `Endpoint.receiveSelected_eq` — the first steps of
  both.
* `Endpoint.Handles` — what is done to the table on behalf of a message.
  `Endpoint.obeys_transmit`, `Endpoint.actsFor_of_find` and `Endpoint.obeys_accept` say who does
  what.
-/

set_option autoImplicit false

namespace Scenario

open Correlation

/-- Whether a step has nothing to do with correlation tables. -/
def Step.Spares (step : Step) : Prop := ∀ d, ¬ step.Does d

namespace Endpoint

variable {e : Endpoint} {ctx : Context} {request : Message} {k : String}

/-! ## The first steps -/

/-- What a send does when it has registered the key. -/
def transmit (e : Endpoint) (ctx : Context) (request : Message) (k : String) : Activity Unit := do
  match e.settings.messageIdVariable with
  | some name => ctx.set name (.string request.id)
  | none => pure ()
  let response ← ExceptT.lift (e.dispatch request)
  e.settle k response

theorem send_eq (hk : e.correlator.requestKey? request = some k) :
    (e.send ctx request).run =
      .take (.write ctx.scope e.keyName (.string k)) fun _ =>
        .take (.createKey e.manager k) fun _ => (e.transmit ctx request k).run := by
  rw [send, hk]
  rfl

/-- A message without a key is not sent. -/
theorem send_eq_of_none (hk : e.correlator.requestKey? request = none) :
    (e.send ctx request).run = .done (.error (.missingKey e.keyName)) := by
  rw [send, hk]
  rfl

/-- What a receive makes of the answer of its find.  A find does not end without a reply. -/
def concluded (e : Endpoint) (ctx : Context) (k : String) :
    Call.Answer → Script (Except Failure Message)
  | .ok (some reply) => .done (.ok reply)
  | .ok none => .done (.error (.missingKey e.keyName))
  | .error f => (do
      if f.isTimeout then ExceptT.lift (ctx.report (.keyTimeout e.keyName k))
      throw f : Activity Message).run

theorem receiveSelected_eq (timeout : Option Nat) :
    (e.receiveSelected ctx k timeout).run =
      (Call.script e.manager (.find k (timeout.getD e.settings.timeout))).bind
        (e.concluded ctx k) := by
  rw [Call.script, Script.bind_assoc]
  show Script.bind _ _ = _
  congr 1
  funext outcome
  cases outcome <;> rfl

/-- A receive looks into the variable, and waits for the key that it finds there. -/
theorem receive_eq (timeout : Option Nat) : ∃ next,
    (e.receive ctx timeout).run = .take (.read ctx.scope) next ∧
      ∀ (store : Store) (k : String), store.get? e.keyName = some (.string k) →
        next store = (e.receiveSelected ctx k timeout).run := by
  refine ⟨_, rfl, fun store k hk => ?_⟩
  simp only [Script.bind, Function.comp_apply, ExceptT.bindCont, hk]
  rfl

/-! ## What is done under a key -/

/-- A reply that the transport gives to a message. -/
def Returns (e : Endpoint) (request reply : Message) : Prop :=
  ∃ d : Dispatch, d.request = request ∧ e.transport.respond d = .reply reply

/-- Whether something is done to the table of an endpoint on behalf of a message with some key: the
key is purged, whichever it is, or it is that of the message.  If a reply is put there the transport
has given it to this message, and the key is never cleared. -/
def Handles (e : Endpoint) (request : Message) (k : String) (d : Deed) : Prop :=
  d.manager = e.manager ∧ (d.act = .visit ∨
    d.key = k ∧ d.act ≠ .drop ∧ ∀ reply, d.act = .put reply → e.Returns request reply)

/-- Whether a step does nothing to the table but on behalf of a message. -/
def ActsFor (e : Endpoint) (request : Message) (k : String) (step : Step) : Prop :=
  ∀ d, step.Does d → e.Handles request k d

/-- Whether a step does so, looks for no reply and leaves the variable alone that has the key. -/
structure Tends (e : Endpoint) (ctx : Context) (request : Message) (k : String) (step : Step) :
    Prop where
  acts : e.ActsFor request k step
  claims : ∀ d, step.Does d → d.act ≠ .claim
  writes : ∀ v, step ≠ .write ctx.scope e.keyName v

theorem tends_of_spares {step : Step} (hspares : step.Spares)
    (hwrites : ∀ v, step ≠ .write ctx.scope e.keyName v) : e.Tends ctx request k step :=
  ⟨fun d hd => absurd hd (hspares d), fun d hd => absurd hd (hspares d), hwrites⟩

theorem obeys_dispatch : (e.dispatch request).Obeys (e.Tends ctx request k)
    fun response => ∃ d : Dispatch, d.request = request ∧ e.transport.respond d = response :=
  ⟨tends_of_spares nofun nofun, fun _ => ⟨tends_of_spares nofun nofun, fun _ =>
    ⟨tends_of_spares nofun nofun, fun _ => ⟨_, rfl, rfl⟩⟩⟩⟩

theorem obeys_settle {response : Response}
    (hresponse : ∃ d : Dispatch, d.request = request ∧ e.transport.respond d = response) :
    (e.settle k response).run.Obeys (e.Tends ctx request k) fun _ => True := by
  cases response with
  | failure f =>
    refine Activity.obeys_bind (Activity.obeys_step ⟨?_, ?_, nofun⟩) (fun _ _ => trivial)
      fun _ _ => trivial
    · rintro d ⟨⟩
      exact ⟨rfl, .inr ⟨rfl, nofun, nofun⟩⟩
    · rintro d ⟨⟩
      nofun
  | silence => trivial
  | reply m =>
    refine Activity.obeys_step ⟨?_, ?_, nofun⟩
    · rintro d ⟨hmanager, hact | rfl⟩
      · exact ⟨hmanager, .inl hact⟩
      · refine ⟨hmanager, .inr ⟨rfl, nofun, ?_⟩⟩
        rintro _ ⟨⟩
        exact hresponse
    · rintro d ⟨-, hact | rfl⟩ hclaim
      · cases hact.symm.trans hclaim
      · cases hclaim
  | later delay m =>
    rw [settle]
    split
    · exact Activity.obeys_step (tends_of_spares nofun nofun)
    · trivial

/-- **What a send does when the key is registered** is on behalf of its message. -/
theorem obeys_transmit (hvariable : e.settings.messageIdVariable ≠ some e.keyName) :
    (e.transmit ctx request k).run.Obeys (e.Tends ctx request k) fun _ => True := by
  have hdispatch : (do
      let response ← ExceptT.lift (e.dispatch request)
      e.settle k response : Activity Unit).run.Obeys (e.Tends ctx request k) fun _ => True :=
    Activity.obeys_bind (Activity.obeys_lift obeys_dispatch) (fun _ _ => trivial)
      fun _ hresponse => obeys_settle (hresponse _ rfl)
  rw [transmit]
  split
  · next name hname =>
    refine Activity.obeys_bind (Activity.obeys_step (tends_of_spares nofun ?_))
      (fun _ _ => trivial) fun _ _ => hdispatch
    rintro v ⟨⟩
    exact hvariable hname
  · exact hdispatch

/-- A find under the key is on behalf of the message. -/
theorem actsFor_of_find {timeout : Nat} {step : Step}
    (h : Call.Takes e.manager (.find k timeout) step) : e.ActsFor request k step := by
  intro d hd
  obtain ⟨hmanager, hdoes⟩ := Call.does_of_takes h hd
  refine ⟨hmanager, ?_⟩
  cases hact : d.act with
  | visit => exact .inl rfl
  | claim =>
    rw [hact] at hdoes
    rcases hdoes with ⟨_, hfind⟩ | hfind
    · cases hfind
      exact .inr ⟨rfl, nofun, nofun⟩
    · cases hfind
  | expire =>
    rw [hact] at hdoes
    obtain ⟨_, hfind⟩ := hdoes
    cases hfind
    exact .inr ⟨rfl, nofun, nofun⟩
  | create =>
    rw [hact] at hdoes
    obtain ⟨_, _, hfind⟩ := hdoes
    cases hfind
  | put | discard | drop =>
    rw [hact] at hdoes
    cases hdoes

/-- Whether a deed is part of taking in a reply that arrives by itself. -/
def Admits (e : Endpoint) (d : Deed) : Prop :=
  d.manager = e.manager ∧ (d.act = .visit ∨
    ∃ reply, e.correlator.replyKey? reply = some d.key ∧ d.act = .put reply)

theorem obeys_accept {reply : Message} :
    (e.accept reply).run.Obeys (fun step => ∀ d, step.Does d → e.Admits d) fun _ => True := by
  rw [accept]
  split
  · trivial
  · next k hk =>
    refine ⟨?_, fun _ => trivial⟩
    rintro d ⟨hmanager, hact | rfl⟩
    · exact ⟨hmanager, .inl hact⟩
    · exact ⟨hmanager, .inr ⟨reply, hk, rfl⟩⟩

end Endpoint
end Scenario
