import Scenario.Action.Simple
import Scenario.Proofs.Action.Bare
import Scenario.Proofs.Session.Report

/-!
# What simple actions report

An action that holds no others reports what happens on the way, such as a text or a wait that ran
out, and none of it is part of the life of an action.  It fails with a failure of its own, which
has no template around it unless a transport has put it there.

## What is here

* `Context.Quiet` — an activity reports only what is incidental, signed by its context, and fails
  only with failures of some kind.
* `Context.quiet_assign` to `Context.quiet_send` — so do all simple actions.
* `Endpoint.Raises` — what sending to an endpoint can fail with.
-/

set_option autoImplicit false

namespace Scenario

variable {α β : Type}

/-! ## Activities -/

/-- Whether an occurrence is part of neither the life of an action nor that of a test. -/
def Occurrence.isIncidental : Occurrence → Bool
  | keyTimeout _ _ => true
  | echo _ => true
  | custom _ _ => true
  | _ => false

/-- Whether an activity in a context reports only what is incidental, and fails only with failures
of some kind. -/
abbrev Context.Quiet (ctx : Context) (raises : Failure → Prop) (x : Activity α) : Prop :=
  x.run.Tells (some ctx.run) ctx.test fun log r =>
    (∀ what ∈ log, what.isIncidental) ∧ ∀ f, r = .error f → raises f

namespace Context

variable {ctx : Context} {raises : Failure → Prop}

theorem quiet_bind {x : Activity α} {f : α → Activity β} (hx : ctx.Quiet raises x)
    (hf : ∀ a, ctx.Quiet raises (f a)) : ctx.Quiet raises (x >>= f) := by
  refine Script.Tells.bind hx fun log r ⟨hlog, hr⟩ => ?_
  cases r with
  | ok a =>
    exact (hf a).mono fun log' _ h => ⟨List.forall_mem_append.2 ⟨hlog, h.1⟩, h.2⟩
  | error f =>
    refine ⟨List.forall_mem_append.2 ⟨hlog, nofun⟩, ?_⟩
    rintro _ ⟨⟩
    exact hr f rfl

theorem quiet_error {f : Failure} (h : raises f) :
    ctx.Quiet raises (throw f : Activity α) := by
  refine ⟨nofun, ?_⟩
  rintro _ ⟨⟩
  exact h

theorem quiet_pure (a : α) : ctx.Quiet raises (pure a : Activity α) := ⟨nofun, nofun⟩

theorem quiet_lift {x : Script α}
    (hx : x.Tells (some ctx.run) ctx.test fun log _ => ∀ what ∈ log, what.isIncidental) :
    ctx.Quiet raises (ExceptT.lift x) :=
  hx.bind fun _ _ hlog => ⟨List.forall_mem_append.2 ⟨hlog, nofun⟩, nofun⟩

/-- What follows a script may depend on what is known of its value. -/
theorem quiet_bind_lift {P : α → Prop} {x : Script α} {f : α → Activity β}
    (hx : x.Tells (some ctx.run) ctx.test fun log a => (∀ what ∈ log, what.isIncidental) ∧ P a)
    (hf : ∀ a, P a → ctx.Quiet raises (f a)) : ctx.Quiet raises (ExceptT.lift x >>= f) := by
  refine Script.Tells.bind (Q := fun log r =>
    (∀ what ∈ log, what.isIncidental) ∧ ∃ a, r = .ok a ∧ P a) (hx.bind fun log a h => ?_) ?_
  · exact ⟨List.forall_mem_append.2 ⟨h.1, nofun⟩, a, rfl, h.2⟩
  · rintro log _ ⟨hlog, a, rfl, ha⟩
    exact (hf a ha).mono fun log' _ h => ⟨List.forall_mem_append.2 ⟨hlog, h.1⟩, h.2⟩

/-- A step that reports nothing. -/
theorem quiet_step {step : Step} (h : step.report? = none) :
    ctx.Quiet raises (Activity.step step) := by
  refine quiet_lift ⟨?_, fun _ => ?_⟩
  · cases step with
    | report => cases h
    | _ => trivial
  · show ∀ what ∈ step.report?.toList ++ [], _
    rw [h]
    exact nofun

theorem quiet_tryCatch {x : Activity α} {handle : Failure → Activity α} (hx : ctx.Quiet raises x)
    (hhandle : ∀ f, raises f → ctx.Quiet raises (handle f)) :
    ctx.Quiet raises (tryCatch x handle) := by
  refine Script.Tells.bind hx fun log r ⟨hlog, hr⟩ => ?_
  cases r with
  | ok a => exact ⟨List.forall_mem_append.2 ⟨hlog, nofun⟩, nofun⟩
  | error f =>
    exact (hhandle f (hr f rfl)).mono fun log' _ h =>
      ⟨List.forall_mem_append.2 ⟨hlog, h.1⟩, h.2⟩

theorem quiet_report {what : Occurrence} (h : what.isIncidental) :
    ctx.Quiet raises (ExceptT.lift (ctx.report what)) :=
  quiet_lift ⟨⟨rfl, rfl⟩, fun _ => List.forall_mem_singleton.2 h⟩

end Context

/-! ## Simple actions -/

/-- Whether a failure has no templates around it. -/
abbrev Failure.IsBare (f : Failure) : Prop := f.layers = []

section Simple

variable {ctx : Context}

theorem Context.quiet_ofExcept {e : Except Failure α} (h : Bare e) :
    ctx.Quiet Failure.IsBare (Activity.ofExcept e) :=
  ⟨nofun, h.layers⟩

theorem Context.quiet_store : ctx.Quiet Failure.IsBare ctx.store := quiet_step rfl

theorem Context.quiet_set (name : String) (value : Json) :
    ctx.Quiet Failure.IsBare (ctx.set name value) :=
  quiet_step rfl

theorem Context.quiet_resolve (text : String) : ctx.Quiet Failure.IsBare (ctx.resolve text) :=
  quiet_bind quiet_store fun _ => quiet_ofExcept (bare_resolve ..)

theorem Context.quiet_resolveText (value : Json) :
    ctx.Quiet Failure.IsBare (ctx.resolveText value) := by
  cases value with
  | string text => exact quiet_bind (quiet_resolve text) fun _ => quiet_pure _
  | _ => exact quiet_pure _

theorem Context.quiet_assign (assignments : Fields Json) :
    ctx.Quiet Failure.IsBare (ctx.assign assignments) := by
  induction assignments with
  | nil => exact quiet_pure ()
  | cons assignment rest ih =>
    exact quiet_bind (quiet_resolveText _) fun _ => quiet_bind (quiet_set ..) fun _ => ih

theorem Context.quiet_echo (message : String) : ctx.Quiet Failure.IsBare (ctx.echo message) :=
  quiet_bind (quiet_resolve message) fun _ => quiet_report rfl

theorem Context.quiet_sleep (milliseconds : String) :
    ctx.Quiet Failure.IsBare (ctx.sleep milliseconds) := by
  refine quiet_bind (quiet_resolve milliseconds) fun resolved => ?_
  split
  · exact quiet_lift (nofun : ∀ what ∈ [], _)
  · exact quiet_error rfl

theorem Context.quiet_fail (message : String) : ctx.Quiet Failure.IsBare (ctx.fail message) :=
  quiet_bind (quiet_resolve message) fun _ => quiet_error rfl

theorem Context.quiet_record (recording : Nat) (capture : Option String) (delay : Option Nat) :
    ctx.Quiet Failure.IsBare (ctx.record recording capture delay) := by
  have hnote : ctx.Quiet Failure.IsBare (ctx.record recording capture none) := by
    cases capture with
    | none => exact quiet_step rfl
    | some name =>
      refine quiet_bind quiet_store fun store => ?_
      exact quiet_bind (quiet_ofExcept (store.bare_get name)) fun _ => quiet_step rfl
  cases delay with
  | none => exact hnote
  | some ms => exact quiet_bind (quiet_lift (nofun : ∀ what ∈ [], _)) fun _ => hnote

/-! ### Messages -/

theorem Manager.quiet_poll (m : Manager) (key : String) (deadline remaining : Nat)
    (look : Option Message × Nat) :
    (m.poll key deadline remaining look).Tells (some ctx.run) ctx.test
      fun log _ => ∀ what ∈ log, what.isIncidental := by
  induction remaining using Nat.strongRecOn generalizing look with
  | ind remaining ih =>
    obtain ⟨found, now⟩ := look
    cases found with
    | some reply =>
      rw [poll_some]
      exact nofun
    | none =>
      rw [poll_none]
      split
      · exact nofun
      · next hleft =>
        have hnap := Manager.nap_pos (m := m) hleft
        have hle : Manager.left deadline remaining now ≤ remaining := Nat.min_le_left ..
        exact ⟨trivial, fun look => ih _ (by omega) look⟩

theorem Manager.quiet_find (m : Manager) (key : String) (timeout : Nat) :
    ctx.Quiet Failure.IsBare (m.find key timeout) := by
  refine Context.quiet_bind (Context.quiet_step rfl) fun _ => ?_
  refine Context.quiet_bind (Context.quiet_step rfl) fun _ => ?_
  refine Context.quiet_bind (Context.quiet_lift (m.quiet_poll ..)) fun found => ?_
  cases found with
  | some reply => exact Context.quiet_pure reply
  | none => exact Context.quiet_bind (Context.quiet_step rfl) fun _ => Context.quiet_error rfl

theorem Endpoint.quiet_receiveSelected (e : Endpoint) (key : String) (timeout : Option Nat) :
    ctx.Quiet Failure.IsBare (e.receiveSelected ctx key timeout) := by
  refine Context.quiet_tryCatch (e.manager.quiet_find ..) fun f hf => ?_
  split
  · exact Context.quiet_bind (Context.quiet_report rfl) fun _ => Context.quiet_error hf
  · exact Context.quiet_error hf

theorem Endpoint.quiet_receive (e : Endpoint) (timeout : Option Nat) :
    ctx.Quiet Failure.IsBare (e.receive ctx timeout) := by
  refine Context.quiet_bind (Context.quiet_bind Context.quiet_store fun store => ?_) fun key =>
    e.quiet_receiveSelected key timeout
  split
  · exact Context.quiet_pure _
  · exact Context.quiet_error rfl

theorem Context.quiet_extractHeaders (m : Message) (targets : Fields String) :
    ctx.Quiet Failure.IsBare (ctx.extractHeaders m targets) := by
  induction targets with
  | nil => exact quiet_pure ()
  | cons field rest ih =>
    rw [extractHeaders]
    split
    · exact quiet_error rfl
    · exact quiet_bind (quiet_set ..) fun _ => ih

theorem Context.quiet_extractPayload (m : Message) (targets : Fields String) :
    ctx.Quiet Failure.IsBare (ctx.extractPayload m targets) := by
  induction targets with
  | nil => exact quiet_pure ()
  | cons field rest ih =>
    rw [extractPayload]
    split
    · exact quiet_error rfl
    · exact quiet_bind (quiet_set ..) fun _ => ih

theorem Context.quiet_handle (r : Receipt) (m : Message) :
    ctx.Quiet Failure.IsBare (ctx.handle r m) := by
  have hextract : ctx.Quiet Failure.IsBare (do
      ctx.extractHeaders m r.headerVariables
      ctx.extractPayload m r.payloadVariables : Activity Unit) :=
    quiet_bind (quiet_extractHeaders m _) fun _ => quiet_extractPayload m _
  rw [handle]
  split
  · exact hextract
  · refine quiet_bind quiet_store fun _ => ?_
    exact quiet_bind (quiet_ofExcept (MessageExpectation.bare_validate ..)) fun _ => hextract

theorem Context.quiet_receive (e : Endpoint) (r : Receipt) :
    ctx.Quiet Failure.IsBare (ctx.receive e r) := by
  refine quiet_bind ?_ fun m => quiet_handle r m
  rw [obtain]
  split
  · exact quiet_bind (quiet_resolve _) fun key => e.quiet_receiveSelected key r.timeout
  · exact e.quiet_receive r.timeout

/-- Whether a failure is one that sending to an endpoint can end with: that of its transport, or one
that has no templates around it. -/
def Endpoint.Raises (e : Endpoint) (f : Failure) : Prop :=
  f.IsBare ∨ ∃ d, e.transport.respond d = .failure f

theorem Context.Quiet.of_bare {raises : Failure → Prop} {x : Activity α}
    (hx : ctx.Quiet Failure.IsBare x) (h : ∀ f : Failure, f.IsBare → raises f) :
    ctx.Quiet raises x :=
  hx.mono fun _ _ hlog => ⟨hlog.1, fun f hf => h f (hlog.2 f hf)⟩

theorem Endpoint.quiet_dispatch (e : Endpoint) (request : Message) :
    (e.dispatch request).Tells (some ctx.run) ctx.test fun log response =>
      (∀ what ∈ log, what.isIncidental) ∧ ∃ d, e.transport.respond d = response :=
  ⟨trivial, fun _ => ⟨trivial, fun _ => ⟨trivial, fun _ => ⟨nofun, _, rfl⟩⟩⟩⟩

theorem Endpoint.quiet_settle (e : Endpoint) (key : String) {response : Response}
    (h : ∃ d, e.transport.respond d = response) : ctx.Quiet e.Raises (e.settle key response) := by
  cases response with
  | failure f =>
    exact Context.quiet_bind (Context.quiet_step rfl) fun _ => Context.quiet_error (.inr h)
  | silence => exact Context.quiet_pure ()
  | reply m => exact Context.quiet_step rfl
  | later delay m =>
    rw [settle]
    split
    · exact Context.quiet_step rfl
    · exact Context.quiet_pure ()

theorem Endpoint.quiet_send (e : Endpoint) (request : Message) :
    ctx.Quiet e.Raises (e.send ctx request) := by
  rw [send]
  split
  · exact Context.quiet_error (.inl rfl)
  · next key _ =>
    have hset (name value) : ctx.Quiet e.Raises (ctx.set name value) := Context.quiet_step rfl
    have hdispatch : ctx.Quiet e.Raises (do
        let response ← ExceptT.lift (e.dispatch request)
        e.settle key response : Activity Unit) :=
      Context.quiet_bind_lift (e.quiet_dispatch request) fun _ => e.quiet_settle key
    refine Context.quiet_bind ?_ fun _ => ?_
    · exact Context.quiet_bind (hset ..) fun _ => Context.quiet_step rfl
    · split
      · exact Context.quiet_bind (hset ..) fun _ => hdispatch
      · exact hdispatch

theorem Draft.bare_resolve (d : Draft) (lib : Library) (store : Store) :
    Bare (d.resolve lib store) := by
  have hheaders : ∀ headers, Bare (resolveHeaders lib store headers) := by
    intro headers
    induction headers with
    | nil => exact bare_ok _
    | cons header rest ih => exact (bare_resolveValue ..).bind fun _ => ih.bind fun _ => bare_ok _
  refine (bare_resolveValue ..).bind fun payload => ?_
  split
  · exact ((Scenario.bare_resolve ..).map _).bind fun _ => (hheaders _).bind fun _ => bare_ok _
  · exact (hheaders _).bind fun _ => bare_ok _

theorem Context.quiet_send (e : Endpoint) (d : Draft) : ctx.Quiet e.Raises (ctx.send e d) := by
  refine quiet_bind (quiet_step rfl) fun store => ?_
  refine quiet_bind ((quiet_ofExcept (d.bare_resolve ..)).of_bare fun _ => .inl) fun _ => ?_
  refine quiet_bind (quiet_step rfl) fun _ => ?_
  exact quiet_bind (quiet_step rfl) fun _ => e.quiet_send _

end Simple

end Scenario
