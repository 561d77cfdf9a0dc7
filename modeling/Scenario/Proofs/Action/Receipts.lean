import Scenario.Proofs.Action.Binding
import Scenario.Proofs.Endpoint.FailedSend
import Scenario.Proofs.Session.Trace

/-!
# What a receive does with a reply

A receive takes a reply out of a table, judges it, and sets variables to parts of it.  These are two
states and several places at which it can fail, and what it has done before is not taken back: a
reply that is not as expected is gone all the same, and a part that is missing does not undo the
variables that were set for parts before it.

What is judged and what is set can have to do with each other, for an expectation can use the very
variables that are set later.  It does not see them: nothing is set until the reply has been judged.

Others can work in the same session while a receive waits.  So it is said twice what a receive does:
as a run in a session where nobody else takes steps, with the variables and the table afterwards,
and as the steps that it takes whatever all of them yield.

## What is here

* `Source` is a part of a message that a variable can be set to, and `Receipt.extractions` are all
  that a receipt is after, in order.
* `Receipt.Makes` — what a receipt makes of a message: what it sets, and how it ends.
  `Context.handle_eq` says that nothing else is done with a message that was received.
* `Context.obtain_cases` and `Context.does_obtain` — until there is a message nothing is set.
* `receive_sets` — the main result.
-/

set_option autoImplicit false

namespace Scenario

/-! ## What a receipt makes of a message -/

/-- A part of a message that a variable can be set to. -/
inductive Source where
  | header (name : String)
  | payload (pointer : String)

namespace Source

/-- What a message has there.  Of a header it is the text form. -/
def value? (m : Message) : Source → Option Json
  | header name => (m.header? name).map fun value => .string value.asText
  | payload pointer => m.payload.at? pointer

/-- The failure that says that there is nothing. -/
def missing : Source → Failure
  | header name => .validation s!"cannot extract missing header '{name}'"
  | payload pointer => .validation s!"cannot extract missing payload element '{pointer}'"

end Source

/-- A variable and what it is set to. -/
abbrev Extraction := Source × String

/-- What a message has for extractions: each variable with its value. -/
def Message.Offers (m : Message) (xs : List Extraction) (values : Fields Json) : Prop :=
  List.Forall₂ (fun x v => x.1.value? m = some v.2 ∧ v.1 = x.2) xs values

/-- What comes of extractions: the variables that are set, in order, and the outcome.  The first
source that is missing ends it. -/
inductive Message.Gives (m : Message) (xs : List Extraction) : Fields Json → Outcome → Prop where
  | all {values : Fields Json} (h : m.Offers xs values) : Gives m xs values (.ok ())
  | upTo {before after : List Extraction} {x : Extraction} {values : Fields Json}
    (hxs : xs = before ++ x :: after) (h : m.Offers before values) (hx : x.1.value? m = none) :
    Gives m xs values (.error x.1.missing)

variable {m : Message} {xs : List Extraction} {values : Fields Json} {outcome : Outcome}

theorem Message.Offers.exists_value? (h : m.Offers xs values) :
    ∀ x ∈ xs, ∃ v, x.1.value? m = some v := by
  induction h with
  | nil => exact List.forall_mem_nil _
  | cons hx _ ih => exact List.forall_mem_cons.2 ⟨⟨_, hx.1⟩, ih⟩

/-- Extractions succeed just if every source is there. -/
theorem Message.Gives.eq_ok_iff (h : m.Gives xs values outcome) :
    outcome = .ok () ↔ ∀ x ∈ xs, ∃ v, x.1.value? m = some v := by
  cases h with
  | all h => exact iff_of_true rfl h.exists_value?
  | upTo hxs _ hnone =>
    refine iff_of_false nofun fun hall => ?_
    obtain ⟨v, hv⟩ := hall _ (hxs ▸ List.mem_append_right _ List.mem_cons_self)
    cases hnone.symm.trans hv

namespace Receipt

/-- All that a receipt is after: headers first, then parts of the payload. -/
def extractions (r : Receipt) : List Extraction :=
  r.headerVariables.map (fun (name, target) => (.header name, target)) ++
    r.payloadVariables.map fun (pointer, target) => (.payload pointer, target)

/-- What a receipt makes of a message: the variables that it sets, in order, and its outcome.  The
message is judged against the variables in `store`. -/
inductive Makes (r : Receipt) (m : Message) (lib : Library) (store : Store) :
    Fields Json → Outcome → Prop where
  | invalid {f : Failure} (h : r.expectation.validate lib store r.strictness m = .error f) :
    Makes r m lib store [] (.error f)
  | valid {values : Fields Json} {outcome : Outcome}
    (h : r.expectation.validate lib store r.strictness m = .ok ())
    (hgives : m.Gives r.extractions values outcome) : Makes r m lib store values outcome

/-- A receive with a message succeeds just if it is as expected and every source is there. -/
theorem Makes.eq_ok_iff {r : Receipt} {m : Message} {lib : Library} {store : Store}
    {values : Fields Json} {outcome : Outcome} (h : r.Makes m lib store values outcome) :
    outcome = .ok () ↔ r.expectation.validate lib store r.strictness m = .ok () ∧
      ∀ x ∈ r.extractions, ∃ v, x.1.value? m = some v := by
  cases h with
  | invalid h => simp [h]
  | valid h hgives => simp [h, hgives.eq_ok_iff]

/-- The key under which a receipt looks for its reply. -/
def key (r : Receipt) (e : Endpoint) (lib : Library) (store : Store) : Except Failure String :=
  match r.selector with
  | some selector => resolve lib store selector
  | none =>
    match store.get? e.keyName with
    | some value => .ok value.asText
    | none => .error (.missingKey e.keyName)

end Receipt

/-! ## Setting variables -/

section Extracting

variable {x : Extraction}

theorem Message.Gives.cons {v : Json} (hx : x.1.value? m = some v)
    (h : m.Gives xs values outcome) : m.Gives (x :: xs) ((x.2, v) :: values) outcome := by
  cases h with
  | all h => exact .all (.cons ⟨hx, rfl⟩ h)
  | upTo hxs h hnone => exact .upTo (congrArg (x :: ·) hxs) (.cons ⟨hx, rfl⟩ h) hnone

variable (ctx : Context)

/-- Sets variables to parts of a message, one after the other. -/
def Context.extract (ctx : Context) (m : Message) : List Extraction → Activity Unit
  | [] => return ()
  | (source, name) :: rest =>
    match source.value? m with
    | none => throw source.missing
    | some value => do
      ctx.set name value
      ctx.extract m rest

namespace Context

theorem extractHeaders_bind (headers : Fields String) :
    (do ctx.extractHeaders m headers; ctx.extract m xs) =
      ctx.extract m (headers.map (fun (name, target) => (.header name, target)) ++ xs) := by
  induction headers with
  | nil => exact pure_bind ..
  | cons field rest ih =>
    obtain ⟨name, target⟩ := field
    rw [List.map_cons, List.cons_append, extract, extractHeaders, Source.value?]
    cases m.header? name with
    | none => rfl
    | some value =>
      rw [Option.map_some, bind_assoc]
      exact bind_congr fun _ => ih

theorem extractPayload_eq (parts : Fields String) : ctx.extractPayload m parts =
    ctx.extract m (parts.map fun (pointer, target) => (.payload pointer, target)) := by
  induction parts with
  | nil => rfl
  | cons field rest ih =>
    obtain ⟨pointer, target⟩ := field
    rw [List.map_cons, extract, extractPayload, Source.value?]
    cases m.payload.at? pointer with
    | none => rfl
    | some value => exact bind_congr fun _ => ih

variable (m xs) in
/-- **Extractions set what the message gives**, and nothing else. -/
theorem exists_gives : ∃ values outcome, m.Gives xs values outcome ∧
    ctx.extract m xs = (do ctx.setAll values; Activity.ofExcept outcome) := by
  induction xs with
  | nil => exact ⟨[], .ok (), .all .nil, rfl⟩
  | cons x rest ih =>
    obtain ⟨source, name⟩ := x
    rw [extract]
    cases hx : source.value? m with
    | none => exact ⟨[], _, .upTo (x := (source, name)) rfl .nil hx, rfl⟩
    | some v =>
      obtain ⟨values, outcome, hgives, heq⟩ := ih
      refine ⟨_, outcome, .cons (x := (source, name)) hx hgives, ?_⟩
      rw [setAll, bind_assoc]
      exact bind_congr fun _ => heq

end Context

end Extracting

/-! ## Dealing with a message -/

/-- Nothing expected is met by every message. -/
theorem MessageExpectation.validate_of_isEmpty {x : MessageExpectation} (h : x.isEmpty)
    (lib : Library) (store : Store) (strictness : Strictness) (m : Message) :
    x.validate lib store strictness m = .ok () := by
  obtain ⟨payload, headers⟩ := x
  simp only [isEmpty, Bool.and_eq_true, Option.isNone_iff_eq_none, List.isEmpty_iff] at h
  obtain ⟨rfl, rfl⟩ := h
  rfl

namespace Context

variable (ctx : Context) (r : Receipt) (m : Message)

/-- Judges a message against variables and then sets some to parts of it. -/
def judge (ctx : Context) (r : Receipt) (m : Message) (store : Store) : Activity Unit := do
  Activity.ofExcept (r.expectation.validate ctx.library store r.strictness m)
  ctx.extract m r.extractions

theorem exists_makes (store : Store) : ∃ values outcome,
    r.Makes m ctx.library store values outcome ∧
    ctx.judge r m store = (do ctx.setAll values; Activity.ofExcept outcome) := by
  rw [judge]
  cases hvalid : r.expectation.validate ctx.library store r.strictness m with
  | error f => exact ⟨[], .error f, .invalid hvalid, rfl⟩
  | ok u =>
    obtain ⟨values, outcome, hgives, heq⟩ := ctx.exists_gives m r.extractions
    exact ⟨values, outcome, .valid hvalid hgives, heq⟩

theorem extract_headers_payload : (do ctx.extractHeaders m r.headerVariables
                                      ctx.extractPayload m r.payloadVariables) =
    ctx.extract m r.extractions := by
  rw [extractPayload_eq, extractHeaders_bind, Receipt.extractions]

/-- **A message is judged before anything is set**, against the variables as they are then. -/
theorem handle_eq (h : r.expectation.isEmpty = false) :
    ctx.handle r m = ctx.store >>= ctx.judge r m := by
  rw [handle, h, extract_headers_payload]
  rfl

/-- Where nothing is expected it does not matter what the variables are. -/
theorem handle_eq_of_isEmpty (h : r.expectation.isEmpty) (store : Store) :
    ctx.handle r m = ctx.judge r m store := by
  rw [handle, h, extract_headers_payload, judge,
    MessageExpectation.validate_of_isEmpty h ctx.library store r.strictness m]
  rfl

/-- What becomes of a session in which a message is dealt with. -/
theorem alone_handle (s : Session) : ∃ values outcome,
    r.Makes m ctx.library (s.store ctx.scope) values outcome ∧
      (ctx.handle r m).run.alone s = (outcome, s.changeStore ctx.scope (·.setAll values)) := by
  obtain ⟨values, outcome, hmakes, heq⟩ := ctx.exists_makes r m (s.store ctx.scope)
  have hjudge : (ctx.judge r m (s.store ctx.scope)).run.alone s =
      (outcome, s.changeStore ctx.scope (·.setAll values)) := by
    rw [heq]
    exact Activity.alone_bind_ok (alone_setAll ..)
  refine ⟨values, outcome, hmakes, ?_⟩
  cases h : r.expectation.isEmpty with
  | true => rwa [ctx.handle_eq_of_isEmpty r m h]
  | false =>
    rw [ctx.handle_eq r m h]
    exact (Activity.alone_bind_ok (Activity.alone_step ..)).trans hjudge

variable {ctx r m}

/-- The steps that set variables. -/
def writes (ctx : Context) (values : Fields Json) : List Taken :=
  values.map fun (name, value) => ⟨.write ctx.scope name value, ()⟩

theorem does_setAll {values : Fields Json} {taken : List Taken} {outcome : Outcome}
    (h : (ctx.setAll values).run.Does taken outcome) :
    taken = ctx.writes values ∧ outcome = .ok () := by
  induction values generalizing taken with
  | nil =>
    cases h
    exact ⟨rfl, rfl⟩
  | cons v rest ih =>
    obtain ⟨name, value⟩ := v
    cases h with
    | take y hrest =>
      obtain ⟨rfl, houtcome⟩ := ih hrest
      exact ⟨rfl, houtcome⟩

theorem does_judge {store : Store} {taken : List Taken} {outcome : Outcome}
    (h : (ctx.judge r m store).run.Does taken outcome) : ∃ values,
      r.Makes m ctx.library store values outcome ∧ taken = ctx.writes values := by
  obtain ⟨values, made, hmakes, heq⟩ := ctx.exists_makes r m store
  rw [heq] at h
  rcases Activity.does_bind h with ⟨before, u, after, hset, hmade, rfl⟩ | ⟨f, hset, -⟩
  · obtain ⟨rfl, rfl⟩ := Activity.does_ofExcept hmade
    obtain ⟨rfl, -⟩ := does_setAll hset
    exact ⟨values, hmakes, List.append_nil _⟩
  · cases (does_setAll hset).2

/-- The steps in which a message is dealt with, whatever they yield. -/
theorem does_handle {taken : List Taken} {outcome : Outcome}
    (h : (ctx.handle r m).run.Does taken outcome) : ∃ store values,
      r.Makes m ctx.library store values outcome ∧
        taken = (if r.expectation.isEmpty then [] else [⟨.read ctx.scope, store⟩]) ++
          ctx.writes values := by
  cases hempty : r.expectation.isEmpty with
  | true =>
    rw [ctx.handle_eq_of_isEmpty r m hempty .empty] at h
    obtain ⟨values, hmakes, rfl⟩ := does_judge h
    exact ⟨.empty, values, hmakes, rfl⟩
  | false =>
    rw [ctx.handle_eq r m hempty] at h
    cases h with
    | take store hrest =>
      obtain ⟨values, hmakes, rfl⟩ := does_judge hrest
      exact ⟨store, values, hmakes, rfl⟩

end Context

/-! ## Waiting for a message -/

/-- The reply that a step has taken out of a table. -/
def Taken.handed? : Taken → Option Message
  | ⟨.claimReply _ _, look⟩ => look.1
  | _ => none

/-- Whether a step neither changes variables nor brings a reply. -/
structure Taken.Waits (t : Taken) : Prop where
  writes : t.step.writes? = none
  opens : t.opens? = none
  handed : t.handed? = none

/-- What a claim has found it leaves no more. -/
theorem Session.get?_table_claimReply {s : Session} {m : Manager} {k : String} {reply : Message}
    (h : ((s.table m.table).claim k).1 = some reply) :
    ((s.take (.claimReply m k)).2.table m.table).get? k = none := by
  have hentry : ((s.table m.table).get? k).bind (·.reply) = some reply :=
    ((s.table m.table).handed?_eq k .claim).symm.trans h
  obtain ⟨entry, hentry, hreply⟩ := Option.bind_eq_some_iff.1 hentry
  have hrange : m.table < s.tables.length := by
    by_contra hout
    rw [table, List.getD_eq_getElem?_getD, List.getElem?_eq_none (Nat.le_of_not_lt hout)] at hentry
    cases hentry
  rw [show (s.take (.claimReply m k)).2.table m.table = _ from table_changeTable hrange _]
  exact (Correlation.Table.claim_of_get? hentry hreply).2

/-- The steps of a wait for a reply under a key, and what it has found.  If it has found a reply
then the last step has taken it out of the table. -/
inductive Manager.Awaits (m : Manager) (k : String) : List Taken → Option Message → Prop where
  | vain {taken : List Taken} (h : ∀ t ∈ taken, t.Waits) : Awaits m k taken none
  | finds (before : List Taken) {reply : Message} {now : Nat} (h : ∀ t ∈ before, t.Waits) :
    Awaits m k (before ++ [⟨.claimReply m k, (some reply, now)⟩]) (some reply)

namespace Manager

variable {m : Manager} {k : String} {s : Session} {taken after : List Taken}
  {found : Option Message}

/-- Looks change no variables, and what they find was in the table just before. -/
theorem alone_watch_cases (deadline remaining : Nat) :
    (∃ s', (m.watch k deadline remaining).alone s = (none, s') ∧ s'.scopes = s.scopes) ∨
      ∃ reply, ∃ u : Session, (m.watch k deadline remaining).alone s =
          (some reply, (u.take (.claimReply m k)).2) ∧
        u.scopes = s.scopes ∧ ((u.table m.table).claim k).1 = some reply := by
  induction remaining using Nat.strongRecOn generalizing s with
  | ind remaining ih =>
    cases hclaim : ((s.table m.table).claim k).1 with
    | some reply => exact .inr ⟨reply, s, alone_watch hclaim .., rfl, hclaim⟩
    | none =>
      have hlooked : (s.take (.claimReply m k)).1 = (none, s.clock) :=
        congrArg (fun found => (found, s.clock)) hclaim
      let looked := (s.take (.claimReply m k)).2
      rw [watch, Script.alone, hlooked, poll_none]
      split
      · exact .inl ⟨_, rfl, rfl⟩
      · next hleft =>
        -- what is left is less after a nap, and nothing is set during a nap
        have hpos := nap_pos (m := m) hleft
        have hle : left deadline remaining s.clock ≤ remaining := Nat.min_le_left ..
        have hscopes : ∀ ms, (looked.paused ms).scopes = s.scopes := looked.scopes_paused
        rcases ih (left deadline remaining s.clock - m.nap (left deadline remaining s.clock))
          (by omega) (s := looked.paused (m.nap (left deadline remaining s.clock)))
          with ⟨s', hs', hsame⟩ | ⟨reply, u, hu, hsame, hfound⟩
        · exact .inl ⟨s', hs', hsame.trans (hscopes _)⟩
        · exact .inr ⟨reply, u, hu, hsame.trans (hscopes _), hfound⟩

theorem Awaits.cons {t : Taken} (ht : t.Waits) (h : m.Awaits k taken found) :
    m.Awaits k (t :: taken) found := by
  cases h with
  | vain h => exact .vain (List.forall_mem_cons.2 ⟨ht, h⟩)
  | finds before h => exact .finds (t :: before) (List.forall_mem_cons.2 ⟨ht, h⟩)

theorem Awaits.append (h : m.Awaits k taken none) (hafter : ∀ t ∈ after, t.Waits) :
    m.Awaits k (taken ++ after) none := by
  cases h with
  | vain h => exact .vain (List.forall_mem_append.2 ⟨h, hafter⟩)

/-- The steps from a look on, the look included. -/
theorem does_poll {deadline remaining : Nat} (look : Option Message × Nat)
    (h : (m.poll k deadline remaining look).Does taken found) :
    m.Awaits k (⟨.claimReply m k, look⟩ :: taken) found := by
  induction remaining using Nat.strongRecOn generalizing look taken with
  | ind remaining ih =>
    obtain ⟨looked, now⟩ := look
    cases looked with
    | some reply =>
      rw [poll_some] at h
      cases h
      exact .finds [] (List.forall_mem_nil _)
    | none =>
      rw [poll_none] at h
      refine .cons ⟨rfl, rfl, rfl⟩ ?_
      split at h
      · cases h
        exact .vain (List.forall_mem_nil _)
      · next hleft =>
        have hpos := nap_pos (m := m) hleft
        have hle : left deadline remaining now ≤ remaining := Nat.min_le_left ..
        cases h with
        | pause h =>
          cases h with
          | take look h => exact ih _ (by omega) look h

theorem does_find {limit : Nat} {result : Except Failure Message}
    (h : (m.find k limit).run.Does taken result) : m.Awaits k taken result.toOption := by
  cases h with
  | take _ hrest =>
    cases hrest with
    | take look hrest =>
      refine .cons ⟨rfl, rfl, rfl⟩ ?_
      obtain ⟨before, found, after, hpoll, hend, rfl⟩ | ⟨f, hpoll, rfl⟩ := Activity.does_bind hrest
      · obtain ⟨_, hpoll, ⟨⟩⟩ := Activity.does_lift hpoll
        have hwait := does_poll look hpoll
        cases found with
        | none =>
          cases hend with
          | take _ hend =>
            cases hend
            exact hwait.append (List.forall_mem_singleton.2 ⟨rfl, rfl, rfl⟩)
        | some reply =>
          cases hend
          rwa [List.append_nil]
      · obtain ⟨_, -, hfail⟩ := Activity.does_lift hpoll
        cases hfail

end Manager

namespace Endpoint

variable {e : Endpoint} {ctx : Context} {k : String} {timeout : Option Nat} {taken : List Taken}

/-- A receive under a key changes no variables, and either its time runs out or it returns what was
in the table just before. -/
theorem alone_receiveSelected_cases (e : Endpoint) (ctx : Context) (k : String)
    (timeout : Option Nat) (s : Session) :
    (∃ s', (e.receiveSelected ctx k timeout).run.alone s =
        (.error (Call.noReply k (timeout.getD e.settings.timeout)), s') ∧ s'.scopes = s.scopes) ∨
      ∃ reply, ∃ u : Session, (e.receiveSelected ctx k timeout).run.alone s =
          (.ok reply, (u.take (.claimReply e.manager k)).2) ∧
        u.scopes = s.scopes ∧ ((u.table e.manager.table).claim k).1 = some reply := by
  let limit := timeout.getD e.settings.timeout
  rcases e.manager.alone_watch_cases (k := k) (s := (s.take (.purge e.manager)).2)
    (s.clock + limit) limit with ⟨s', hwatch, hscopes⟩ | ⟨reply, u, hwatch, hscopes, hfound⟩
  · refine .inl ⟨_, Activity.alone_tryCatch_error (Manager.alone_find hwatch) _, ?_⟩
    exact hscopes
  · exact .inr ⟨reply, u, Activity.alone_tryCatch_ok (Manager.alone_find hwatch) _,
      hscopes, hfound⟩

theorem does_receiveSelected {result : Except Failure Message}
    (h : (e.receiveSelected ctx k timeout).run.Does taken result) :
    e.manager.Awaits k taken result.toOption := by
  obtain ⟨before, found, after, hfind, hend, rfl⟩ := Script.Does.of_bind h
  have hwait := Manager.does_find hfind
  cases found with
  | ok reply =>
    cases hend
    rwa [List.append_nil]
  | error f =>
    have hend : (do if f.isTimeout then ExceptT.lift (ctx.report (.keyTimeout e.keyName k))
                    throw f : Activity Message).run.Does after result := hend
    cases htimeout : f.isTimeout with
    | true =>
      rw [htimeout] at hend
      cases hend with
      | take _ hend =>
        cases hend
        exact hwait.append (List.forall_mem_singleton.2 ⟨rfl, rfl, rfl⟩)
    | false =>
      rw [htimeout] at hend
      cases hend
      rwa [List.append_nil]

end Endpoint

namespace Context

variable {ctx : Context} {e : Endpoint} {r : Receipt} {s : Session}

/-- **A receive finds its key in the variables**, and then waits for a reply under it. -/
theorem obtain_eq : ctx.obtain e r = (do
    let store ← ctx.store
    let k ← Activity.ofExcept (r.key e ctx.library store)
    e.receiveSelected ctx k r.timeout) := by
  unfold obtain Receipt.key
  cases r.selector with
  | some selector => exact bind_assoc ..
  | none =>
    rw [Endpoint.receive, Manager.key, bind_assoc]
    refine bind_congr fun store => ?_
    cases store.get? e.keyName <;> rfl

/-- A receive without a key fails at once. -/
theorem alone_obtain_of_error {f : Failure}
    (h : r.key e ctx.library (s.store ctx.scope) = .error f) :
    (ctx.obtain e r).run.alone s = (.error f, s) := by
  rw [obtain_eq]
  refine (Activity.alone_bind_ok (Activity.alone_step ..)).trans ?_
  exact Activity.alone_bind_error ((Activity.alone_ofExcept ..).trans (congrArg (·, s) h))

theorem alone_obtain_of_ok {k : String} (h : r.key e ctx.library (s.store ctx.scope) = .ok k) :
    (ctx.obtain e r).run.alone s = (e.receiveSelected ctx k r.timeout).run.alone s := by
  rw [obtain_eq]
  refine (Activity.alone_bind_ok (Activity.alone_step ..)).trans ?_
  exact Activity.alone_bind_ok ((Activity.alone_ofExcept ..).trans (congrArg (·, s) h))

/-- Until there is a message nothing is set, whatever the steps yield. -/
theorem does_obtain {taken : List Taken} {result : Except Failure Message}
    (h : (ctx.obtain e r).run.Does taken result) :
    ∃ k, e.manager.Awaits k taken result.toOption := by
  rw [obtain_eq] at h
  cases h with
  | take store hrest =>
    rcases Activity.does_bind hrest with ⟨before, k, after, hkey, hreceive, rfl⟩ | ⟨f, hkey, rfl⟩
    · obtain ⟨rfl, -⟩ := Activity.does_ofExcept hkey
      exact ⟨k, .cons ⟨rfl, rfl, rfl⟩ (Endpoint.does_receiveSelected hreceive)⟩
    · obtain ⟨rfl, -⟩ := Activity.does_ofExcept hkey
      exact ⟨"", .vain (List.forall_mem_singleton.2 ⟨rfl, rfl, rfl⟩)⟩

end Context

/-! ## Receiving -/

/-- **A receive sets what its reply gives, and nothing before it has judged the reply.**  For any
endpoint, receipt, context and session:

* Without a key it fails at once, and the session is as it was.
* With a key its time runs out and nothing was set, or a reply is taken out of the table.  Then the
  receive has the outcome that the receipt makes of this reply and of the variables as they were
  before, it sets just what the receipt makes, in order, and the reply is gone whatever comes of it.
* Of values for one variable the last one counts.
* It succeeds just if the reply is as expected and every source is there.

Others can work in the same session, and then the variables are what they are when the reply is
judged.  Whatever its steps yield, a receive that ends has waited and set nothing, or it has waited
until a step took a reply out of the table, has looked at the variables if something is expected,
and has then set what the receipt makes of the reply, with no other step in between. -/
theorem receive_sets (ctx : Context) (e : Endpoint) (r : Receipt) :
    (∀ s : Session,
      let received := s.run (.ofActivity (ctx.receive e r))
      let store := s.store ctx.scope
      (∀ f, r.key e ctx.library store = .error f → received = (.error f, s)) ∧
      ∀ k, r.key e ctx.library store = .ok k →
        (received.1 = .error (Call.noReply k (r.timeout.getD e.settings.timeout)) ∧
          received.2.scopes = s.scopes) ∨
        ∃ reply values, ∃ found : Session, found.scopes = s.scopes ∧
          ((found.table e.manager.table).claim k).1 = some reply ∧
          received.2 = (found.take (.claimReply e.manager k)).2.changeStore ctx.scope
            (·.setAll values) ∧
          (received.2.table e.manager.table).get? k = none ∧
          r.Makes reply ctx.library store values received.1 ∧
          (∀ name, (store.setAll values).get? name =
            (Fields.get? values.reverse name).or (store.get? name)) ∧
          (received.1 = .ok () ↔
            r.expectation.validate ctx.library store r.strictness reply = .ok () ∧
              ∀ x ∈ r.extractions, ∃ v, x.1.value? reply = some v)) ∧
    ∀ taken outcome, (Course.ofActivity (ctx.receive e r)).Does taken (.done outcome) →
      ((∃ f, outcome = .error f) ∧ ∀ t ∈ taken, t.Waits) ∨
      ∃ k reply waiting store values, e.manager.Awaits k waiting (some reply) ∧
        r.Makes reply ctx.library store values outcome ∧
        taken = waiting ++ (if r.expectation.isEmpty then [] else [⟨.read ctx.scope, store⟩]) ++
          ctx.writes values := by
  refine ⟨fun s => ⟨fun f hkey => ?_, fun k hkey => ?_⟩, fun taken outcome h => ?_⟩
  · rw [Course.ofActivity, Session.run_ofScript]
    exact Activity.alone_bind_error (Context.alone_obtain_of_error hkey)
  · rw [Course.ofActivity, Session.run_ofScript]
    rcases e.alone_receiveSelected_cases ctx k r.timeout s with
      ⟨s', hvain, hscopes⟩ | ⟨reply, found, hfound, hscopes, hclaim⟩
    · have hobtain := (Context.alone_obtain_of_ok hkey).trans hvain
      rw [show (ctx.receive e r).run.alone s = _ from Activity.alone_bind_error hobtain]
      exact .inl ⟨rfl, hscopes⟩
    · have hobtain := (Context.alone_obtain_of_ok hkey).trans hfound
      obtain ⟨values, outcome, hmakes, hhandle⟩ := ctx.alone_handle r reply
        (found.take (.claimReply e.manager k)).2
      rw [show (ctx.receive e r).run.alone s = _ from
        (Activity.alone_bind_ok hobtain).trans hhandle]
      have hstore : (found.take (.claimReply e.manager k)).2.store ctx.scope = s.store ctx.scope :=
        congrArg (·.getD ctx.scope .empty) hscopes
      rw [hstore] at hmakes
      refine .inr ⟨reply, values, found, hscopes, hclaim, rfl, ?_, hmakes,
        Store.get?_setAll _ values, hmakes.eq_ok_iff⟩
      exact Session.get?_table_claimReply hclaim
  · have hreceive := Course.does_ofScript h
    rcases Activity.does_bind hreceive with
      ⟨waiting, reply, after, hobtain, hhandle, rfl⟩ | ⟨f, hobtain, rfl⟩
    · obtain ⟨k, hwait⟩ := Context.does_obtain hobtain
      obtain ⟨store, values, hmakes, rfl⟩ := Context.does_handle hhandle
      exact .inr ⟨k, reply, waiting, store, values, hwait, hmakes, (List.append_assoc ..).symm⟩
    · obtain ⟨k, hwait⟩ := Context.does_obtain hobtain
      cases hwait with
      | vain h => exact .inl ⟨⟨f, rfl⟩, h⟩

/-- What is expected of the header is in a variable that is set to a part of the payload later.  The
header is as expected, and of the two parts of the payload the second one is missing. -/
theorem receive_sets_shadowing :
    let e : Endpoint := { name := "orders", manager := { table := 0 }, transport := .echo 0,
                          channel := 0 }
    let ctx : Context := { scope := 0, library := ⟨"", "", []⟩, run := "" }
    let reply : Message := { id := "r", headers := [("state", .bool true)],
                             payload := .object [("id", .null)] }
    let r : Receipt := { expectation := { headers := [("state", "${x}")] }, selector := some "k",
                         headerVariables := [("state", "y")],
                         payloadVariables := [("/id", "x"), ("/total", "z")] }
    let s : Session := { scopes := [Store.empty.set "x" (.string "true")],
                         tables := [⟨[("k", { created := 0, reply := some reply })]⟩] }
    let received := s.run (.ofActivity (ctx.receive e r))
    received.1 = .error (.validation "cannot extract missing payload element '/total'") ∧
      (received.2.store 0).get? "x" = some .null ∧
      (received.2.store 0).get? "y" = some (.string "true") ∧
      (received.2.store 0).get? "z" = none ∧ (received.2.table 0).get? "k" = none := by
  intro e ctx reply r s received
  have hkey : r.key e ctx.library (s.store ctx.scope) = .ok "k" := by cbv
  have hwatch := Manager.alone_watch (m := e.manager) (k := "k")
    (s := (s.take (.purge e.manager)).2) (r := reply) rfl (s.clock + 5000) 5000
  have hobtain : (ctx.obtain e r).run.alone s = (.ok reply, _) :=
    (Context.alone_obtain_of_ok hkey).trans
      (Activity.alone_tryCatch_ok (Manager.alone_find hwatch) _)
  have hreceived : received = _ := (s.run_ofScript _).trans (Activity.alone_bind_ok hobtain)
  have hmissing : received.1 =
      .error (.validation "cannot extract missing payload element '/total'") := by
    rw [hreceived]
    cbv
  obtain ⟨hvain, -⟩ | ⟨_, _, _, -, -, -, hgone, -⟩ := ((receive_sets ctx e r).1 s).2 "k" hkey
  · cases hmissing.symm.trans hvain
  · refine ⟨hmissing, ?_, ?_, ?_, hgone⟩ <;>
    · rw [hreceived]
      cbv

end Scenario
