import Scenario.Proofs.Correlation.Call
import Scenario.Proofs.Endpoint.Exchange

/-!
# A send that fails

A send remembers its key and registers it before the message goes out, so when the transport fails
both are done.  The send then discards the key.  This is not the same as undoing what it did: the
registration leaves an entry alone that is there already, while the discard removes every entry that
waits for a reply, and nothing is done about the variables.

## What is here

* `Session.IdleUntil` — no reply arrives before some moment; a pause up to it only moves the clock.
* `Correlation.Table.discard_create` — a key that is registered and discarded is a key that is
  discarded, and `Correlation.Table.discard_eq_self_iff` says when this changes nothing.
* `Endpoint.noted` — the variables of a scope after a send, whatever came of it.
* `Manager.alone_find_none` — a find under a key without a reply waits until its time runs out.
* `Endpoint.failed_send` — the tables and the variables after a send that failed, when they are what
  they were before, and what a receive makes of them.
-/

set_option autoImplicit false

namespace Scenario

/-! ## Tables -/

namespace Correlation.Table

variable {ρ : Type} (t : Table ρ) (now : Nat) (key : String)

/-- Registering a key before it is discarded makes no difference. -/
theorem discard_create : (t.create now key).discard key = t.discard key := by
  rw [create]
  split
  · rfl
  · next h =>
    have hnone : t.get? key = none := by
      rw [Fields.has_eq_isSome] at h
      exact Option.not_isSome_iff_eq_none.1 h
    have hcreated : (⟨t.entries.set key { created := now }⟩ : Table ρ).get? key =
        some { created := now } := (Fields.get?_set ..).trans (if_pos rfl)
    have hremoved : (t.entries.set key { created := now }).remove key = t.entries := by
      rw [Fields.set_of_not_has (by simpa using h), Fields.remove_concat (by simpa using h)]
    rw [discard, hcreated, discard, hnone]
    simp [Entry.isPending, hremoved]

/-- A discard changes nothing just if no entry under the key waits for a reply. -/
theorem discard_eq_self_iff :
    t.discard key = t ↔ ∀ e ∈ t.get? key, e.isPending = false := by
  have hget := t.get?_act 0 0 key .discard key
  rw [if_pos rfl] at hget
  constructor
  · intro h e he
    rw [show t.act 0 0 key .discard = t from h, Option.mem_def.1 he] at hget
    have hkept : (some e).filter (!·.isPending) = some e := hget.symm
    simpa [Option.filter_some] using hkept
  · intro h
    rw [discard, if_neg]
    cases he : t.get? key with
    | none => simp
    | some e => simp [h e he]

/-- A claim that finds no reply changes nothing. -/
theorem claim_of_pending (h : ∀ e ∈ t.get? key, e.isPending) : t.claim key = (none, t) := by
  rw [claim]
  cases he : t.get? key with
  | none => rfl
  | some e =>
    have hreply : e.reply = none := Option.isNone_iff_eq_none.1 (h e he)
    simp [hreply]

end Correlation.Table

/-! ## Sessions in which nothing arrives -/

namespace Session

variable {s : Session} {time : Nat}

/-- Whether no reply arrives before a moment. -/
def IdleUntil (s : Session) (time : Nat) : Prop := ∀ d ∈ s.deliveries, time ≤ d.due

theorem passTo_passTo {first second : Nat} (h : first ≤ second) :
    (s.passTo first).passTo second = s.passTo second := by
  simp [passTo, Nat.max_assoc, Nat.max_eq_right h]

theorem passTo_clock : s.passTo s.clock = s := by
  rw [passTo, Nat.max_self]

theorem advance_of_forall_not {first : Delivery → Bool} (h : ∀ d ∈ s.deliveries, ¬ first d) :
    s.advance time first = s.passTo time := by
  have htake : s.deliveries.takeWhile first = [] := by
    cases hds : s.deliveries with
    | nil => rfl
    | cons d ds => exact List.takeWhile_cons_of_neg (h d (by simp [hds]))
  have hdrop : s.deliveries.dropWhile first = s.deliveries := by
    cases hds : s.deliveries with
    | nil => rfl
    | cons d ds => exact List.dropWhile_cons_of_neg (h d (by simp [hds]))
  rw [advance, htake, hdrop]
  rfl

theorem paused_of_idleUntil {ms : Nat} (h : s.IdleUntil (s.clock + min ms longestPause)) :
    s.paused ms = s.passTo (s.clock + min ms longestPause) := by
  cases ms with
  | zero => rw [paused, Nat.zero_min, Nat.add_zero, passTo_clock]
  | succ ms =>
    exact advance_of_forall_not fun d hd => by simpa using h d hd

theorem changeTable_eq_self {number : Nat}
    {change : Correlation.Table Message → Correlation.Table Message}
    (h : change (s.table number) = s.table number) : s.changeTable number change = s := by
  have htables : s.tables.modify number change = s.tables := by
    refine List.ext_getElem? fun i => ?_
    rw [List.getElem?_modify]
    by_cases hi : number = i
    · subst hi
      cases hget : s.tables[number]? with
      | none => rfl
      | some t =>
        have htable : s.table number = t := by
          rw [table, List.getD_eq_getElem?_getD, hget, Option.getD_some]
        simpa [htable] using h
    · simp [hi]
  rw [changeTable, htables]

end Session

/-! ## Waiting in vain -/

namespace Manager

variable {m : Manager} {key : String} {s : Session}

/-- Looks under a key without a reply go on until the deadline. -/
theorem alone_watch_none {deadline remaining : Nat} (hdeadline : s.clock + remaining = deadline)
    (hidle : s.IdleUntil deadline) (hpending : ∀ e ∈ (s.table m.table).get? key, e.isPending) :
    (m.watch key deadline remaining).alone s = (none, s.passTo deadline) := by
  induction remaining using Nat.strongRecOn generalizing s with
  | ind remaining ih =>
    have hclaim := Correlation.Table.claim_of_pending _ _ hpending
    have hlooked : s.take (.claimReply m key) = ((none, s.clock), s) := by
      rw [Session.take, hclaim, Session.changeTable_eq_self (by rw [hclaim])]
    have hleft : left deadline remaining s.clock = remaining := by
      rw [left]
      omega
    rw [watch, Script.alone, hlooked, poll_none, hleft]
    by_cases hzero : remaining = 0
    · rw [if_pos hzero, Script.alone, ← hdeadline, hzero, Nat.add_zero, Session.passTo_clock]
    · have hnap : m.nap remaining ≤ remaining ∧ min (m.nap remaining) Session.longestPause =
          m.nap remaining ∧ 0 < m.nap remaining := by
        have hpos := nap_pos (m := m) hzero
        simp only [nap] at hpos ⊢
        omega
      obtain ⟨hle, hmin, hpos⟩ := hnap
      have hpaused : s.paused (m.nap remaining) = s.passTo (s.clock + m.nap remaining) := by
        rw [Session.paused_of_idleUntil, hmin]
        intro d hd
        have hdue := hidle d hd
        omega
      have hclock : (s.passTo (s.clock + m.nap remaining)).clock = s.clock + m.nap remaining :=
        Nat.max_eq_right (Nat.le_add_right ..)
      have hrest := ih (remaining - m.nap remaining) (by omega)
        (s := s.passTo (s.clock + m.nap remaining)) (by omega) hidle hpending
      rw [if_neg hzero, Script.alone, hpaused, hrest, Session.passTo_passTo (by omega)]

/-- A find under a key without a reply that is kept ends when its time has run out, while no reply
arrives. -/
theorem alone_find_none {timeout : Nat} (htable : m.table < s.tables.length)
    (hidle : s.IdleUntil (s.clock + timeout))
    (hpending : ∀ e ∈ ((s.table m.table).purge s.clock m.retention).get? key, e.isPending) :
    ∃ s', (m.find key timeout).run.alone s = (.error (Call.noReply key timeout), s') ∧
      s'.clock = s.clock + timeout := by
  have hpurged : (s.take (.purge m)).2.table m.table =
      (s.table m.table).purge s.clock m.retention := Session.table_changeTable htable _
  exact ⟨_, alone_find (alone_watch_none rfl hidle (hpurged ▸ hpending)),
    Nat.max_eq_right (Nat.le_add_right ..)⟩

variable (m key s) in
/-- Whatever happens to a find, it ends with a reply or because its time has run out. -/
theorem alone_find_cases (timeout : Nat) :
    (∃ r s', (m.find key timeout).run.alone s = (.ok r, s')) ∨
      ∃ s', (m.find key timeout).run.alone s = (.error (Call.noReply key timeout), s') := by
  cases h : (m.watch key (s.clock + timeout) timeout).alone (s.take (.purge m)).2 with
  | mk found s' =>
    cases found with
    | none => exact .inr ⟨_, alone_find h⟩
    | some r => exact .inl ⟨r, s', alone_find h⟩

end Manager

/-! ## Sends that fail -/

namespace Endpoint

variable {e : Endpoint} {ctx : Context} {request : Message} {f : Failure} {k : String}
  {s : Session}

/-- The variables of a scope after a send, whatever came of it. -/
def noted (e : Endpoint) (request : Message) (k : String) (store : Store) : Store :=
  let store := store.set e.keyName (.string k)
  match e.settings.messageIdVariable with
  | some name => store.set name (.string request.id)
  | none => store

/-- The key that a scope remembers after a send.  The variable for the identifier of the message can
be the one for the key. -/
def remembered (e : Endpoint) (request : Message) (k : String) : String :=
  if e.settings.messageIdVariable = some e.keyName then request.id else k

theorem get?_noted (store : Store) :
    (e.noted request k store).get? e.keyName = some (.string (e.remembered request k)) := by
  have hkey : (store.set e.keyName (.string k)).get? e.keyName = some (.string k) :=
    (Fields.get?_set ..).trans (if_pos rfl)
  rw [noted, remembered]
  cases e.settings.messageIdVariable with
  | none => exact hkey
  | some name =>
    refine (Fields.get?_set ..).trans ?_
    by_cases hname : e.keyName = name
    · simp [hname]
    · rw [if_neg hname, if_neg fun heq => hname (Option.some.inj heq).symm]
      exact hkey

theorem scopes_registered : (e.registered ctx request k s).scopes =
    s.scopes.modify ctx.scope (e.noted request k) := by
  rw [registered]
  cases hname : e.settings.messageIdVariable with
  | none =>
    have hnoted : e.noted request k = (·.set e.keyName (.string k)) := by
      funext store
      rw [noted, hname]
    rw [hnoted]
    rfl
  | some name =>
    have hnoted : e.noted request k =
        (·.set name (.string request.id)) ∘ (·.set e.keyName (.string k)) := by
      funext store
      rw [noted, hname]
      rfl
    rw [hnoted, ← List.modify_modify_eq]
    rfl

theorem tables_registered : (e.registered ctx request k s).tables =
    s.tables.modify e.manager.table (·.create s.clock k) := by
  rw [registered]
  split <;> rfl

theorem deliveries_registered : (e.registered ctx request k s).deliveries = s.deliveries := by
  rw [registered]
  split <;> rfl

theorem dispatched_of_idleUntil
    (h : s.IdleUntil (s.clock + min e.transport.latency Session.longestPause)) :
    (e.dispatched request s).tables = s.tables ∧
      (e.dispatched request s).deliveries = s.deliveries := by
  have hpaused := Session.paused_of_idleUntil (s := s.transcribe e.channel request) h
  rw [dispatched, hpaused]
  exact ⟨rfl, rfl⟩

/-- A send that fails takes the key back. -/
theorem alone_send_of_failure (hk : e.correlator.requestKey? request = some k)
    (hf : e.transport.respond (e.asked s request) = .failure f) :
    (e.send ctx request).run.alone s =
      (.error f, (e.dispatched request (e.registered ctx request k s)).changeTable e.manager.table
        (·.discard k)) := by
  rw [alone_send hk, hf]
  rfl

variable (ctx) in
/-- A receive that does not find a reply reports it, which takes no time. -/
theorem alone_receiveSelected_of_error {timeout : Option Nat} {s' : Session}
    (h : (e.manager.find k (timeout.getD e.settings.timeout)).run.alone s =
      (.error (Call.noReply k (timeout.getD e.settings.timeout)), s')) :
    ∃ s'', (e.receiveSelected ctx k timeout).run.alone s =
      (.error (Call.noReply k (timeout.getD e.settings.timeout)), s'') ∧ s''.clock = s'.clock :=
  ⟨_, Activity.alone_tryCatch_error h _, rfl⟩

/-- A receive with a key looks for a reply under it. -/
theorem run_receive (hkey : (s.store ctx.scope).get? e.keyName = some (.string k))
    (timeout : Option Nat) :
    s.run (.ofScript (e.receive ctx timeout).run) = (e.receiveSelected ctx k timeout).run.alone s :=
  (s.run_ofScript _).trans (Activity.alone_bind_ok (alone_key hkey))

/-- A receive with a key ends with a reply or because its time has run out. -/
theorem run_receive_cases (hkey : (s.store ctx.scope).get? e.keyName = some (.string k))
    (timeout : Option Nat) :
    (∃ r, (s.run (.ofScript (e.receive ctx timeout).run)).1 = .ok r) ∨
      (s.run (.ofScript (e.receive ctx timeout).run)).1 =
        .error (Call.noReply k (timeout.getD e.settings.timeout)) := by
  rw [run_receive hkey]
  rcases e.manager.alone_find_cases k s (timeout.getD e.settings.timeout) with
    ⟨r, s', hfound⟩ | ⟨s', hnone⟩
  · exact .inl ⟨r, congrArg Prod.fst (Activity.alone_tryCatch_ok hfound _)⟩
  · obtain ⟨s'', hselected, -⟩ := alone_receiveSelected_of_error ctx hnone
    exact .inr (congrArg Prod.fst hselected)

/-- A receive with a key without a reply waits in vain for as long as it may, while none arrives. -/
theorem run_receive_none {timeout : Option Nat}
    (hkey : (s.store ctx.scope).get? e.keyName = some (.string k))
    (htable : e.manager.table < s.tables.length)
    (hidle : s.IdleUntil (s.clock + timeout.getD e.settings.timeout))
    (hpending : ∀ entry ∈ ((s.table e.manager.table).purge s.clock e.manager.retention).get? k,
      entry.isPending) :
    (s.run (.ofScript (e.receive ctx timeout).run)).1 =
        .error (Call.noReply k (timeout.getD e.settings.timeout)) ∧
      (s.run (.ofScript (e.receive ctx timeout).run)).2.clock =
        s.clock + timeout.getD e.settings.timeout := by
  obtain ⟨s', hnone, hlate⟩ := Manager.alone_find_none htable hidle hpending
  obtain ⟨s'', hselected, hreported⟩ := alone_receiveSelected_of_error ctx hnone
  rw [run_receive hkey, hselected]
  exact ⟨rfl, hreported.trans hlate⟩

end Endpoint

/-- **What a send that fails leaves behind.**  While no reply arrives, the tables are as they were
but for the entry under the key: if it waits for a reply it is gone, no matter whether this send
registered it or an earlier one.  So the tables have not changed just if there was no such entry.
The variable for the key has the key of the message that did not go out, and nothing takes it back;
it is as it was just if it had this value before.  A receive in the scope therefore never says that
there is no key.  If there is no reply that is kept under the key that the scope remembers, it waits
in vain for as long as it may. -/
theorem failed_send {e : Endpoint} {ctx : Context} {request : Message} {f : Failure} {k : String}
    {s : Session} (hk : e.correlator.requestKey? request = some k)
    (hscope : ctx.scope < s.scopes.length) (htable : e.manager.table < s.tables.length)
    (hf : e.transport.respond (e.asked s request) = .failure f)
    (hidle : s.IdleUntil (s.clock + min e.transport.latency Session.longestPause)) :
    let sent := s.run (.ofScript (e.send ctx request).run)
    let key := e.remembered request k
    sent.1 = .error f ∧
      sent.2.clock = s.clock + min e.transport.latency Session.longestPause ∧
      sent.2.deliveries = s.deliveries ∧
      sent.2.tables = s.tables.modify e.manager.table (·.discard k) ∧
      (sent.2.tables = s.tables ↔
        ∀ entry ∈ (s.table e.manager.table).get? k, entry.isPending = false) ∧
      sent.2.scopes = s.scopes.modify ctx.scope (e.noted request k) ∧
      ((sent.2.store ctx.scope).get? e.keyName = (s.store ctx.scope).get? e.keyName ↔
        (s.store ctx.scope).get? e.keyName = some (.string key)) ∧
      ∀ timeout : Option Nat,
        let received := sent.2.run (.ofScript (e.receive ctx timeout).run)
        let limit := timeout.getD e.settings.timeout
        ((∃ r, received.1 = .ok r) ∨ received.1 = .error (Call.noReply key limit)) ∧
          (sent.2.IdleUntil (sent.2.clock + limit) →
            (∀ entry ∈ ((sent.2.table e.manager.table).purge sent.2.clock
              e.manager.retention).get? key, entry.isPending) →
            received.1 = .error (Call.noReply key limit) ∧
              received.2.clock = sent.2.clock + limit) := by
  intro sent key
  have hsent : sent = _ := (s.run_ofScript _).trans (Endpoint.alone_send_of_failure hk hf)
  have hclock := Endpoint.clock_registered e ctx request k s
  obtain ⟨hdispatched, hdeliveries⟩ := @Endpoint.dispatched_of_idleUntil e request
    (e.registered ctx request k s)
    (by rwa [hclock, Session.IdleUntil, Endpoint.deliveries_registered])
  have htables : sent.2.tables = s.tables.modify e.manager.table (·.discard k) := by
    have hcreate : (Correlation.Table.discard · k) ∘ (Correlation.Table.create · s.clock k) =
        (Correlation.Table.discard (ρ := Message) · k) :=
      funext fun t => t.discard_create s.clock k
    rw [hsent, Session.changeTable, hdispatched, Endpoint.tables_registered,
      List.modify_modify_eq, hcreate]
  have hscopes : sent.2.scopes = s.scopes.modify ctx.scope (e.noted request k) := by
    rw [hsent]
    exact (Session.scopes_paused ..).trans Endpoint.scopes_registered
  have hkey : (sent.2.store ctx.scope).get? e.keyName = some (.string key) := by
    have hstore : sent.2.store ctx.scope = e.noted request k (s.store ctx.scope) := by
      rw [Session.store, hscopes]
      exact Session.store_changeStore hscope _
    rw [hstore, Endpoint.get?_noted]
  have hlater : sent.2.clock = s.clock + min e.transport.latency Session.longestPause := by
    rw [hsent, ← hclock]
    exact Session.clock_paused ..
  have hqueue : sent.2.deliveries = s.deliveries := by
    rw [hsent]
    exact hdeliveries.trans Endpoint.deliveries_registered
  refine ⟨by rw [hsent], hlater, hqueue, htables, ?_, hscopes, ?_, fun timeout => ?_⟩
  · rw [htables, ← Correlation.Table.discard_eq_self_iff]
    have hchanged := Session.table_changeTable htable (Correlation.Table.discard · k)
    constructor
    · intro h
      rw [← hchanged, Session.table, Session.changeTable, h, Session.table]
    · intro h
      have hself : s.changeTable e.manager.table (Correlation.Table.discard · k) = s :=
        Session.changeTable_eq_self h
      exact congrArg Session.tables hself
  · rw [hkey]
    exact eq_comm
  · have hlength : e.manager.table < sent.2.tables.length := by
      rw [htables, List.length_modify]
      exact htable
    exact ⟨Endpoint.run_receive_cases hkey timeout,
      fun hquiet hpending => Endpoint.run_receive_none hkey hlength hquiet hpending⟩

/-- An earlier send has registered the same key in a table that it shares, and nothing was sent in
the scope before.  The failed send takes the key from the earlier one, and the receive behind it
waits for a reply to a message that did not go out. -/
theorem failed_send_shared_key :
    let e : Endpoint := { name := "orders", manager := { table := 0 }, transport := .failing "down",
                          channel := 0 }
    let ctx : Context := { scope := 0, library := ⟨"", "", []⟩, run := "" }
    let s : Session := { clock := 1000, scopes := [.empty], transcripts := [[]],
                         tables := [⟨[("m", { created := 900 })]⟩] }
    let sent := s.run (.ofScript (e.send ctx { id := "m", payload := .null }).run)
    let received := sent.2.run (.ofScript (e.receive ctx (some 200)).run)
    (s.table 0).state? "m" = some .created ∧ (s.store 0).get? e.keyName = none ∧
      sent.1 = .error (.transport "orders" "down") ∧ sent.2.tables ≠ s.tables ∧
      (sent.2.store 0).get? e.keyName ≠ (s.store 0).get? e.keyName ∧
      received.1 = .error (Call.noReply "m" 200) ∧ received.2.clock = 1200 := by
  intro e ctx s sent received
  obtain ⟨hfails, hclock, hdeliveries, htables, hsame, -, hvariable, hreceive⟩ := @failed_send e
    ctx { id := "m", payload := .null } (.transport "orders" "down") "m" s rfl Nat.one_pos
    Nat.one_pos rfl (List.forall_mem_nil _)
  have htable : sent.2.table 0 = {} := by
    rw [Session.table, htables]
    rfl
  have hidle : sent.2.IdleUntil (sent.2.clock + 200) := by
    rw [Session.IdleUntil, hdeliveries]
    exact List.forall_mem_nil _
  obtain ⟨hnone, htimeout⟩ := (hreceive (some 200)).2 hidle fun entry hentry => by
    rw [htable] at hentry
    exact absurd hentry (Option.not_mem_none entry)
  refine ⟨rfl, rfl, hfails, fun h => ?_, fun h => ?_, hnone, htimeout.trans (by rw [hclock]; rfl)⟩
  · exact absurd (hsame.1 h _ rfl) (by decide)
  · exact Option.some_ne_none _ (hvariable.1 h).symm

end Scenario
