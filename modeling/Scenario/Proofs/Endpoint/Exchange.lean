import Scenario.Endpoint.Basic
import Scenario.Proofs.Correlation.Act
import Scenario.Proofs.Session.Ownership
import Scenario.Proofs.Session.Run

/-!
# A request that is answered at once

A transport can have the reply before the send is over.  The send then puts it into the table of the
endpoint, and a receive finds it there.  Whatever has been under the key before is in the way of
neither: the store purges what is too old, takes over the time of an entry that is not, and so what
it leaves behind outlives another purge at the same moment.

## What is here

* `Table.get?_store` — a reply that is stored is kept, if anything is kept at all.
* `Endpoint.Holds` — what a send leaves behind that was answered at once: the variable of the scope
  has the key, and the reply is in the table.
* `Endpoint.alone_send` and `Endpoint.alone_receive` — a send comes to this, and a receive goes on
  from it, neither with a word on what was there before.
* `Endpoint.receive_after_send` — both together.
-/

set_option autoImplicit false

namespace Scenario

/-! ## Tables -/

namespace Correlation.Table

variable {ρ : Type} {t : Table ρ} {now retention : Nat} {key : String} {e : Entry ρ}

theorem get?_purge_of_isKept (h : t.get? key = some e) (he : e.isKept now retention) :
    (t.purge now retention).get? key = some e :=
  Fields.get?_filter h _ he

theorem isKept_of_get?_purge (h : (t.purge now retention).get? key = some e) :
    e.isKept now retention :=
  (List.mem_filter.1 (Fields.mem_of_get? h)).2

/-- **A reply that is stored is kept**, whatever has been under its key. -/
theorem get?_store (t : Table ρ) (hretention : 0 < retention) (now : Nat) (key : String)
    (reply : ρ) : ∃ e, (t.store now retention key reply).get? key = some e ∧ e.reply = some reply ∧
      e.isKept now retention := by
  have hput := (t.purge now retention).get?_act now retention key (.put reply) key
  rw [if_pos rfl] at hput
  refine ⟨_, hput, rfl, ?_⟩
  cases hentry : (t.purge now retention).get? key with
  | none => exact decide_eq_true (Nat.lt_of_le_of_lt (Nat.le_of_eq (Nat.sub_self now)) hretention)
  | some e => exact isKept_of_get?_purge (e := e) hentry

/-- A claim takes the reply and leaves nothing. -/
theorem claim_of_get? {reply : ρ} (h : t.get? key = some e) (hreply : e.reply = some reply) :
    (t.claim key).1 = some reply ∧ (t.claim key).2.get? key = none := by
  have hhanded := t.handed?_eq key .claim
  have hclaim := t.get?_act 0 0 key .claim key
  rw [if_pos rfl, h] at hclaim
  rw [h] at hhanded
  refine ⟨hhanded.trans hreply, hclaim.trans ?_⟩
  rw [Act.onEntry, Option.filter_some, Entry.isPending, hreply]
  rfl

end Correlation.Table

/-! ## Sessions -/

namespace Session

variable {s : Session}

theorem table_changeTable {number : Nat} (h : number < s.tables.length)
    (change : Correlation.Table Message → Correlation.Table Message) :
    (s.changeTable number change).table number = change (s.table number) := by
  show (s.tables.modify number change).getD number _ = _
  rw [List.getD_eq_getElem?_getD, List.getElem?_modify_eq, List.getElem?_eq_getElem h]
  rw [table, List.getD_eq_getElem?_getD, List.getElem?_eq_getElem h]
  rfl

theorem table_storeReply {m : Manager} (h : m.table < s.tables.length) (key : String)
    (reply : Message) : (s.storeReply m key reply).table m.table =
      (s.table m.table).store s.clock m.retention key reply :=
  table_changeTable h _

end Session

/-! ## Sending and receiving -/

theorem Manager.alone_watch {m : Manager} {k : String} {r : Message} {s : Session}
    (hfound : ((s.table m.table).claim k).1 = some r) (deadline remaining : Nat) :
    (m.watch k deadline remaining).alone s = (some r, (s.take (.claimReply m k)).2) := by
  have hlook : (s.take (.claimReply m k)).1 = (some r, s.clock) :=
    congrArg (fun found => (found, s.clock)) hfound
  rw [watch, Script.alone, hlook, poll_some]
  rfl

/-- What a find comes to after it has purged.  The deadline is counted from the first look, which is
made at the same time. -/
theorem Manager.alone_find {m : Manager} {key : String} {s s' : Session} {timeout : Nat}
    {found : Option Message}
    (h : (m.watch key (s.clock + timeout) timeout).alone (s.take (.purge m)).2 = (found, s')) :
    (m.find key timeout).run.alone s =
      match found with
      | some r => (.ok r, s')
      | none => (.error (.timeout s!"no reply received for correlation key '{key}'" timeout),
          (s'.take (.expireKey m key)).2) := by
  let purged := (s.take (.purge m)).2
  let look := purged.take (.claimReply m key)
  have hpoll := Activity.alone_lift (m.poll key (s.clock + timeout) timeout look.1) look.2
  rw [show (m.poll key (s.clock + timeout) timeout look.1).alone look.2 = (found, s') from h]
    at hpoll
  cases found with
  | some r => exact Activity.alone_bind_ok hpoll
  | none => exact Activity.alone_bind_ok hpoll

namespace Endpoint

variable {e : Endpoint} {ctx : Context} {request r : Message} {k : String} {s : Session}

/-- What the transport is asked when a message is sent. -/
def asked (e : Endpoint) (s : Session) (request : Message) : Dispatch :=
  { endpoint := e.name, earlier := (s.transcript e.channel).length, request := request,
    blank := request.reply (Ident.nth s.idents)
      (Moment.iso (s.clock + min e.transport.latency Session.longestPause)) .null }

/-- Whether a scope remembers a key under which a reply waits in the table that is kept still. -/
structure Holds (e : Endpoint) (ctx : Context) (k : String) (r : Message) (s : Session) : Prop where
  key : (s.store ctx.scope).get? e.keyName = some (.string k)
  table : e.manager.table < s.tables.length
  reply : ∃ entry, (s.table e.manager.table).get? k = some entry ∧ entry.reply = some r ∧
    entry.isKept s.clock e.manager.retention

/-- What there is of a message in a session before it goes out. -/
def registered (e : Endpoint) (ctx : Context) (request : Message) (k : String) (s : Session) :
    Session :=
  let s := s.changeStore ctx.scope (·.set e.keyName (.string k))
  let s := s.changeTable e.manager.table (·.create s.clock k)
  match e.settings.messageIdVariable with
  | some name => s.changeStore ctx.scope (·.set name (.string request.id))
  | none => s

/-- A session after the transport has taken its time. -/
def dispatched (e : Endpoint) (request : Message) (s : Session) : Session :=
  (((s.transcribe e.channel request).paused e.transport.latency).generate).2

theorem alone_dispatch : (e.dispatch request).alone s =
    (e.transport.respond (e.asked s request), e.dispatched request s) := by
  have hidents := Session.idents_paused (s.transcribe e.channel request) e.transport.latency
  have hclock := Session.clock_paused (s.transcribe e.channel request) e.transport.latency
  have hasked : e.asked s request = ⟨e.name, (s.transcript e.channel).length, request,
      request.reply (Ident.nth ((s.transcribe e.channel request).paused e.transport.latency).idents)
        (Moment.iso ((s.transcribe e.channel request).paused e.transport.latency).clock)
          .null⟩ := by
    rw [hidents, hclock]
    rfl
  rw [hasked]
  rfl

variable (e ctx request k s) in
theorem asked_registered : e.asked (e.registered ctx request k s) request = e.asked s request := by
  rw [registered]
  split <;> rfl

/-- **What a send does** up to the moment in which the transport answers. -/
theorem alone_send (hk : e.correlator.requestKey? request = some k) :
    (e.send ctx request).run.alone s =
      (e.settle k (e.transport.respond (e.asked s request))).run.alone
        (e.dispatched request (e.registered ctx request k s)) := by
  have hdispatch : ∀ s', (do
      let response ← ExceptT.lift (e.dispatch request)
      e.settle k response : Activity Unit).run.alone s' =
      (e.settle k (e.transport.respond (e.asked s' request))).run.alone
        (e.dispatched request s') := by
    intro s'
    have hlift := Activity.alone_lift (e.dispatch request) s'
    rw [alone_dispatch] at hlift
    exact Activity.alone_bind_ok hlift
  have hcreate : (e.manager.create ctx e.keyName k).run.alone s = (.ok (), _) := rfl
  rw [← asked_registered e ctx request k s, send, hk, registered]
  refine (Activity.alone_bind_ok hcreate).trans ?_
  cases e.settings.messageIdVariable with
  | some name => exact (Activity.alone_bind_ok rfl).trans (hdispatch _)
  | none => exact hdispatch _

theorem key_registered (hscope : ctx.scope < s.scopes.length)
    (hvariable : e.settings.messageIdVariable ≠ some e.keyName) :
    ((e.registered ctx request k s).store ctx.scope).get? e.keyName = some (.string k) := by
  have hkey := Session.get?_store_changeStore hscope e.keyName (.string k) e.keyName
  rw [if_pos rfl] at hkey
  rw [registered]
  cases hname : e.settings.messageIdVariable with
  | none => exact hkey
  | some name =>
    have hne : e.keyName ≠ name := fun heq => hvariable (hname.trans (congrArg some heq.symm))
    have hlength : (s.changeStore ctx.scope (·.set e.keyName (.string k))).scopes.length =
        s.scopes.length := List.length_modify ..
    have hother := Session.get?_store_changeStore (hlength ▸ hscope) name (.string request.id)
      e.keyName
    rw [if_neg hne] at hother
    exact hother.trans hkey

theorem length_tables_registered :
    (e.registered ctx request k s).tables.length = s.tables.length := by
  rw [registered]
  split <;> exact List.length_modify ..

variable (e ctx request k s) in
theorem clock_registered : (e.registered ctx request k s).clock = s.clock := by
  rw [registered]
  split <;> rfl

/-- **A send that is answered at once** leaves the key in the variable and the reply under the
key. -/
theorem alone_send_of_reply (hk : e.correlator.requestKey? request = some k)
    (hscope : ctx.scope < s.scopes.length) (htable : e.manager.table < s.tables.length)
    (hretention : 0 < e.manager.retention)
    (hvariable : e.settings.messageIdVariable ≠ some e.keyName)
    (hr : e.transport.respond (e.asked s request) = .reply r) :
    ∃ s', (e.send ctx request).run.alone s = (.ok (), s') ∧ e.Holds ctx k r s' ∧
      s'.clock = s.clock + min e.transport.latency Session.longestPause := by
  have hscopes : (e.dispatched request (e.registered ctx request k s)).scopes =
      (e.registered ctx request k s).scopes := Session.scopes_paused ..
  have htables : (e.dispatched request (e.registered ctx request k s)).tables.length =
      s.tables.length := (Session.length_tables_paused ..).trans length_tables_registered
  have hclock : (e.dispatched request (e.registered ctx request k s)).clock =
      s.clock + min e.transport.latency Session.longestPause := by
    rw [← clock_registered e ctx request k s]
    exact Session.clock_paused ..
  rw [alone_send hk, hr]
  refine ⟨_, rfl, ⟨?_, ?_, ?_⟩, hclock⟩
  · exact (congrArg (fun scopes => (scopes.getD ctx.scope .empty).get? e.keyName) hscopes).trans
      (key_registered hscope hvariable)
  · exact ((List.length_modify ..).trans htables).symm ▸ htable
  · obtain ⟨entry, hentry⟩ := Correlation.Table.get?_store
      ((e.dispatched request (e.registered ctx request k s)).table e.manager.table) hretention
      (e.dispatched request (e.registered ctx request k s)).clock k r
    rw [← Session.table_storeReply (htables ▸ htable)] at hentry
    exact ⟨entry, hentry⟩

theorem alone_key (h : (s.store ctx.scope).get? e.keyName = some (.string k)) :
    (Manager.key ctx e.keyName).run.alone s = (.ok k, s) := by
  refine (Activity.alone_bind_ok (Activity.alone_step _ s)).trans ?_
  have hkey : (s.take (.read ctx.scope)).1.get? e.keyName = some (.string k) := h
  rw [hkey]
  rfl

/-- The first look finds the reply: the purge before it keeps what was kept a moment ago. -/
theorem alone_find (h : e.Holds ctx k r s) (timeout : Nat) :
    ∃ s', (e.manager.find k timeout).run.alone s = (.ok r, s') ∧ s'.clock = s.clock ∧
      (s'.table e.manager.table).get? k = none := by
  obtain ⟨entry, hentry, hreply, hkept⟩ := h.reply
  let purged := (s.take (.purge e.manager)).2
  have hlength : e.manager.table < purged.tables.length :=
    (List.length_modify ..).symm ▸ h.table
  have hpurged : (purged.table e.manager.table).get? k = some entry := by
    rw [show purged.table e.manager.table = _ from Session.table_changeTable h.table _]
    exact Correlation.Table.get?_purge_of_isKept hentry hkept
  obtain ⟨hfound, hnone⟩ := Correlation.Table.claim_of_get? hpurged hreply
  have hfind := Manager.alone_find (Manager.alone_watch hfound (s.clock + timeout) timeout)
  have hclaim := Session.table_changeTable hlength fun t => (t.claim k).2
  exact ⟨(purged.take (.claimReply e.manager k)).2, hfind, rfl,
    (congrArg (·.get? k) hclaim).trans hnone⟩

/-- **A receive takes the reply that is there** without waiting. -/
theorem alone_receive (h : e.Holds ctx k r s) (timeout : Option Nat) :
    ∃ s', (e.receive ctx timeout).run.alone s = (.ok r, s') ∧ s'.clock = s.clock ∧
      (s'.table e.manager.table).get? k = none := by
  obtain ⟨s', hfind, hafter⟩ := alone_find h (timeout.getD e.settings.timeout)
  refine ⟨s', (Activity.alone_bind_ok (alone_key h.key)).trans ?_, hafter⟩
  exact Activity.alone_tryCatch_ok hfind _

end Endpoint

/-- **A receive right after a send returns the reply that the transport gave**, without waiting and
for every timeout, and it leaves nothing under the key.  What has been in the table before does not
matter, and neither does what arrives there while the transport takes its time. -/
theorem receive_after_send {e : Endpoint} {ctx : Context} {request r : Message} {k : String}
    {s : Session} (hk : e.correlator.requestKey? request = some k)
    (hscope : ctx.scope < s.scopes.length) (htable : e.manager.table < s.tables.length)
    (hretention : 0 < e.manager.retention)
    (hvariable : e.settings.messageIdVariable ≠ some e.keyName)
    (hr : e.transport.respond (e.asked s request) = .reply r) (timeout : Option Nat) :
    let sent := s.run (.ofScript (e.send ctx request).run)
    let received := sent.2.run (.ofScript (e.receive ctx timeout).run)
    sent.1 = .ok () ∧ sent.2.clock = s.clock + min e.transport.latency Session.longestPause ∧
      received.1 = .ok r ∧ received.2.clock = sent.2.clock ∧
      (received.2.table e.manager.table).get? k = none := by
  intro sent received
  obtain ⟨s₁, hsend, hholds, hclock⟩ :=
    e.alone_send_of_reply hk hscope htable hretention hvariable hr
  obtain ⟨s₂, hreceive, hafter⟩ := Endpoint.alone_receive hholds timeout
  have hsent : sent = (.ok (), s₁) := (s.run_ofScript _).trans hsend
  have hreceived : received = (.ok r, s₂) := by
    rw [show received = _ from Session.run_ofScript _ _, hsent]
    exact hreceive
  rw [hreceived, hsent]
  exact ⟨rfl, hclock, rfl, hafter⟩

/-- The key was used before and a wait for it ran out, the transport takes longer than anything is
kept, and the receive is not to wait at all. -/
theorem receive_after_send_stale_key :
    let e : Endpoint := { name := "orders", manager := { table := 0, retention := 100 },
                          transport := .echo 150, channel := 0 }
    let ctx : Context := { scope := 0, library := ⟨"", "", []⟩, run := "" }
    let s : Session := { clock := 1000, scopes := [.empty], transcripts := [[]],
                         tables := [⟨[("m", { created := 0, expired := some 900 })]⟩] }
    let sent := s.run (.ofScript (e.send ctx { id := "m", payload := .bool true }).run)
    let received := sent.2.run (.ofScript (e.receive ctx (some 0)).run)
    sent.2.clock = 1150 ∧ received.1.map (·.payload) = .ok (.bool true) ∧
      received.2.clock = 1150 ∧ (received.2.table 0).get? "m" = none := by
  intro e ctx s sent received
  obtain ⟨-, hclock, hreply, hnow, hnone⟩ := @receive_after_send e ctx
    { id := "m", payload := .bool true } _ "m" s rfl Nat.one_pos Nat.one_pos (by decide) nofun rfl
    (some 0)
  refine ⟨hclock, ?_, hnow.trans hclock, hnone⟩
  rw [show received.1 = _ from hreply]
  rfl

end Scenario
