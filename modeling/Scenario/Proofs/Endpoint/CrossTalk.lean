import Scenario.Proofs.Correlation.Waiting
import Scenario.Proofs.Endpoint.Talk
import Scenario.Proofs.Session.Run

/-!
# Branches that do not hear each other

Branches that work side by side can use the same endpoint at the same time.  They share its
correlation table, and their steps and the replies that arrive fall between each other in any order.
This file shows that each receive gets the reply to the message of its own branch all the same, and
that it leaves nothing in the table.

The argument goes by the key of a branch.  Whatever is done under it is done by this branch, or it
is a reply that names the key, or a purge (`Meeting.owner`).  So a reply that was stored there
lies until the branch itself claims it (`Meeting.keptBetween`), and once it is claimed nobody
makes another entry (`Meeting.gone`).  A branch can be late, but it does not give up without a look
at its deadline or later (`Timed.looked_of_failed`), and by then the reply is there.

## What is here

* `Endpoint.Orderly` — what is asked of the messages and replies of a run.
* `Endpoint.Meeting` — what is known of such a run; `Endpoint.meeting_play` derives it.
* `Meeting.handed_of_look` and `Meeting.found` — a branch that looks after the reply has arrived
  finds it, and a find does not end in any other way.
* `Party.disjoint_of_deriveMany` — isolated contexts have scopes of their own.
* `no_cross_talk` — all of this for branches in isolated contexts.
-/

set_option autoImplicit false

namespace Scenario

open Correlation

/-! ## Runs in good order -/

namespace Endpoint

/-- What is asked of the messages and replies of a run: no two branches use the same key, no key is
in the table beforehand, one reply arrives for each, and the run is over before the table would
drop any of them. -/
structure Orderly (e : Endpoint) (s : Session) (p : Pool (Party e) (Except Failure Message)) :
    Prop where
  distinct : ∀ {i j k}, e.Registered p.history i k → e.Registered p.history j k → i = j
  absent : ∀ {i k}, e.Registered p.history i k → (s.table e.manager.table).get? k = none
  once : ∀ {i k l l' reply reply'}, e.Registered p.history i k →
    DoneAt p.history e.manager.table k l (.put reply) →
    DoneAt p.history e.manager.table k l' (.put reply') → l = l'
  kept : p.session.clock < s.clock + e.manager.retention

/-- What is known of such a run. -/
structure Meeting (e : Endpoint) (s : Session) (prompt : Prop)
    (p : Pool (Party e) (Except Failure Message)) : Prop extends e.Orderly s p where
  coherent : ∀ {i k}, e.Registered p.history i k → p.CoherentAt e.manager.table k
  phase : ∀ {i : Nat} {σ : Strand (Party e) (Except Failure Message)} {t : Talk e},
    p.strands[i]? = some σ → σ.origin = .branch t →
      t.Phase prompt (p.session.store t.ctx.scope) p.history i σ
  /-- A strand takes in a reply that has arrived, or it is a branch with a message. -/
  done : ∀ i, (∀ ev ∈ p.history, ev.strand = i → e.Admits ev.deed) ∨
    ∃ request k, e.Registered p.history i k ∧
      ∀ ev ∈ p.history, ev.strand = i → e.Handles request k ev.deed
  begun : ∀ ev ∈ p.history, s.clock ≤ ev.time
  onTime : prompt → p.isPrompt

namespace Meeting

variable {e : Endpoint} {s : Session} {prompt : Prop} {p : Pool (Party e) (Except Failure Message)}
  {i l c : Nat} {k : String} {ev : Happening} {reply : Message}

/-- What a branch that has registered a key does is for its message. -/
theorem handles (m : e.Meeting s prompt p) (hk : e.Registered p.history i k) :
    ∃ request, ∀ ev ∈ p.history, ev.strand = i → e.Handles request k ev.deed := by
  obtain ⟨ev, hev, hi, hdeed⟩ := hk
  rcases m.done i with hadmits | ⟨request, k', -, hhandles⟩
  · obtain ⟨-, hact | ⟨_, -, hact⟩⟩ := hadmits ev hev hi
    · rw [hdeed] at hact
      cases hact
    · rw [hdeed] at hact
      cases hact
  · obtain ⟨-, hact | ⟨rfl, -⟩⟩ := hhandles ev hev hi
    · rw [hdeed] at hact
      cases hact
    · rw [hdeed] at hhandles
      exact ⟨request, hhandles⟩

/-- A branch has one key. -/
theorem key_unique (m : e.Meeting s prompt p) {k' : String} (hk : e.Registered p.history i k)
    (hk' : e.Registered p.history i k') : k = k' := by
  obtain ⟨_, hhandles⟩ := m.handles hk'
  obtain ⟨ev, hev, hi, hdeed⟩ := hk
  obtain ⟨-, hact | ⟨hkey, -⟩⟩ := hhandles ev hev hi
  · rw [hdeed] at hact
    cases hact
  · rw [hdeed] at hkey
    exact hkey

theorem manager (m : e.Meeting s prompt p) (hev : ev ∈ p.history) :
    ev.deed.manager = e.manager := by
  rcases m.done ev.strand with hadmits | ⟨_, _, -, hhandles⟩
  · exact (hadmits ev hev rfl).1
  · exact (hhandles ev hev rfl).1

/-- A branch looks for a reply under its key. -/
theorem on_of_claim (m : e.Meeting s prompt p) (hk : e.Registered p.history i k)
    (hev : ev ∈ p.history) (hi : ev.strand = i) (hclaim : ev.deed.act = .claim) :
    ev.On e.manager.table k := by
  obtain ⟨_, hhandles⟩ := m.handles hk
  obtain ⟨hmanager, hact | ⟨hkey, -⟩⟩ := hhandles ev hev hi
  · cases hact.symm.trans hclaim
  · exact ⟨congrArg Manager.table hmanager, hkey⟩

/-- **What is done under the key of a branch** is a purge, a reply that is stored, or it is done by
the branch itself. -/
theorem owner (m : e.Meeting s prompt p) (hk : e.Registered p.history i k) (hev : ev ∈ p.history)
    (hon : ev.On e.manager.table k) :
    ev.deed.act = .visit ∨ (∃ reply, ev.deed.act = .put reply) ∨
      ev.strand = i ∧ ev.deed.act ≠ .drop := by
  rcases m.done ev.strand with hadmits | ⟨request, k', hk', hhandles⟩
  · obtain ⟨-, hact | ⟨reply, -, hact⟩⟩ := hadmits ev hev rfl
    · exact .inl hact
    · exact .inr (.inl ⟨reply, hact⟩)
  · obtain ⟨-, hact | ⟨hkey, hdrop, -⟩⟩ := hhandles ev hev rfl
    · exact .inl hact
    · rw [← hkey, hon.2] at hk'
      exact .inr (.inr ⟨m.distinct hk' hk, hdrop⟩)

/-- A reply that is stored under the key of a branch was given to its message, or it names the
key. -/
theorem source (m : e.Meeting s prompt p) (hk : e.Registered p.history i k) {request : Message}
    (hhandles : ∀ ev ∈ p.history, ev.strand = i → e.Handles request k ev.deed)
    (hput : DoneAt p.history e.manager.table k l (.put reply)) :
    e.Returns request reply ∨ e.correlator.replyKey? reply = some k := by
  obtain ⟨ev, hl, hon, hact⟩ := hput
  have hev := List.mem_of_getElem? hl
  rcases m.done ev.strand with hadmits | ⟨_, k', hk', hother⟩
  · obtain ⟨-, hvisit | ⟨reply', hkey, hput⟩⟩ := hadmits ev hev rfl
    · cases hvisit.symm.trans hact
    · cases hput.symm.trans hact
      rw [hon.2] at hkey
      exact .inr hkey
  · obtain ⟨-, hvisit | ⟨hkey, -⟩⟩ := hother ev hev rfl
    · cases hvisit.symm.trans hact
    · rw [← hkey, hon.2] at hk'
      obtain ⟨-, hvisit | ⟨-, -, hreturns⟩⟩ := hhandles ev hev (m.distinct hk' hk)
      · cases hvisit.symm.trans hact
      · exact .inl (hreturns reply hact)

/-- **A reply lies under the key of a branch until the branch claims it.** -/
theorem keptBetween (m : e.Meeting s prompt p) (hk : e.Registered p.history i k) {E : Entry Message}
    (hE : entryAt p.history e.manager.table k (l + 1) = some E)
    (hclaims : ∀ (j : Nat) (ev : Happening), l < j → j < c → p.history[j]? = some ev →
      ev.strand = i → ev.deed.act ≠ .claim) :
    KeptBetween p.history e.manager.table k E.since l c := by
  intro j ev hlj hjc hj hon
  have hev := List.mem_of_getElem? hj
  have howner := m.owner hk hev hon
  cases hact : ev.deed.act with
  | visit =>
    obtain ⟨b, first, -, hb, hsince, -⟩ := windowAt_of_entryAt hE
    have hfirst := m.begun first (List.mem_of_getElem? hb)
    have hbegun := m.begun ev hev
    have hpast := (m.coherent hk).past ev hev
    have hretention := m.kept
    rw [m.manager hev]
    show ev.time - E.since < e.manager.retention
    omega
  | claim =>
    rw [hact] at howner
    rcases howner with hvisit | ⟨_, hput⟩ | ⟨hi, -⟩
    · cases hvisit
    · cases hput
    · exact absurd hact (hclaims j ev hlj hjc hj hi)
  | drop =>
    rw [hact] at howner
    rcases howner with hvisit | ⟨_, hput⟩ | ⟨-, hdrop⟩
    · cases hvisit
    · cases hput
    · exact absurd rfl hdrop
  | _ => trivial

/-- **A branch that looks after the reply has arrived finds it.** -/
theorem handed_of_look (m : e.Meeting s prompt p) (hk : e.Registered p.history i k)
    (hput : DoneAt p.history e.manager.table k l (.put reply)) (hlc : l < c)
    (hc : p.history[c]? = some ev) (hi : ev.strand = i) (hclaim : ev.deed.act = .claim) :
    ∃ (c' : Nat) (ev' : Happening), p.history[c']? = some ev' ∧ ev'.strand = i ∧
      ev'.deed.act = .claim ∧ ev'.handed = some reply := by
  obtain ⟨c', hnext⟩ := exists_nextLook hlc hc hi hclaim
  obtain ⟨ev', hc', hi', hclaim'⟩ := hnext.looks
  have hon := m.on_of_claim hk (List.mem_of_getElem? hc') hi' hclaim'
  obtain ⟨E, hE, hreply⟩ := entryAt_of_put hput
  have hkept := m.keptBetween hk hE hnext.first
  have hnone : NonePutBetween p.history e.manager.table k l c' := by
    intro l' reply' hll' _ hput'
    exact Nat.ne_of_lt hll' (m.once hk hput hput')
  obtain ⟨hentry, -⟩ := entryAt_eq_of_keptBetween hput hE hnext.after hkept hnone
  refine ⟨c', ev', hc', hi', hclaim', ?_⟩
  rw [(m.coherent hk).handed c' ev' hc' hon, hclaim', hentry]
  exact hreply

/-- What a branch claims has been stored under its key, and nothing is left there. -/
theorem gone (m : e.Meeting s prompt p) (hk : e.Registered p.history i k)
    (hc : p.history[c]? = some ev) (hi : ev.strand = i) (hclaim : ev.deed.act = .claim)
    (hhanded : ev.handed = some reply)
    (hlast : ∀ (j : Nat) (ev : Happening), p.history[j]? = some ev → ev.strand = i → j ≤ c) :
    (∃ l, DoneAt p.history e.manager.table k l (.put reply)) ∧
      (p.session.table e.manager.table).get? k = none := by
  have hon := m.on_of_claim hk (List.mem_of_getElem? hc) hi hclaim
  obtain ⟨-, E, hE, hreply⟩ := (m.coherent hk).claim_of_handed ⟨ev, hc, hon, hhanded⟩
  obtain ⟨l, hlc, hput, -⟩ := exists_put_of_entryAt hE hreply
  have htaken : entryAt p.history e.manager.table k (c + 1) = none := by
    rw [entryAt_succ_of_on hc hon, hclaim, hE, Act.onEntry, Option.filter_some, Entry.isPending,
      hreply]
    rfl
  refine ⟨⟨l, hput⟩, (m.coherent hk).get.trans ?_⟩
  refine entryAt_eq_none htaken (List.getElem?_eq_some_iff.1 hc).1 fun j ev' hcj _ hj hon' => ?_
  have howner := m.owner hk (List.mem_of_getElem? hj) hon'
  refine ⟨fun hcreate => ?_, fun reply' hput' => ?_⟩
  · rw [hcreate] at howner
    rcases howner with hvisit | ⟨_, hput'⟩ | ⟨hi', -⟩
    · cases hvisit
    · cases hput'
    · exact absurd (hlast j ev' hj hi') (Nat.not_le.2 hcj)
  · have := m.once hk hput ⟨ev', hj, hon', hput'⟩
    omega

/-- A look at a time after the reply has arrived comes after it. -/
theorem look_after (m : e.Meeting s prompt p) (hk : e.Registered p.history i k) {since : Nat}
    (hl : p.history[l]? = some ev) (hlooked : LookedSince p.history i since)
    (htime : ev.time < since) :
    ∃ (c : Nat) (ev' : Happening), l < c ∧ p.history[c]? = some ev' ∧ ev'.strand = i ∧
      ev'.deed.act = .claim := by
  obtain ⟨ev', hev', hi', hclaim', hlate⟩ := hlooked
  obtain ⟨c, hc⟩ := List.mem_iff_getElem?.1 hev'
  refine ⟨c, ev', ?_, hc, hi', hclaim'⟩
  rcases Nat.lt_trichotomy l c with hlt | rfl | hlt
  · exact hlt
  · rw [hl] at hc
    cases hc
    omega
  · have := (m.coherent hk).time_le hlt hc hl
    omega

/-- **A find ends with nothing but the reply that arrives before its deadline**, however late it is.
If nobody is late it has the reply when its time is over. -/
theorem found {ι : Type} {request : Message} {timeout start : Nat} {τ : Strand ι Call.Answer}
    (m : e.Meeting s prompt p) (finds : e.Finding request k timeout prompt p.history i τ)
    (hput : DoneAt p.history e.manager.table k l (.put reply)) (hl : p.history[l]? = some ev)
    (hstart : FirstLook p.history i start) (htime : ev.time < start + timeout) :
    (∀ answer, τ.result? = some answer → answer = .ok (some reply)) ∧
      (prompt → start + timeout < p.session.clock →
        (τ.result? = none → p.session.clock ≤ τ.due) → τ.result? = some (.ok (some reply))) := by
  have hk := finds.registered
  have honly : ∀ answer, τ.result? = some answer → answer = .ok (some reply) := by
    intro answer hanswer
    rcases finds.answer hanswer with ⟨reply', rfl⟩ | ⟨f, rfl⟩
    · obtain ⟨c, ev', hc, hi', hclaim', hhanded, hlast⟩ :=
        finds.answered.handed_of_result hanswer
      obtain ⟨⟨l', hput'⟩, -⟩ := m.gone hk hc hi' hclaim' hhanded hlast
      obtain rfl := m.once hk hput hput'
      obtain ⟨_, hl₁, -, hact⟩ := hput
      obtain ⟨_, hl₂, -, hact'⟩ := hput'
      rw [hl₁] at hl₂
      cases hl₂
      cases hact.symm.trans hact'
      rfl
    · -- it has looked at its deadline, when the reply was there
      obtain ⟨start', hfirst, hlast, -⟩ := finds.timed.looked_of_failed hanswer
      rw [hfirst.unique hstart] at hlast
      obtain ⟨c, ev', hlc, hc, hi', hclaim'⟩ := m.look_after hk hl hlast htime
      obtain ⟨c', ev'', hc', hi'', -, hhanded⟩ := m.handed_of_look hk hput hlc hc hi' hclaim'
      cases hanswer.symm.trans (finds.answered.result_of_handed hc' hi'' hhanded).1
  refine ⟨honly, fun hprompt hpassed hdue => ?_⟩
  obtain rfl : start = τ.since := by
    rcases finds.timed.looked hprompt with ⟨hquiet, -⟩ | hlooked
    · exact absurd hstart hquiet.not_firstLook
    · exact hstart.unique hlooked
  obtain ⟨answer, hanswer⟩ := finds.timed.ended_of_late hprompt hdue hpassed
  rw [hanswer, honly answer hanswer]

end Meeting

/-- What a delivery does is to take in its reply. -/
theorem admits_play {e : Endpoint} {s : Session} {moves : List (Move (Party e))} {i : Nat}
    {σ : Strand (Party e) (Except Failure Message)} {reply : Message}
    (hσ : (Pool.play Party.script s moves).strands[i]? = some σ)
    (horigin : σ.origin = .delivery reply) :
    ∀ ev ∈ (Pool.play Party.script s moves).history, ev.strand = i → e.Admits ev.deed := by
  have hscript : (Party.delivery reply : Party e).script.Obeys
      (fun step => ∀ d, step.Does d → e.Admits d) fun _ => True :=
    Activity.obeys_bind obeys_accept (fun _ _ => trivial) fun _ _ => trivial
  intro ev hev hi
  obtain ⟨step, hadmits, hdoes⟩ := (Pool.obeys_play_of hscript hσ horigin).past ev hev hi
  exact hadmits _ hdoes

/-- **A run in good order of parties with scopes of their own is a meeting.** -/
theorem meeting_play {e : Endpoint} (hvariable : e.settings.messageIdVariable ≠ some e.keyName)
    {s : Session} (htable : e.manager.table < s.tables.length) {moves : List (Move (Party e))}
    (hdisjoint : (moves.filterMap Move.started?).Pairwise fun a b =>
      ∀ scope ∈ a.owns, scope ∉ b.owns)
    (hopened : ∀ a ∈ moves.filterMap Move.started?, ∀ scope ∈ a.owns, scope < s.scopes.length)
    (horderly : e.Orderly s (Pool.play Party.script s moves)) :
    e.Meeting s (Pool.AlwaysPrompt Party.script s moves) (Pool.play Party.script s moves) where
  toOrderly := horderly
  coherent hk := Pool.coherentAt_play htable (horderly.absent hk) moves
  phase := Talk.phase_play hdisjoint hopened hvariable
  done i := by
    cases hσ : (Pool.play Party.script s moves).strands[i]? with
    | none =>
      refine .inl fun ev hev hi => ?_
      have hlt := Pool.own_play s moves ev hev
      rw [hi] at hlt
      exact absurd hlt (Nat.not_lt.2 (List.getElem?_eq_none_iff.1 hσ))
    | some σ =>
      cases horigin : σ.origin with
      | branch t =>
        refine (Talk.phase_play hdisjoint hopened hvariable hσ horigin).handles.imp_left ?_
        exact fun hsilent ev hev hi => absurd hi (hsilent ev hev)
      | delivery reply => exact .inl (admits_play hσ horigin)
  begun ev hev := ((Pool.clock_le_play s moves).2 ev hev).1
  onTime hprompt := by
    have hlast := hprompt.take moves.length
    rwa [List.take_length] at hlast

end Endpoint

/-! ## Isolated contexts -/

/-- The branch that a party is. -/
def Party.branch? {e : Endpoint} : Party e → Option (Talk e)
  | branch t => some t
  | delivery _ => none

/-- Parties have scopes of their own if the branches among them are in isolated contexts. -/
theorem Party.disjoint_of_deriveMany {e : Endpoint} {ctx : Context} {s₀ s : Session}
    {branches : List (Talk e)} (hderived : s₀.run (.ofScript
      (ctx.deriveMany .isolated branches.length)) = (branches.map (·.ctx), s))
    {parties : List (Party e)} (hparties : parties.filterMap Party.branch? = branches) :
    (parties.Pairwise fun a b => ∀ scope ∈ a.owns, scope ∉ b.owns) ∧
      ∀ a ∈ parties, ∀ scope ∈ a.owns, scope < s.scopes.length := by
  rw [Session.run_ofScript, ctx.alone_deriveMany] at hderived
  obtain ⟨hcontexts, rfl⟩ := Prod.mk.inj hderived
  have hscopes : branches.map (fun t => t.ctx.scope) =
      List.range' s₀.scopes.length branches.length := by
    have hmapped := congrArg (List.map (·.scope)) hcontexts
    rw [List.map_map, List.map_map] at hmapped
    exact hmapped.symm.trans (List.map_id' _)
  constructor
  · have hnodup : (branches.map fun t => t.ctx.scope).Nodup := by
      rw [hscopes]
      exact List.nodup_range'
    have hpairwise := List.pairwise_map.1 hnodup
    rw [← hparties, List.pairwise_filterMap] at hpairwise
    refine hpairwise.imp fun {a b} hab => ?_
    cases a with
    | delivery _ => exact fun _ => False.elim
    | branch t =>
      cases b with
      | delivery _ => exact fun _ _ => id
      | branch u =>
        rintro scope rfl
        exact hab t rfl u rfl
  · intro a ha scope hscope
    cases a with
    | delivery _ => exact hscope.elim
    | branch t =>
      have ht : t ∈ branches := by
        rw [← hparties]
        exact List.mem_filterMap.2 ⟨_, ha, rfl⟩
      have hmem : t.ctx.scope ∈ branches.map fun t => t.ctx.scope := List.mem_map_of_mem ht
      rw [hscopes, List.mem_range'_1] at hmem
      rw [show scope = t.ctx.scope from hscope, List.length_append, List.length_replicate]
      exact hmem.2

/-- **Branches in isolated contexts do not hear each other.**  Any number of branches send a
message each through the same endpoint and later receive, their keys are different and new to the
table, one reply arrives for each of them, and the table keeps its entries for longer than the
run.  Then, however the steps of the branches and of the replies fall between each other, for
every branch:

* what its receive returns is the reply to its own message: it was stored under the key of the
  message, and the transport has given it to this message or it names the key.  Nothing is left
  under the key.
* Once its reply has arrived it needs only to look to return it.
* If its reply arrives before its deadline, its receive ends with this reply and in no other way,
  however late the branch is.  From the moment that the reply has arrived and the branch has begun
  to look, the branch goes on at most twice before it has ended.
* If nobody is late it has ended when its time is over. -/
theorem no_cross_talk {e : Endpoint} {ctx : Context} {s₀ s : Session} {branches : List (Talk e)}
    (hvariable : e.settings.messageIdVariable ≠ some e.keyName)
    (hderived : s₀.run (.ofScript (ctx.deriveMany .isolated branches.length)) =
      (branches.map (·.ctx), s))
    (htable : e.manager.table < s.tables.length) {moves : List (Move (Party e))}
    (hbranches : (moves.filterMap Move.started?).filterMap Party.branch? = branches)
    (horderly : e.Orderly s (Pool.play Party.script s moves)) :
    let p := Pool.play Party.script s moves
    let h := p.history
    ∀ (i : Nat) (σ : Strand (Party e) (Except Failure Message)) (t : Talk e),
      p.strands[i]? = some σ → σ.origin = .branch t →
      (∀ reply, σ.result? = some (.ok reply) → ∃ request k, t.Makes request k ∧
        e.Registered h i k ∧ (∃ l, DoneAt h e.manager.table k l (.put reply)) ∧
        (e.Returns request reply ∨ e.correlator.replyKey? reply = some k) ∧
        (p.session.table e.manager.table).get? k = none) ∧
      ∀ (k : String) (l : Nat) (ev : Happening) (reply : Message), e.Registered h i k →
        DoneAt h e.manager.table k l (.put reply) → h[l]? = some ev →
        (∀ (c : Nat) (ev' : Happening), l < c → h[c]? = some ev' → ev'.strand = i →
          ev'.deed.act = .claim → σ.result? = some (.ok reply)) ∧
        ∀ start, FirstLook h i start → ev.time < start + t.patience →
          (∀ outcome, σ.result? = some outcome → outcome = .ok reply) ∧
          (∀ early late, moves = early ++ late →
            let q := Pool.play Party.script s early
            l < q.history.length → ¬ Quiet q.history i → 2 ≤ q.turns Party.script i late →
              σ.result? = some (.ok reply)) ∧
          (Pool.AlwaysPrompt Party.script s moves → start + t.patience < p.session.clock →
            σ.result? = some (.ok reply)) := by
  intro p h i σ t hσ horigin
  obtain ⟨hdisjoint, hopened⟩ := Party.disjoint_of_deriveMany hderived hbranches
  have m := e.meeting_play hvariable htable hdisjoint hopened horderly
  have o := m.phase hσ horigin
  refine ⟨fun reply hresult => ?_, fun k l ev reply hk hput hl => ?_⟩
  · obtain ⟨request, k, τ, hmade, finds, hτ⟩ := o.finding_of_result hresult
    obtain ⟨c, ev, hc, hi, hclaim, hhanded, hlast⟩ := finds.answered.handed_of_result hτ
    obtain ⟨⟨l, hput⟩, hnone⟩ := m.gone finds.registered hc hi hclaim hhanded hlast
    exact ⟨request, k, hmade, finds.registered, ⟨l, hput⟩,
      m.source finds.registered finds.handles hput, hnone⟩
  have hlook : ∀ (c : Nat) (ev' : Happening), l < c → h[c]? = some ev' → ev'.strand = i →
      ev'.deed.act = .claim → σ.result? = some (.ok reply) := by
    intro c ev' hlc hc hi hclaim
    obtain ⟨c', ev'', hc', hi', hclaim', hhanded⟩ := m.handed_of_look hk hput hlc hc hi hclaim
    exact o.result_of_handed hc' hi' hclaim' hhanded
  refine ⟨hlook, fun start hstart htime => ?_⟩
  obtain ⟨request, k', τ, -, finds, hend⟩ :=
    o.finding_of_looked fun hquiet => hquiet.not_firstLook hstart
  obtain rfl := m.key_unique hk finds.registered
  obtain ⟨honly, hfound⟩ := m.found finds hput hl hstart htime
  obtain follows : σ.Follows τ (e.concluded t.ctx k) := by
    rcases hend with follows | ⟨f, hfailed, -⟩
    · exact follows
    · cases honly _ hfailed
  have houtcome : ∀ outcome, σ.result? = some outcome → outcome = .ok reply := by
    intro outcome houtcome
    cases hτ : τ.result? with
    | none => cases houtcome.symm.trans (follows.result?_eq_none hτ)
    | some answer =>
      rw [honly answer hτ] at hτ
      exact Option.some.inj (houtcome.symm.trans ((finds.result_iff follows).2 hτ))
  refine ⟨houtcome, fun early late hmoves => ?_, fun hprompt hpassed => ?_⟩
  · intro q hlq hlooked hturns
    subst hmoves
    have hplay : p = late.foldl (Pool.move Party.script) q := List.foldl_append
    have hprefix : q.history <+: h := by
      show _ <+: p.history
      rw [hplay]
      exact Pool.history_prefix_foldl ..
    rcases Talk.looks_of_turns hdisjoint hopened hvariable hσ horigin hlooked hturns with
      ⟨c, ev', hqc, hc, hi, hclaim⟩ | ⟨start', hfirst, hlast⟩ | ⟨c, ev', r, hc, hi, hclaim, hhanded⟩
    · exact hlook c ev' (Nat.lt_of_lt_of_le hlq hqc) hc hi hclaim
    · rw [(hfirst.mono hprefix).unique hstart] at hlast
      obtain ⟨c, ev', hlc, hc, hi, hclaim⟩ := m.look_after hk hl (hlast.mono hprefix) htime
      exact hlook c ev' hlc hc hi hclaim
    · obtain ⟨rest, hrest⟩ := hprefix
      have hc' : h[c]? = some ev' := by
        rw [← hrest, List.getElem?_append_left (List.getElem?_eq_some_iff.1 hc).1]
        exact hc
      have hresult := o.result_of_handed hc' hi hclaim hhanded
      rw [hresult, houtcome _ hresult]
  · refine (finds.result_iff follows).2 (hfound hprompt hpassed fun hrunning => ?_)
    rw [← follows.due]
    exact Pool.isPrompt_iff.1 (m.onTime hprompt) σ (List.mem_of_getElem? hσ)
      (follows.result?_eq_none hrunning)

/-! ### Two branches whose replies cross -/

/-- A branch that sends a message and receives the reply to it, and does nothing else. -/
def Talk.plain (e : Endpoint) (ctx : Context) (request : Message) (timeout : Nat) : Talk e where
  ctx := ctx
  before := return request
  between := return ()
  timeout := some timeout
  before_spares := trivial
  before_minds := trivial
  between_spares := trivial
  between_minds := trivial

namespace Crossing

/-- An endpoint whose transport answers one message and is silent about others. -/
def orders : Endpoint where
  name := "orders"
  manager := { table := 0 }
  transport := { respond := fun d => if d.request.id = "a" then .reply { id := "r" } else .silence }
  channel := 0

def outer : Context := { scope := 0, library := ⟨"", "", []⟩, run := "" }

def inner (scope : Nat) : Context := { outer with scope := scope, isolated := true }

/-- The reply that arrives by itself. -/
def late : Message := { id := "s", headers := [("correlation_id", .string "b")] }

def branches : List (Talk orders) :=
  [.plain orders (inner 1) { id := "a" } 600, .plain orders (inner 2) { id := "b" } 600]

def before : Session := { scopes := [.empty], tables := [{}], transcripts := [[]] }

def opened : Session := { before with scopes := [.empty, .empty, .empty] }

/-- The second branch sends its message and looks in vain.  The first one sends its own, and before
the transport has answered it the reply to the other arrives. -/
def opening : List (Move (Party orders)) :=
  List.flatten
    [branches.map fun t => .start (.branch t), List.replicate 10 (.go 1 []),
      List.replicate 7 (.go 0 []), [.start (.delivery late)], List.replicate 4 (.go 2 [])]

/-- The first branch receives its reply.  The second one goes to sleep long after its deadline, and
then it looks again. -/
def closing : List (Move (Party orders)) :=
  List.replicate 8 (.go 0 []) ++ [.pass 2000, .go 1 [], .pass 500, .go 1 []]

def moves : List (Move (Party orders)) := opening ++ closing

theorem history_opening :
    (Pool.play Party.script opened opening).history =
      [⟨1, 0, ⟨orders.manager, "b", .create⟩, none⟩, ⟨1, 0, ⟨orders.manager, "b", .visit⟩, none⟩,
        ⟨1, 0, ⟨orders.manager, "b", .claim⟩, none⟩, ⟨0, 0, ⟨orders.manager, "a", .create⟩, none⟩,
        ⟨2, 0, ⟨orders.manager, "b", .visit⟩, none⟩, ⟨2, 0, ⟨orders.manager, "a", .visit⟩, none⟩,
        ⟨2, 0, ⟨orders.manager, "b", .put late⟩, none⟩] := by
  with_unfolding_all rfl

theorem history_moves :
    (Pool.play Party.script opened moves).history =
      [⟨1, 0, ⟨orders.manager, "b", .create⟩, none⟩, ⟨1, 0, ⟨orders.manager, "b", .visit⟩, none⟩,
        ⟨1, 0, ⟨orders.manager, "b", .claim⟩, none⟩, ⟨0, 0, ⟨orders.manager, "a", .create⟩, none⟩,
        ⟨2, 0, ⟨orders.manager, "b", .visit⟩, none⟩, ⟨2, 0, ⟨orders.manager, "a", .visit⟩, none⟩,
        ⟨2, 0, ⟨orders.manager, "b", .put late⟩, none⟩,
        ⟨0, 0, ⟨orders.manager, "b", .visit⟩, none⟩, ⟨0, 0, ⟨orders.manager, "a", .visit⟩, none⟩,
        ⟨0, 0, ⟨orders.manager, "a", .put { id := "r" }⟩, none⟩,
        ⟨0, 0, ⟨orders.manager, "b", .visit⟩, none⟩, ⟨0, 0, ⟨orders.manager, "a", .visit⟩, none⟩,
        ⟨0, 0, ⟨orders.manager, "a", .claim⟩, some { id := "r" }⟩,
        ⟨1, 2500, ⟨orders.manager, "b", .claim⟩, some late⟩] := by
  with_unfolding_all rfl

theorem registered {i : Nat} {k : String}
    (h : orders.Registered (Pool.play Party.script opened moves).history i k) :
    i = 0 ∧ k = "a" ∨ i = 1 ∧ k = "b" := by
  obtain ⟨ev, hev, rfl, hdeed⟩ := h
  rw [history_moves] at hev
  simp only [List.mem_cons, List.not_mem_nil, or_false] at hev
  rcases hev with rfl | rfl | rfl | rfl | rfl | rfl | rfl | rfl | rfl | rfl | rfl | rfl | rfl | rfl
  all_goals cases hdeed
  · exact .inr ⟨rfl, rfl⟩
  · exact .inl ⟨rfl, rfl⟩

theorem stored {k : String} {l : Nat} {reply : Message}
    (h : DoneAt (Pool.play Party.script opened moves).history 0 k l (.put reply)) :
    l = if k = "a" then 9 else 6 := by
  obtain ⟨ev, hl, ⟨-, rfl⟩, hact⟩ := h
  rw [history_moves] at hl
  have hlt := (List.getElem?_eq_some_iff.1 hl).1
  simp only [List.length_cons, List.length_nil] at hlt
  interval_cases l
  all_goals
    cases hl
    cases hact
  · rfl
  · rfl

theorem orderly : orders.Orderly opened (Pool.play Party.script opened moves) where
  distinct := by
    intro i j k hi hj
    rcases registered hi with ⟨rfl, rfl⟩ | ⟨rfl, rfl⟩
    · exact ((registered hj).resolve_right fun hb => absurd hb.2 (by decide)).1.symm
    · exact ((registered hj).resolve_left fun ha => absurd ha.2 (by decide)).1.symm
  absent _ := rfl
  once _ h h' := (stored h).trans (stored h').symm
  kept := by decide +kernel

theorem strand {i : Nat} {t : Talk orders} (ht : branches[i]? = some t) :
    ∃ σ, (Pool.play Party.script opened moves).strands[i]? = some σ ∧ σ.origin = .branch t := by
  have horigins : (Pool.play Party.script opened moves).strands.map (·.origin) =
      branches.map .branch ++ [.delivery late] := Pool.origins_play ..
  have hlt := (List.getElem?_eq_some_iff.1 ht).1
  refine Option.map_eq_some_iff.1 ?_
  rw [← List.getElem?_map, horigins, List.getElem?_append_left (by rwa [List.length_map]),
    List.getElem?_map, ht]
  rfl

end Crossing

/-- Both branches return their own replies, though the one of the second branch arrives while the
first one waits and the second one is late, and nothing is left in the table. -/
theorem no_cross_talk_crossing :
    let p := Pool.play Party.script Crossing.opened Crossing.moves
    ∃ σ σ', p.strands[0]? = some σ ∧ p.strands[1]? = some σ' ∧
      σ.result? = some (.ok { id := "r" }) ∧ σ'.result? = some (.ok Crossing.late) ∧
      (p.session.table 0).get? "a" = none ∧ (p.session.table 0).get? "b" = none := by
  intro p
  have hderived : Crossing.before.run (.ofScript (Crossing.outer.deriveMany .isolated 2)) =
      (Crossing.branches.map (·.ctx), Crossing.opened) := Session.run_ofScript ..
  have hbranches : (Crossing.moves.filterMap Move.started?).filterMap Party.branch? =
      Crossing.branches := rfl
  obtain ⟨σ, hσ, hbranch⟩ := Crossing.strand (i := 0) rfl
  obtain ⟨σ', hσ', hbranch'⟩ := Crossing.strand (i := 1) rfl
  have hheard := no_cross_talk (by decide) hderived (by decide) hbranches Crossing.orderly
  obtain ⟨hown, hreplied⟩ := hheard 0 σ _ hσ hbranch
  obtain ⟨hown₂, hlate⟩ := hheard 1 σ' _ hσ' hbranch'
  have hh : p.history = _ := Crossing.history_moves
  rw [hh] at hreplied hlate
  -- the first branch looks when its reply is there
  have hresult : σ.result? = some (.ok { id := "r" }) :=
    (hreplied "a" 9 _ { id := "r" } ⟨_, List.mem_of_getElem? (i := 3) rfl, rfl, rfl⟩
      ⟨_, rfl, ⟨rfl, rfl⟩, rfl⟩ rfl).1 12 _ (by decide) rfl rfl rfl
  -- the second branch has looked before, its reply is in time, and it goes on twice
  have hlooked : FirstLook p.history 1 0 := by
    rw [hh]
    refine ⟨2, _, rfl, rfl, rfl, rfl, fun c ev hc hev _ => ?_⟩
    interval_cases c
    all_goals
      cases hev
      nofun
  have hbegun : ¬ Quiet (Pool.play Party.script Crossing.opened Crossing.opening).history 1 := by
    rw [Crossing.history_opening]
    exact fun hquiet => hquiet _ (List.mem_of_getElem? (i := 2) rfl) rfl rfl
  have hthere : 6 < (Pool.play Party.script Crossing.opened Crossing.opening).history.length := by
    rw [Crossing.history_opening]
    decide
  have hresult' : σ'.result? = some (.ok Crossing.late) :=
    ((hlate "b" 6 _ Crossing.late ⟨_, List.mem_of_getElem? (i := 0) rfl, rfl, rfl⟩
      ⟨_, rfl, ⟨rfl, rfl⟩, rfl⟩ rfl).2 0 (hh ▸ hlooked) (by decide)).2.1 Crossing.opening
        Crossing.closing rfl hthere hbegun (by decide +kernel)
  refine ⟨σ, σ', hσ, hσ', hresult, hresult', ?_, ?_⟩
  · obtain ⟨_, k, -, hk, -, -, hnone⟩ := hown _ hresult
    obtain ⟨-, rfl⟩ := (Crossing.registered hk).resolve_right fun hb => absurd hb.1 (by decide)
    exact hnone
  · obtain ⟨_, k, -, hk, -, -, hnone⟩ := hown₂ _ hresult'
    obtain ⟨-, rfl⟩ := (Crossing.registered hk).resolve_left fun ha => absurd ha.1 (by decide)
    exact hnone

end Scenario
