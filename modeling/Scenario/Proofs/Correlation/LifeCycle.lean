import Mathlib
import Scenario.Proofs.Correlation.Call

/-!
# The life of a key

A key of a correlation table is absent, created, stored or expired, and many calls can be under way
that change this: some on the key itself, some on other keys whose purges come by, and a find does
not even do its work in one go.  This file says that all of them together move a key along few edges
only, whatever the calls are and however they fall between each other.

The edges belong to what is done under the lock of the key and not to the calls, so they are found
by cases on `Act`; which call does what is known from `Call.Does`.

## What is here

* `Act.Turns` lists the edges, and `Act.turns_onEntry` says that there are no others.
* `Pool.Acts` — with a move a call does something under a key.  `Pool.acts_of_move` says that no
  entry changes without this, and `Call.does_of_acts` that each call does only what it is meant to.
* `Script.Resigns` — a find that notes that its time has run out ends with the failure that says so.
* `Table.pending_eq_ncard` — what is counted as pending.
* `Call.keys_follow_life_cycle` — the life cycle of the keys in a run.
-/

set_option autoImplicit false

namespace Scenario

open Correlation

/-! ## Edges -/

namespace Correlation

variable {ρ : Type}

/-- The edges along which something that is done under a key changes its state.  A key without an
entry has none. -/
inductive Act.Turns : Act ρ → Option KeyState → Option KeyState → Prop
  | create : Turns .create none (some .created)
  | put (reply : ρ) (before : Option KeyState) : Turns (.put reply) before (some .stored)
  | expire {before : KeyState} (h : before = .created ∨ before = .expired) :
    Turns .expire (some before) (some .expired)
  | discard {before : KeyState} (h : before = .created ∨ before = .expired) :
    Turns .discard (some before) none
  | claim : Turns .claim (some .stored) none
  | visit (before : KeyState) : Turns .visit (some before) none
  | drop (before : KeyState) : Turns .drop (some before) none

/-- Registering, discarding and running out of time do not start from a stored reply. -/
theorem Act.Turns.ne_stored {a : Act ρ} {before after : Option KeyState} (h : a.Turns before after)
    (ha : a = .create ∨ a = .discard ∨ a = .expire) : before ≠ some .stored := by
  rintro rfl
  cases h with
  | put | claim | visit | drop => rcases ha with ha | ha | ha <;> cases ha
  | expire h | discard h => rcases h with h | h <;> cases h

theorem Entry.state_of_isPending {e : Entry ρ} (h : e.isPending = true) :
    e.state = .created ∨ e.state = .expired := by
  obtain ⟨reply, created, expired⟩ := e
  cases reply with
  | some reply => cases h
  | none =>
    cases expired with
    | none => exact .inl rfl
    | some time => exact .inr rfl

theorem Entry.state_of_not_isPending {e : Entry ρ} (h : e.isPending = false) :
    e.state = .stored := by
  obtain ⟨reply, created, expired⟩ := e
  cases reply with
  | some reply => rfl
  | none => cases h

theorem Entry.isPending_iff {e : Entry ρ} :
    e.isPending = true ↔ e.state = .created ∨ e.state = .expired := by
  refine ⟨state_of_isPending, fun h => ?_⟩
  cases hp : e.isPending with
  | true => rfl
  | false =>
    rw [state_of_not_isPending hp] at h
    rcases h with h | h <;> cases h

/-- **What is done under a key changes its entry along one of the edges or not at all.** -/
theorem Act.turns_onEntry {now retention : Nat} {a : Act ρ} {o : Option (Entry ρ)}
    (h : a.onEntry now retention o ≠ o) :
    a.Turns (o.map Entry.state) ((a.onEntry now retention o).map Entry.state) := by
  cases a with
  | create =>
    cases o with
    | none => exact .create
    | some e => exact absurd rfl h
  | put reply => exact .put reply _
  | claim =>
    cases o with
    | none => exact absurd rfl h
    | some e =>
      cases hp : e.isPending with
      | true => simp [onEntry, Option.filter_some, hp] at h
      | false =>
        simp only [onEntry, Option.filter_some, hp, Bool.false_eq_true, ↓reduceIte,
          Option.map_some, Option.map_none, Entry.state_of_not_isPending hp]
        exact .claim
  | discard =>
    cases o with
    | none => exact absurd rfl h
    | some e =>
      cases hp : e.isPending with
      | true =>
        simp only [onEntry, Option.filter_some, hp, Bool.not_true, Bool.false_eq_true, ↓reduceIte,
          Option.map_some, Option.map_none]
        exact .discard (Entry.state_of_isPending hp)
      | false => simp [onEntry, Option.filter_some, hp] at h
  | expire =>
    cases o with
    | none => exact absurd rfl h
    | some e =>
      cases hp : e.isPending with
      | true =>
        have hreply : e.reply = none := Option.isNone_iff_eq_none.1 hp
        simp only [onEntry, Option.map_some, hp, ↓reduceIte]
        rw [show Entry.state { e with expired := some now } = .expired by
          simp only [Entry.state, hreply]]
        exact .expire (Entry.state_of_isPending hp)
      | false => simp [onEntry, hp] at h
  | visit =>
    cases o with
    | none => exact absurd rfl h
    | some e =>
      cases hk : e.isKept now retention with
      | true => simp [onEntry, Option.filter_some, hk] at h
      | false =>
        simp only [onEntry, Option.filter_some, hk, Bool.false_eq_true, ↓reduceIte,
          Option.map_some, Option.map_none]
        exact .visit _
  | drop =>
    cases o with
    | none => exact absurd rfl h
    | some e => exact .drop _

/-- A purge that comes by takes away what is not kept any longer. -/
theorem Act.onEntry_visit_ne {now retention : Nat} {o : Option (Entry ρ)}
    (h : (visit : Act ρ).onEntry now retention o ≠ o) :
    ∃ e, o = some e ∧ e.isKept now retention = false ∧
      (visit : Act ρ).onEntry now retention o = none := by
  cases o with
  | none => exact absurd rfl h
  | some e =>
    cases hk : e.isKept now retention with
    | true => simp [onEntry, Option.filter_some, hk] at h
    | false => exact ⟨e, rfl, hk, by simp [onEntry, Option.filter_some, hk]⟩

/-- The entries that are counted as pending are those of the keys that are created or expired. -/
theorem Table.pending_eq_ncard {t : Table ρ} (h : t.entries.Distinct) :
    t.pending = {k | t.state? k = some .created ∨ t.state? k = some .expired}.ncard := by
  have hset : {k | t.state? k = some .created ∨ t.state? k = some .expired} =
      ↑(Fields.names (t.entries.filter (·.2.isPending))).toFinset := by
    ext k
    rw [Set.mem_ofPred_eq, List.coe_toFinset, Set.mem_ofPred_eq, Fields.names, List.mem_map]
    constructor
    · intro hstate
      have hsome : ∃ e, t.get? k = some e ∧ (e.state = .created ∨ e.state = .expired) := by
        rw [state?] at hstate
        rcases hstate with hstate | hstate
        · obtain ⟨e, he, hcreated⟩ := Option.map_eq_some_iff.1 hstate
          exact ⟨e, he, .inl hcreated⟩
        · obtain ⟨e, he, hexpired⟩ := Option.map_eq_some_iff.1 hstate
          exact ⟨e, he, .inr hexpired⟩
      obtain ⟨e, he, hpending⟩ := hsome
      exact ⟨(k, e), List.mem_filter.2 ⟨Fields.mem_of_get? he, Entry.isPending_iff.2 hpending⟩, rfl⟩
    · rintro ⟨⟨k', e⟩, hmem, rfl⟩
      obtain ⟨hentry, hpending⟩ := List.mem_filter.1 hmem
      have hget : t.get? k' = some e := Fields.get?_of_mem h hentry
      rw [state?, hget, Option.map_some, Option.some_inj, Option.some_inj]
      exact Entry.isPending_iff.1 hpending
  rw [hset, Set.ncard_coe_finset, List.toFinset_card_of_nodup (h.filter _), pending, Fields.names,
    List.length_map, List.countP_eq_length_filter]

end Correlation

/-! ## Who does what -/

/-- Whether with a move a call does something under a key. -/
def Pool.Acts {ι α : Type} (p : Pool ι α) (mv : Move ι) (call : ι) (key : String)
    (act : Act Message) : Prop :=
  ∃ i order σ d, mv = .go i order ∧ p.strands[i]? = some σ ∧ σ.due ≤ p.session.clock ∧
    σ.origin = call ∧ (σ.go p.session order).1 = some d ∧ d.key = key ∧ d.act = act

namespace Pool

variable {ι α : Type} {launch : ι → Script α} {p : Pool ι α}

/-- A strand that goes on changes the entry under the key of its deed. -/
theorem get?_advance {n : Nat} (hn : n < p.session.tables.length) (i : Nat) (σ : Strand ι α)
    (order : List String) (key : String) :
    ((p.advance i σ order).session.table n).get? key =
      match (σ.go p.session order).1 with
      | some d =>
        if d.manager.table = n ∧ d.key = key then
          d.act.onEntry p.session.clock d.manager.retention ((p.session.table n).get? key)
        else (p.session.table n).get? key
      | none => (p.session.table n).get? key := by
  have htables : (p.advance i σ order).session.tables = _ := σ.tables_go p.session order
  rw [Session.table, htables]
  cases (σ.go p.session order).1 with
  | none => rfl
  | some d =>
    rw [Option.elim_some]
    show ((p.session.perform d).2.table n).get? key = _
    rw [Session.table_perform hn d]
    by_cases htable : d.manager.table = n
    · rw [if_pos htable, Table.get?_act]
      by_cases hkey : key = d.key
      · subst hkey
        simp [htable]
      · simp [htable, hkey, Ne.symm hkey]
    · simp [htable]

/-- **No entry changes unless a strand does something under its key.** -/
theorem acts_of_move {mv : Move ι} {n : Nat} {key : String}
    (h : ((p.move launch mv).session.table n).get? key ≠ (p.session.table n).get? key) :
    ∃ i order σ d, mv = .go i order ∧ p.strands[i]? = some σ ∧ σ.due ≤ p.session.clock ∧
      (σ.go p.session order).1 = some d ∧ d.manager.table = n ∧ d.key = key ∧
      ((p.move launch mv).session.table n).get? key =
        d.act.onEntry p.session.clock d.manager.retention ((p.session.table n).get? key) := by
  cases mv with
  | start origin => exact absurd rfl h
  | pass ms => exact absurd rfl h
  | go i order =>
    rw [move] at h ⊢
    cases hσ : p.strands[i]? with
    | none =>
      rw [hσ] at h
      exact absurd rfl h
    | some σ =>
      rw [hσ] at h
      by_cases hdue : σ.due ≤ p.session.clock
      · simp only [hdue, ↓reduceIte] at h ⊢
        rcases Nat.lt_or_ge n p.session.tables.length with hn | hn
        · have hget := get?_advance hn i σ order key
          cases hd : (σ.go p.session order).1 with
          | none =>
            rw [hd] at hget
            exact absurd hget h
          | some d =>
            rw [hd] at hget
            by_cases hon : d.manager.table = n ∧ d.key = key
            · exact ⟨i, order, σ, d, rfl, hσ, hdue, hd, hon.1, hon.2, hget.trans (if_pos hon)⟩
            · exact absurd (hget.trans (if_neg hon)) h
        · -- a table that there is not stays empty
          have hlength : (p.advance i σ order).session.tables.length = p.session.tables.length := by
            rw [advance, σ.tables_go p.session order]
            cases (σ.go p.session order).1 with
            | none => rfl
            | some d => exact Session.length_tables_perform ..
          refine absurd ?_ h
          rw [Session.table, Session.table, List.getD_eq_getElem?_getD, List.getD_eq_getElem?_getD,
            List.getElem?_eq_none hn, List.getElem?_eq_none (hlength ▸ hn)]
      · simp only [hdue, ↓reduceIte] at h
        exact absurd rfl h

end Pool

/-- Whether a script ends with the failure of a find when it has noted that its time has run out. -/
def Script.Resigns (key : String) (timeout : Nat) : Script Call.Answer → Prop
  | .done _ => True
  | .take (.expireKey _ _) next => next () = .done (.error (Call.noReply key timeout))
  | .take _ next => ∀ y, (next y).Resigns key timeout
  | .pause _ next => (next ()).Resigns key timeout

namespace Call

variable {m : Manager} {s : Session} {moves : List (Move Call)}

theorem resigns_check (m : Manager) (key : String) (timeout deadline remaining : Nat)
    (look : Option Message × Nat) :
    (check m key timeout deadline remaining look).Resigns key timeout :=
  check_induction (P := fun _ x => x.Resigns key timeout) (fun _ _ => trivial) (fun _ => rfl)
    (fun _ _ ih => ih) remaining look

/-- A find has not resigned before it ends. -/
theorem resigns_play {i : Nat} {σ : Strand Call Answer}
    (hσ : (Pool.play (script m) s moves).strands[i]? = some σ) {key : String} {timeout : Nat}
    (horigin : σ.origin = .find key timeout) :
    σ.script.Resigns key timeout ∧ ∀ d ∈ σ.pending, d.act ≠ .expire := by
  refine Pool.play_strands_of (R := fun _ => True)
    (I := fun _ _ τ => τ.script.Resigns key timeout ∧ ∀ d ∈ τ.pending, d.act ≠ .expire)
    (fun _ _ => trivial) ?_ ?_ (fun _ _ _ _ h _ => h) hσ horigin
  · intro p _
    refine ⟨?_, nofun⟩
    show (script m (.find key timeout)).Resigns key timeout
    rw [script_find]
    exact fun _ look => resigns_check ..
  · rintro p i σ order - - - ⟨hscript, hpending⟩
    cases hp : σ.pending with
    | cons d rest =>
      rw [hp] at hpending
      rw [Strand.go_pending hp]
      exact ⟨hscript, fun d' hd' => hpending d' (List.mem_cons_of_mem d hd')⟩
    | nil =>
      cases hs : σ.script with
      | done answer =>
        rw [Strand.go_done hp hs]
        exact ⟨hscript, hpending⟩
      | pause ms next =>
        rw [hs] at hscript
        rw [Strand.go_pause hp hs]
        exact ⟨hscript, hpending⟩
      | take step next =>
        rw [hs] at hscript
        have hnext : ∀ y, (next y).Resigns key timeout := by
          intro y
          cases step with
          | expireKey m' key' =>
            rw [show next y = _ from hscript]
            exact trivial
          | _ => exact hscript y
        cases hdeeds : p.session.deeds? order step with
        | some deeds =>
          rw [Strand.go_sweep hp hs hdeeds]
          refine ⟨hnext _, fun d hd hact => ?_⟩
          have hdoes := Session.does_of_mem_deeds? hdeeds hd
          cases step with
          | purge | clear =>
            rw [hdoes.2] at hact
            cases hact
          | storeReply m' key' reply =>
            rcases hdoes.2 with hvisit | rfl
            · rw [hvisit] at hact
              cases hact
            · cases hact
          | _ => cases hdeeds
        | none =>
          rw [Strand.go_step hp hs hdeeds]
          exact ⟨hnext _, hpending⟩

/-- **A find that notes that its time has run out ends with the failure that says so.** -/
theorem result_of_expire {i : Nat} {σ : Strand Call Answer}
    (hσ : (Pool.play (script m) s moves).strands[i]? = some σ) {key : String} {timeout : Nat}
    (horigin : σ.origin = .find key timeout) {order : List String} {d : Deed}
    (hd : (σ.go (Pool.play (script m) s moves).session order).1 = some d)
    (hact : d.act = .expire) :
    (σ.go (Pool.play (script m) s moves).session order).2.1.result? =
      some (.error (noReply key timeout)) := by
  obtain ⟨hscript, hpending⟩ := resigns_play hσ horigin
  cases hp : σ.pending with
  | cons d' rest =>
    rw [Strand.go_pending hp] at hd
    cases hd
    exact absurd hact (hpending d (hp ▸ List.mem_cons_self))
  | nil =>
    cases hs : σ.script with
    | done answer =>
      rw [Strand.go_done hp hs] at hd
      cases hd
    | pause ms next =>
      rw [Strand.go_pause hp hs] at hd
      cases hd
    | take step next =>
      rw [hs] at hscript
      cases hdeeds : (Pool.play (script m) s moves).session.deeds? order step with
      | some deeds =>
        rw [Strand.go_sweep hp hs hdeeds] at hd
        cases hd
      | none =>
        rw [Strand.go_step hp hs hdeeds] at hd ⊢
        cases step with
        | expireKey m' key' =>
          rw [Strand.result?_eq_some]
          exact ⟨hp, hscript⟩
        | createKey | claimReply | discardKey =>
          cases hd
          cases hact
        | _ => cases hd

/-- The key that a call is about, if it is about one. -/
def key? : Call → Option String
  | find key _ | tryFind key | create _ _ key | store key _ | discard key => some key
  | purge | clear => none

/-- A call touches keys that it is not about only by purging. -/
theorem visit_of_does {call : Call} {own key : String} {act : Act Message}
    (hown : call.key? = some own) (hkey : key ≠ own) (h : call.Does key act) : act = .visit := by
  cases act with
  | visit => rfl
  | create =>
    obtain ⟨ctx, keyName, rfl⟩ := h
    exact absurd (Option.some.inj hown) hkey
  | put reply =>
    rw [show call = _ from h] at hown
    exact absurd (Option.some.inj hown) hkey
  | claim =>
    rcases h with ⟨timeout, rfl⟩ | rfl
    · exact absurd (Option.some.inj hown) hkey
    · exact absurd (Option.some.inj hown) hkey
  | discard =>
    rw [show call = _ from h] at hown
    exact absurd (Option.some.inj hown) hkey
  | expire =>
    obtain ⟨timeout, rfl⟩ := h
    exact absurd (Option.some.inj hown) hkey
  | drop =>
    rw [show call = _ from h] at hown
    cases hown

/-- A call that registers or discards does nothing else. -/
theorem act_of_does {call : Call} {own key : String} {act : Act Message} (h : call.Does key act)
    (hcall : (∃ ctx keyName, call = .create ctx keyName own) ∨ call = .discard own) :
    act = .create ∨ act = .discard := by
  rcases hcall with ⟨ctx, keyName, rfl⟩ | rfl
  · cases act with
    | create => exact .inl rfl
    | put | discard | drop => cases h
    | claim => rcases h with ⟨timeout, h⟩ | h <;> cases h
    | expire =>
      obtain ⟨timeout, h⟩ := h
      cases h
    | visit => rcases h with ⟨k, t, h⟩ | ⟨k, r, h⟩ | h <;> cases h
  · cases act with
    | discard => exact .inr rfl
    | put | drop => cases h
    | create =>
      obtain ⟨ctx, keyName, h⟩ := h
      cases h
    | claim => rcases h with ⟨timeout, h⟩ | h <;> cases h
    | expire =>
      obtain ⟨timeout, h⟩ := h
      cases h
    | visit => rcases h with ⟨k, t, h⟩ | ⟨k, r, h⟩ | h <;> cases h

/-- What a strand does next is what its call does, through the manager of the run. -/
theorem does_of_go {i : Nat} {σ : Strand Call Answer}
    (hσ : (Pool.play (script m) s moves).strands[i]? = some σ) {order : List String} {d : Deed}
    (hd : (σ.go (Pool.play (script m) s moves).session order).1 = some d) :
    d.manager = m ∧ σ.origin.Does d.key d.act := by
  have hobeys := Pool.obeys_play_of (obeys_script m σ.origin) hσ rfl
  obtain ⟨step, htakes, hdoes⟩ := hobeys.deed hd
  exact does_of_takes htakes hdoes

/-! ## Keys in a run -/

/-- The entry under a key after some moves. -/
def entryUnder? (m : Manager) (s : Session) (moves : List (Move Call)) (key : String) :
    Option (Entry Message) :=
  ((Pool.play (script m) s moves).session.table m.table).get? key

/-- The state of a key after some moves. -/
def state? (m : Manager) (s : Session) (moves : List (Move Call)) (key : String) :
    Option KeyState :=
  (entryUnder? m s moves key).map Entry.state

theorem play_append (m : Manager) (s : Session) (moves : List (Move Call)) (mv : Move Call) :
    Pool.play (script m) s (moves ++ [mv]) = (Pool.play (script m) s moves).move (script m) mv := by
  rw [Pool.play, List.foldl_append]
  rfl

theorem does_of_acts {mv : Move Call} {call : Call} {key : String} {act : Act Message}
    (h : (Pool.play (script m) s moves).Acts mv call key act) : call.Does key act := by
  obtain ⟨i, order, σ, d, -, hσ, -, rfl, hd, rfl, rfl⟩ := h
  exact (does_of_go hσ hd).2

/-- What an entry changes into is what something done under its key makes of it. -/
theorem acts_of_ne {mv : Move Call} {key : String}
    (h : entryUnder? m s (moves ++ [mv]) key ≠ entryUnder? m s moves key) :
    ∃ call act, (Pool.play (script m) s moves).Acts mv call key act ∧
      entryUnder? m s (moves ++ [mv]) key =
        act.onEntry (Pool.play (script m) s moves).session.clock m.retention
          (entryUnder? m s moves key) := by
  rw [entryUnder?, play_append] at h ⊢
  obtain ⟨i, order, σ, d, hmv, hσ, hdue, hd, -, hkey, hentry⟩ := Pool.acts_of_move h
  rw [(does_of_go hσ hd).1] at hentry
  exact ⟨σ.origin, d.act, ⟨i, order, σ, d, hmv, hσ, hdue, rfl, hd, hkey, rfl⟩, hentry⟩

/-- With one move one thing is done at most. -/
theorem acts_unique {p : Pool Call Answer} {mv : Move Call} {call call' : Call} {key key' : String}
    {act act' : Act Message} (h : p.Acts mv call key act) (h' : p.Acts mv call' key' act') :
    call = call' ∧ key = key' ∧ act = act' := by
  obtain ⟨i, order, σ, d, rfl, hσ, -, rfl, hd, rfl, rfl⟩ := h
  obtain ⟨i', order', σ', d', hmv, hσ', -, rfl, hd', rfl, rfl⟩ := h'
  cases hmv
  rw [hσ] at hσ'
  cases hσ'
  rw [hd] at hd'
  cases hd'
  exact ⟨rfl, rfl, rfl⟩

/-- **A move changes the state of a key along an edge or not at all.** -/
theorem turns_of_ne {mv : Move Call} {key : String}
    (h : entryUnder? m s (moves ++ [mv]) key ≠ entryUnder? m s moves key) :
    ∃ call act, (Pool.play (script m) s moves).Acts mv call key act ∧ call.Does key act ∧
      act.Turns (state? m s moves key) (state? m s (moves ++ [mv]) key) := by
  obtain ⟨call, act, hacts, hentry⟩ := acts_of_ne h
  refine ⟨call, act, hacts, does_of_acts hacts, ?_⟩
  rw [hentry] at h
  rw [state?, state?, hentry]
  exact Act.turns_onEntry h

/-- A key that has expired or got its reply is not created by the next move. -/
theorem state?_append {mv : Move Call} {key : String}
    (h : state? m s moves key = some .expired ∨ state? m s moves key = some .stored)
    (hthere : entryUnder? m s (moves ++ [mv]) key ≠ none) :
    state? m s (moves ++ [mv]) key = some .expired ∨
      state? m s (moves ++ [mv]) key = some .stored := by
  by_cases hsame : entryUnder? m s (moves ++ [mv]) key = entryUnder? m s moves key
  · rwa [state?, hsame]
  · obtain ⟨call, act, -, -, hturns⟩ := turns_of_ne hsame
    have hnone : state? m s (moves ++ [mv]) key ≠ none := by
      rwa [state?, Ne, Option.map_eq_none_iff]
    generalize state? m s moves key = before at h hturns
    generalize state? m s (moves ++ [mv]) key = after at hturns hnone
    cases hturns with
    | create => rcases h with h | h <;> cases h
    | put => exact .inr rfl
    | expire => exact .inl rfl
    | discard | claim | visit | drop => exact absurd rfl hnone

/-- While its entry lives, a key that has expired is never created again. -/
theorem not_created_of_expired {key : String} {l : Nat} (hl : l ≤ moves.length)
    (hexpired : state? m s (moves.take l) key = some .expired)
    (hthere : ∀ j, l ≤ j → j ≤ moves.length → entryUnder? m s (moves.take j) key ≠ none) :
    state? m s moves key ≠ some .created := by
  have hlater : ∀ j, l ≤ j → j ≤ moves.length →
      state? m s (moves.take j) key = some .expired ∨
        state? m s (moves.take j) key = some .stored := by
    intro j hlj
    induction hlj with
    | refl => exact fun _ => .inl hexpired
    | @step j hlj ih =>
      intro hj
      have hnext := hthere (j + 1) (Nat.le_succ_of_le hlj) hj
      rw [List.take_succ_eq_append_getElem hj] at hnext ⊢
      exact state?_append (ih (Nat.le_of_succ_le hj)) hnext
  have hend := hlater moves.length hl (Nat.le_refl _)
  rw [List.take_length] at hend
  rcases hend with hend | hend <;> rw [hend] <;> nofun

/-- Registering, discarding and running out of time leave stored replies alone. -/
theorem stored_of_acts {mv : Move Call} {call : Call} {own : String} {act : Act Message}
    (hacts : (Pool.play (script m) s moves).Acts mv call own act)
    (hact : act = .create ∨ act = .discard ∨ act = .expire) {key : String} {e : Entry Message}
    (he : entryUnder? m s moves key = some e) (hstored : e.isPending = false) :
    entryUnder? m s (moves ++ [mv]) key = some e := by
  by_contra hne
  have hchanged : entryUnder? m s (moves ++ [mv]) key ≠ entryUnder? m s moves key := by rwa [he]
  obtain ⟨call', act', hacts', -, hturns⟩ := turns_of_ne hchanged
  obtain ⟨-, -, rfl⟩ := acts_unique hacts hacts'
  rw [state?, he, Option.map_some, Entry.state_of_not_isPending hstored] at hturns
  exact hturns.ne_stored hact rfl

/-- A call on one key changes the entry of another only by purging it. -/
theorem purged_of_ne {mv : Move Call} {call : Call} {own key k : String} {act : Act Message}
    (hacts : (Pool.play (script m) s moves).Acts mv call k act) (hown : call.key? = some own)
    (hkey : key ≠ own) (h : entryUnder? m s (moves ++ [mv]) key ≠ entryUnder? m s moves key) :
    ∃ e, entryUnder? m s moves key = some e ∧
      e.isKept (Pool.play (script m) s moves).session.clock m.retention = false ∧
      entryUnder? m s (moves ++ [mv]) key = none := by
  obtain ⟨call', act', hacts', hentry⟩ := acts_of_ne h
  obtain ⟨rfl, -, rfl⟩ := acts_unique hacts hacts'
  obtain rfl := visit_of_does hown hkey (does_of_acts hacts')
  rw [hentry] at h ⊢
  exact Act.onEntry_visit_ne h

/-- **The life cycle of the keys in a run.**  Let any calls of a manager have been made, and let
them have come as far as they have.  Then with the next move, whatever it is,

* the entry under a key changes only by something that a call does which is meant to, and its state
  along one of the edges of `Act.Turns`: a registration makes a key created that was absent, a store
  makes it stored, a find whose time has run out makes it expired unless it is stored, and a discard
  makes it absent unless it is stored; a claim makes a stored key absent, and a purge or a clearing
  makes any key absent;
* a registration, a discard, and a find that notes that its time has run out leave every stored
  reply as it is;
* a find that notes this ends with the failure that says so, and makes no entry where there is none;
* a call on one key changes the entry of another key only by purging it when its time is over.

A key that has expired is not created again while its entry lives, and the number of pending entries
is that of the keys that are created or expired. -/
theorem keys_follow_life_cycle (m : Manager) {s : Session}
    (hdistinct : ∀ n, (s.table n).entries.Distinct) (moves : List (Move Call)) :
    let p := Pool.play (script m) s moves
    (∀ mv key, entryUnder? m s (moves ++ [mv]) key ≠ entryUnder? m s moves key →
      ∃ call act, p.Acts mv call key act ∧ call.Does key act ∧
        act.Turns (state? m s moves key) (state? m s (moves ++ [mv]) key)) ∧
    (∀ mv call own act, p.Acts mv call own act →
      (∃ ctx keyName, call = .create ctx keyName own) ∨ call = .discard own ∨ act = .expire →
      ∀ key e, entryUnder? m s moves key = some e → e.isPending = false →
        entryUnder? m s (moves ++ [mv]) key = some e) ∧
    (∀ i order σ d, p.strands[i]? = some σ → (σ.go p.session order).1 = some d → d.act = .expire →
      ∃ timeout, σ.origin = .find d.key timeout ∧
        (σ.go p.session order).2.1.result? = some (.error (noReply d.key timeout)) ∧
        (entryUnder? m s moves d.key = none →
          entryUnder? m s (moves ++ [.go i order]) d.key = none)) ∧
    (∀ mv call own k act, p.Acts mv call k act → call.key? = some own → ∀ key, key ≠ own →
      entryUnder? m s (moves ++ [mv]) key ≠ entryUnder? m s moves key →
      ∃ e, entryUnder? m s moves key = some e ∧ e.isKept p.session.clock m.retention = false ∧
        entryUnder? m s (moves ++ [mv]) key = none) ∧
    (∀ key l, l ≤ moves.length → state? m s (moves.take l) key = some .expired →
      (∀ j, l ≤ j → j ≤ moves.length → entryUnder? m s (moves.take j) key ≠ none) →
      state? m s moves key ≠ some .created) ∧
    (p.session.table m.table).pending =
      {key | state? m s moves key = some .created ∨
        state? m s moves key = some .expired}.ncard := by
  intro p
  refine ⟨fun mv key => turns_of_ne, ?_, ?_, ?_, ?_, ?_⟩
  · intro mv call own act hacts hmeant key e he hstored
    refine stored_of_acts hacts ?_ he hstored
    rcases hmeant with hcreate | hdiscard | hexpire
    · exact (act_of_does (does_of_acts hacts) (.inl hcreate)).imp_right .inl
    · exact (act_of_does (does_of_acts hacts) (.inr hdiscard)).imp_right .inl
    · exact .inr (.inr hexpire)
  · intro i order σ d hσ hd hact
    have hdoes := (does_of_go hσ hd).2
    rw [hact] at hdoes
    obtain ⟨timeout, horigin⟩ := hdoes
    refine ⟨timeout, horigin, result_of_expire hσ horigin hd hact, fun hnone => ?_⟩
    by_contra hmade
    have hchanged : entryUnder? m s (moves ++ [.go i order]) d.key ≠
        entryUnder? m s moves d.key := by
      rwa [hnone]
    rw [entryUnder?, play_append] at hchanged
    obtain ⟨i', order', σ', d', hmv, hσ', -, hd', -, -, hentry⟩ := Pool.acts_of_move hchanged
    cases hmv
    rw [hσ] at hσ'
    cases hσ'
    rw [hd] at hd'
    cases hd'
    rw [hact] at hentry
    rw [entryUnder?, play_append, hentry] at hmade
    rw [entryUnder?] at hnone
    rw [hnone] at hmade
    exact hmade rfl
  · intro mv call own k act hacts hown key hkey
    exact purged_of_ne hacts hown hkey
  · intro key l hl hexpired hthere
    exact not_created_of_expired hl hexpired hthere
  · exact Table.pending_eq_ncard (Pool.distinct_play hdistinct moves m.table)

/-- A request is sent, a find that does not wait finds nothing, and then the reply comes in. -/
def overdue : List (Move Call) :=
  [.start (.create { scope := 0, library := ⟨"", "", []⟩, run := "" } "v" "k"), .go 0 [], .go 0 [],
    .start (.find "k" 0), .go 1 [], .go 1 [], .go 1 [], .go 1 [], .go 1 [], .go 1 [],
    .start (.store "k" { id := "r" }), .go 2 [], .go 2 []]

set_option maxRecDepth 100000 in
theorem state?_overdue :
    state? { table := 0 } { tables := [{}] } overdue "k" = some .expired ∧
      state? { table := 0 } { tables := [{}] } (overdue ++ [.go 2 []]) "k" = some .stored := by
  constructor <;> cbv

/-- The key of a find whose time has run out becomes stored with the reply. -/
theorem overdue_follows_life_cycle :
    (∀ n, (({ tables := [{}] } : Session).table n).entries.Distinct) ∧
      ∃ call act, (Pool.play (script { table := 0 }) { tables := [{}] } overdue).Acts (.go 2 [])
          call "k" act ∧ call.Does "k" act ∧ act.Turns (some .expired) (some .stored) := by
  have hdistinct : ∀ n, (({ tables := [{}] } : Session).table n).entries.Distinct := by
    intro n
    rcases n with - | n <;> exact List.nodup_nil
  refine ⟨hdistinct, ?_⟩
  obtain ⟨hexpired, hstored⟩ := state?_overdue
  obtain ⟨hedges, -⟩ := keys_follow_life_cycle { table := 0 } hdistinct overdue
  have hedge := hedges (.go 2 []) "k" fun hsame => by
    rw [state?, hsame, ← state?, hexpired] at hstored
    cases hstored
  rwa [hexpired, hstored] at hedge

end Call
end Scenario
