import Mathlib.Data.List.Induction
import Scenario.Proofs.Session.Pool

/-!
# What a history tells of a key

The history of a pool lists what was done, deed by deed.  For a single key of a table that was empty
at first it is a timeline: it says at every point what the entry under the key is, and therefore
what a claim is handed there.  Questions on when a reply was stored, who got it and what happened in
between are questions on this timeline, and no table has to be looked at to answer them.

## What is here

* `entryAt` is the entry under a key after so many deeds.
* `DoneAt`, `HandedAt` and `BeginsAt` say what happens at a point of the timeline, and
  `KeptBetween`, `NonePutBetween` and `UntouchedBetween` what does not happen between two points.
* `entryAt_of_keptBetween` goes forward: a reply that nothing takes away is still there.
* `exists_put_of_entryAt` and `windowAt_of_entryAt` go backward: a reply that is there was put
  there, and the time of its entry began somewhere.
* `Pool.CoherentAt` is the invariant that ties a pool to its history, key by key.  A strand that
  goes on preserves it (`Pool.CoherentAt.advance`), hence every move does, and so it holds after
  every run of a key that had no entry at first (`Pool.coherentAt_play`).
* `Pool.Coherent` says the same of a whole table, and `Pool.coherent_play` of a run in which it was
  empty at first.
-/

set_option autoImplicit false

namespace Scenario

open Correlation

/-! ## Timelines -/

/-- Whether a deed was done under a key of a table. -/
def Happening.On (e : Happening) (n : Nat) (k : String) : Prop :=
  e.deed.manager.table = n ∧ e.deed.key = k

instance (e : Happening) (n : Nat) (k : String) : Decidable (e.On n k) :=
  inferInstanceAs (Decidable (_ ∧ _))

section Timeline

variable (h : List Happening) (n : Nat) (k : String)

/-- The entry under a key of a table that was empty at first, after so many deeds. -/
def entryAt : Nat → Option (Entry Message)
  | 0 => none
  | j + 1 =>
    match h[j]? with
    | some e =>
      if e.On n k then e.deed.act.onEntry e.time e.deed.manager.retention (entryAt j)
      else entryAt j
    | none => entryAt j

/-- Something is done under the key by deed number `j`. -/
def DoneAt (j : Nat) (a : Act Message) : Prop :=
  ∃ e, h[j]? = some e ∧ e.On n k ∧ e.deed.act = a

/-- Deed number `j` hands out a reply from under the key. -/
def HandedAt (j : Nat) (reply : Message) : Prop :=
  ∃ e, h[j]? = some e ∧ e.On n k ∧ e.handed = some reply

/-- With deed number `j` the time of an entry begins: it is made, or a wait for it runs out. -/
def BeginsAt (j : Nat) : Prop :=
  entryAt h n k j = none ∧ entryAt h n k (j + 1) ≠ none ∨
    DoneAt h n k j .expire ∧ (entryAt h n k j).any Entry.isPending

/-- The time of the entry after `j` deeds began at `since`. -/
def WindowAt (j since : Nat) : Prop :=
  ∃ i e, i < j ∧ h[i]? = some e ∧ e.time = since ∧ BeginsAt h n k i ∧
    ∀ l, i < l → l < j → ¬ BeginsAt h n k l

/-- Between deeds `i` and `j` nothing takes a stored reply away whose time began at `since`. -/
def KeptBetween (since i j : Nat) : Prop :=
  ∀ l e, i < l → l < j → h[l]? = some e → e.On n k →
    e.deed.act.Keeps e.time e.deed.manager.retention since

/-- No reply is stored between deeds `i` and `j`. -/
def NonePutBetween (i j : Nat) : Prop :=
  ∀ l reply, i < l → l < j → ¬ DoneAt h n k l (.put reply)

/-- Between deeds `i` and `j` no reply is stored under the key, nobody claims one, and nobody clears
the key. -/
def UntouchedBetween (i j : Nat) : Prop :=
  NonePutBetween h n k i j ∧
    ∀ l, i < l → l < j → ¬ DoneAt h n k l .claim ∧ ¬ DoneAt h n k l .drop

variable {h n k} {i j since : Nat} {e : Happening}

theorem KeptBetween.untouched (hkept : KeptBetween h n k since i j)
    (hnone : NonePutBetween h n k i j) : UntouchedBetween h n k i j := by
  refine ⟨hnone, fun l hil hlj => ⟨?_, ?_⟩⟩
  · rintro ⟨e, hl, hon, hact⟩
    have hkeeps := hkept l e hil hlj hl hon
    rw [hact] at hkeeps
    exact hkeeps
  · rintro ⟨e, hl, hon, hact⟩
    have hkeeps := hkept l e hil hlj hl hon
    rw [hact] at hkeeps
    exact hkeeps

/-- Where nobody touches a reply only a purge can take it away, when its time is over. -/
theorem UntouchedBetween.kept (huntouched : UntouchedBetween h n k i j)
    (htime : ∀ l e, i < l → l < j → h[l]? = some e → e.On n k →
      e.time - since < e.deed.manager.retention) : KeptBetween h n k since i j := by
  intro l e hil hlj hl hon
  have hother := huntouched.2 l hil hlj
  cases hact : e.deed.act with
  | claim => exact hother.1 ⟨e, hl, hon, hact⟩
  | drop => exact hother.2 ⟨e, hl, hon, hact⟩
  | visit => exact htime l e hil hlj hl hon
  | _ => trivial

theorem entryAt_succ_of_on (hj : h[j]? = some e) (hon : e.On n k) :
    entryAt h n k (j + 1) =
      e.deed.act.onEntry e.time e.deed.manager.retention (entryAt h n k j) := by
  rw [entryAt, hj]
  exact if_pos hon

theorem entryAt_succ_of_not_on (hon : ∀ e, h[j]? = some e → ¬ e.On n k) :
    entryAt h n k (j + 1) = entryAt h n k j := by
  rw [entryAt]
  split
  · next e he => exact if_neg (hon e he)
  · rfl

/-- What is done later does not change what was. -/
theorem entryAt_append (h' : List Happening) (hj : j ≤ h.length) :
    entryAt (h ++ h') n k j = entryAt h n k j := by
  induction j with
  | zero => rfl
  | succ j ih => rw [entryAt, entryAt, List.getElem?_append_left hj, ih (Nat.le_of_succ_le hj)]

theorem entryAt_append_singleton (h : List Happening) (n : Nat) (k : String) (e : Happening) :
    entryAt (h ++ [e]) n k (h ++ [e]).length =
      if e.On n k then e.deed.act.onEntry e.time e.deed.manager.retention (entryAt h n k h.length)
      else entryAt h n k h.length := by
  have hlast : (h ++ [e])[h.length]? = some e := by simp
  rw [List.length_append, List.length_singleton]
  split
  · next hon => rw [entryAt_succ_of_on hlast hon, entryAt_append _ (Nat.le_refl _)]
  · next hon =>
    rw [entryAt_succ_of_not_on fun e' he' => ?_, entryAt_append _ (Nat.le_refl _)]
    rw [hlast] at he'
    cases he'
    exact hon

/-- **A stored reply stays until something takes it away.** -/
theorem entryAt_of_keptBetween {E : Entry Message} (hE : entryAt h n k (i + 1) = some E)
    (hstored : E.isPending = false) (hij : i < j) (hkept : KeptBetween h n k E.since i j) :
    ∃ E', entryAt h n k j = some E' ∧ E'.isPending = false ∧ E'.since = E.since := by
  induction hij with
  | refl => exact ⟨E, hE, hstored, rfl⟩
  | @step j hij ih =>
    obtain ⟨E', hE', hstored', hsince⟩ :=
      ih fun l e hil hlj => hkept l e hil (Nat.lt_succ_of_lt hlj)
    by_cases hon : ∃ e, h[j]? = some e ∧ e.On n k
    · obtain ⟨e, hj, hon⟩ := hon
      rw [entryAt_succ_of_on hj hon, hE']
      have hkeeps := hkept j e hij (Nat.lt_succ_self j) hj hon
      rw [← hsince] at hkeeps ⊢
      exact Act.onEntry_of_keeps hstored' hkeeps
    · rw [entryAt_succ_of_not_on fun e hj hone => hon ⟨e, hj, hone⟩]
      exact ⟨E', hE', hstored', hsince⟩

/-- **What is gone stays away** until the key is registered again or a reply is stored there. -/
theorem entryAt_eq_none (hi : entryAt h n k i = none) (hij : i ≤ j)
    (hmade : ∀ l e, i ≤ l → l < j → h[l]? = some e → e.On n k →
      e.deed.act ≠ .create ∧ ∀ reply, e.deed.act ≠ .put reply) : entryAt h n k j = none := by
  induction hij with
  | refl => exact hi
  | @step j hij ih =>
    have hnone := ih fun l e hil hlj => hmade l e hil (Nat.lt_succ_of_lt hlj)
    by_cases hon : ∃ e, h[j]? = some e ∧ e.On n k
    · obtain ⟨e, hj, hon⟩ := hon
      obtain ⟨hcreate, hput⟩ := hmade j e hij (Nat.lt_succ_self j) hj hon
      rw [entryAt_succ_of_on hj hon, hnone]
      exact Act.onEntry_none hcreate hput
    · rw [entryAt_succ_of_not_on fun e hj hone => hon ⟨e, hj, hone⟩]
      exact hnone

theorem KeptBetween.succ (hkept : KeptBetween h n k since i j)
    (hj : ∀ e, h[j]? = some e → e.On n k → e.deed.act.Keeps e.time e.deed.manager.retention since) :
    KeptBetween h n k since i (j + 1) := by
  intro l e hil hlj hl hon
  rcases Nat.lt_succ_iff_lt_or_eq.1 hlj with hlj | rfl
  · exact hkept l e hil hlj hl hon
  · exact hj e hl hon

theorem NonePutBetween.succ (hnone : NonePutBetween h n k i j)
    (hj : ∀ reply, ¬ DoneAt h n k j (.put reply)) : NonePutBetween h n k i (j + 1) := by
  intro l reply hil hlj
  rcases Nat.lt_succ_iff_lt_or_eq.1 hlj with hlj | rfl
  · exact hnone l reply hil hlj
  · exact hj reply

/-- **A stored reply was put there, and nothing has touched it since.** -/
theorem exists_put_of_entryAt {E : Entry Message} {reply : Message}
    (hE : entryAt h n k j = some E) (hreply : E.reply = some reply) :
    ∃ i, i < j ∧ DoneAt h n k i (.put reply) ∧ entryAt h n k (i + 1) = some E ∧
      KeptBetween h n k E.since i j ∧ NonePutBetween h n k i j := by
  induction j with
  | zero => cases hE
  | succ j ih =>
    by_cases hon : ∃ e, h[j]? = some e ∧ e.On n k
    · obtain ⟨e, hj, hon⟩ := hon
      have hE' := hE
      rw [entryAt_succ_of_on hj hon] at hE'
      rcases Act.put_or_keeps hE' hreply with hput | ⟨hbefore, hkeeps, hnot⟩
      · refine ⟨j, Nat.lt_succ_self j, ⟨e, hj, hon, hput⟩, hE, ?_, ?_⟩
        · intro l _ hjl hlj
          omega
        · intro l _ hjl hlj
          omega
      · obtain ⟨i, hij, hput, hEi, hkept, hnone⟩ := ih hbefore
        refine ⟨i, Nat.lt_succ_of_lt hij, hput, hEi, hkept.succ fun e' hj' _ => ?_,
          hnone.succ fun r hr => ?_⟩
        · rw [hj] at hj'
          cases hj'
          exact hkeeps
        · obtain ⟨e', hj', -, hput'⟩ := hr
          rw [hj] at hj'
          cases hj'
          exact hnot r hput'
    · rw [entryAt_succ_of_not_on fun e hj hone => hon ⟨e, hj, hone⟩] at hE
      obtain ⟨i, hij, hput, hEi, hkept, hnone⟩ := ih hE
      refine ⟨i, Nat.lt_succ_of_lt hij, hput, hEi, hkept.succ fun e hj hone => ?_,
        hnone.succ fun r hr => ?_⟩
      · exact absurd ⟨e, hj, hone⟩ hon
      · obtain ⟨e, hj, hone, -⟩ := hr
        exact hon ⟨e, hj, hone⟩

theorem entryAt_of_put {reply : Message} (hput : DoneAt h n k i (.put reply)) :
    ∃ E, entryAt h n k (i + 1) = some E ∧ E.reply = some reply := by
  obtain ⟨e, hi, hon, hact⟩ := hput
  rw [entryAt_succ_of_on hi hon, hact]
  exact ⟨_, rfl, rfl⟩

/-- What was put last is still there if nothing has taken it away. -/
theorem entryAt_eq_of_keptBetween {E : Entry Message} {reply : Message}
    (hput : DoneAt h n k i (.put reply)) (hE : entryAt h n k (i + 1) = some E) (hij : i < j)
    (hkept : KeptBetween h n k E.since i j) (hnone : NonePutBetween h n k i j) :
    entryAt h n k j = some E ∧ E.reply = some reply := by
  obtain ⟨E₁, hE₁, hreply⟩ := entryAt_of_put hput
  obtain rfl : E₁ = E := Option.some.inj (hE₁.symm.trans hE)
  have hstored : E₁.isPending = false := by rw [Entry.isPending, hreply]; rfl
  obtain ⟨E', hE', hstored', -⟩ := entryAt_of_keptBetween hE hstored hij hkept
  cases hreply' : E'.reply with
  | none =>
    rw [Entry.isPending, hreply'] at hstored'
    cases hstored'
  | some reply' =>
    obtain ⟨i', hij', hput', hEi', -, hnone'⟩ := exists_put_of_entryAt hE' hreply'
    -- both were the last to put a reply there before deed `j`
    rcases Nat.lt_trichotomy i i' with hlt | rfl | hlt
    · exact absurd hput' (hnone i' reply' hlt hij')
    · obtain rfl : E' = E₁ := Option.some.inj (hEi'.symm.trans hE)
      exact ⟨hE', hreply⟩
    · exact absurd hput (hnone' i reply hlt hij)

theorem WindowAt.succ (hw : WindowAt h n k j since) (hj : ¬ BeginsAt h n k j) :
    WindowAt h n k (j + 1) since := by
  obtain ⟨i, e, hij, hi, htime, hbegins, hlast⟩ := hw
  refine ⟨i, e, Nat.lt_succ_of_lt hij, hi, htime, hbegins, fun l hil hlj => ?_⟩
  rcases Nat.lt_succ_iff_lt_or_eq.1 hlj with hlj | rfl
  · exact hlast l hil hlj
  · exact hj

/-- **The time of an entry began when it was made or when the last wait for it ran out.** -/
theorem windowAt_of_entryAt {E : Entry Message} (hE : entryAt h n k j = some E) :
    WindowAt h n k j E.since := by
  induction j generalizing E with
  | zero => cases hE
  | succ j ih =>
    by_cases hon : ∃ e, h[j]? = some e ∧ e.On n k
    · obtain ⟨e, hj, hon⟩ := hon
      have hE' := hE
      rw [entryAt_succ_of_on hj hon] at hE'
      rcases Act.since_onEntry hE' with ⟨hnow, hbegins⟩ | ⟨E', hbefore, hsince, hnot⟩
      · refine ⟨j, e, Nat.lt_succ_self j, hj, hnow.symm, ?_, fun l hjl hlj => by omega⟩
        rcases hbegins with hmade | ⟨hexpire, hpending⟩
        · exact .inl ⟨hmade, by rw [hE]; exact Option.some_ne_none E⟩
        · exact .inr ⟨⟨e, hj, hon, hexpire⟩, hpending⟩
      · rw [← hsince]
        refine (ih hbefore).succ fun hbegins => ?_
        rcases hbegins with ⟨hmade, -⟩ | ⟨⟨e', hj', -, hexpire⟩, hpending⟩
        · rw [hbefore] at hmade
          cases hmade
        · rw [hj] at hj'
          cases hj'
          exact hnot ⟨hexpire, hpending⟩
    · have hstill := entryAt_succ_of_not_on fun e hj hone => hon ⟨e, hj, hone⟩
      rw [hstill] at hE
      refine (ih hE).succ fun hbegins => ?_
      rcases hbegins with ⟨hmade, -⟩ | ⟨⟨e, hj, hone, -⟩, -⟩
      · rw [hE] at hmade
        cases hmade
      · exact hon ⟨e, hj, hone⟩

theorem WindowAt.unique {since' : Nat} (hw : WindowAt h n k j since)
    (hw' : WindowAt h n k j since') : since = since' := by
  obtain ⟨i, e, hij, hi, htime, hbegins, hlast⟩ := hw
  obtain ⟨i', e', hij', hi', htime', hbegins', hlast'⟩ := hw'
  rcases Nat.lt_trichotomy i i' with hlt | rfl | hlt
  · exact absurd hbegins' (hlast i' hlt hij')
  · rw [hi] at hi'
    cases hi'
    exact htime.symm.trans htime'
  · exact absurd hbegins (hlast' i hlt hij)

end Timeline

/-- Whether the history of a pool tells all about one key of one of its tables. -/
structure Pool.CoherentAt {ι α : Type} (p : Pool ι α) (n : Nat) (k : String) : Prop where
  known : n < p.session.tables.length
  /-- The entry is what the deeds have made of it. -/
  get : (p.session.table n).get? k = entryAt p.history n k p.history.length
  /-- What was handed out was in the entry. -/
  handed : ∀ (j : Nat) (e : Happening), p.history[j]? = some e → e.On n k →
    e.handed = e.deed.act.handed? (entryAt p.history n k j)
  /-- The deeds are listed in the order of time. -/
  sorted : p.history.Pairwise (·.time ≤ ·.time)
  past : ∀ e ∈ p.history, e.time ≤ p.session.clock

/-- Whether the history of a pool tells all about one of its tables. -/
structure Pool.Coherent {ι α : Type} (p : Pool ι α) (n : Nat) : Prop where
  known : n < p.session.tables.length
  /-- The table is what the deeds have made of it. -/
  get : ∀ k, (p.session.table n).get? k = entryAt p.history n k p.history.length
  /-- What was handed out was in the entry. -/
  handed : ∀ (j : Nat) (e : Happening), p.history[j]? = some e → e.deed.manager.table = n →
    e.handed = e.deed.act.handed? (entryAt p.history n e.deed.key j)
  /-- The deeds are listed in the order of time. -/
  sorted : p.history.Pairwise (·.time ≤ ·.time)
  past : ∀ e ∈ p.history, e.time ≤ p.session.clock
  /-- Every deed was done by one of the strands. -/
  own : ∀ e ∈ p.history, e.strand < p.strands.length

namespace Pool

variable {ι α : Type} {launch : ι → Script α} {p : Pool ι α} {n : Nat}

theorem CoherentAt.time_le {k : String} (c : p.CoherentAt n k) {l j : Nat} {e e' : Happening}
    (hlj : l < j) (hl : p.history[l]? = some e) (hj : p.history[j]? = some e') :
    e.time ≤ e'.time := by
  obtain ⟨hl', rfl⟩ := List.getElem?_eq_some_iff.1 hl
  obtain ⟨hj', rfl⟩ := List.getElem?_eq_some_iff.1 hj
  exact List.pairwise_iff_getElem.1 c.sorted l j hl' hj' hlj

theorem history_advance_none {i : Nat} {σ : Strand ι α} {order : List String}
    (h : (σ.go p.session order).1 = none) : (p.advance i σ order).history = p.history := by
  simp [advance, h]

theorem history_advance_some {i : Nat} {σ : Strand ι α} {order : List String} {d : Deed}
    (h : (σ.go p.session order).1 = some d) :
    (p.advance i σ order).history =
      p.history ++ [⟨i, p.session.clock, d, (p.session.perform d).1⟩] := by
  simp [advance, h]

theorem history_prefix_advance (i : Nat) (σ : Strand ι α) (order : List String) :
    p.history <+: (p.advance i σ order).history :=
  List.prefix_append ..

/-- What stands in the history after a strand has gone on stood there before or is its deed. -/
theorem getElem?_history_advance {i : Nat} {σ : Strand ι α} {order : List String} {j : Nat}
    {e : Happening} (hj : (p.advance i σ order).history[j]? = some e) :
    p.history[j]? = some e ∨ j = p.history.length ∧
      ∃ d, (σ.go p.session order).1 = some d ∧
        e = ⟨i, p.session.clock, d, (p.session.perform d).1⟩ := by
  cases hd : (σ.go p.session order).1 with
  | none =>
    rw [history_advance_none hd] at hj
    exact .inl hj
  | some d =>
    rw [history_advance_some hd] at hj
    rcases Nat.lt_or_ge j p.history.length with hlt | hge
    · rw [List.getElem?_append_left hlt] at hj
      exact .inl hj
    · have hlt := (List.getElem?_eq_some_iff.1 hj).1
      rw [List.length_append, List.length_singleton] at hlt
      obtain rfl : j = p.history.length := by omega
      rw [List.getElem?_concat_length] at hj
      exact .inr ⟨rfl, d, rfl, (Option.some.inj hj).symm⟩

theorem mem_history_advance {i : Nat} {σ : Strand ι α} {order : List String} {e : Happening}
    (he : e ∈ (p.advance i σ order).history) :
    e ∈ p.history ∨ e.strand = i ∧ e.time = p.session.clock := by
  obtain ⟨j, hj⟩ := List.mem_iff_getElem?.1 he
  rcases getElem?_history_advance hj with hj | ⟨-, d, -, rfl⟩
  · exact .inl (List.mem_of_getElem? hj)
  · exact .inr ⟨rfl, rfl⟩

theorem CoherentAt.get_advance {k : String} (c : p.CoherentAt n k) (i : Nat) (σ : Strand ι α)
    (order : List String) :
    ((p.advance i σ order).session.table n).get? k =
      entryAt (p.advance i σ order).history n k (p.advance i σ order).history.length := by
  have htables : (p.advance i σ order).session.tables = _ := σ.tables_go p.session order
  cases hdeed : (σ.go p.session order).1 with
  | none =>
    rw [hdeed, Option.elim_none] at htables
    rw [Session.table, htables, history_advance_none hdeed]
    exact c.get
  | some d =>
    have htable := Session.table_perform c.known d
    rw [hdeed, Option.elim_some] at htables
    rw [Session.table, ← htables] at htable
    rw [history_advance_some hdeed, entryAt_append_singleton, Session.table, htable]
    by_cases hn : d.manager.table = n
    · rw [if_pos hn, Table.get?_act]
      by_cases hk : k = d.key
      · subst hk
        rw [if_pos rfl, if_pos ⟨hn, rfl⟩, c.get]
      · rw [if_neg hk, if_neg fun hon => hk hon.2.symm, c.get]
    · rw [if_neg hn, c.get, if_neg fun hon => hn hon.1]

/-- A strand that goes on adds to the history what it has done to the key. -/
theorem CoherentAt.advance {k : String} (c : p.CoherentAt n k) (i : Nat) (σ : Strand ι α)
    (order : List String) : (p.advance i σ order).CoherentAt n k where
  known := by
    have htables : (p.advance i σ order).session.tables = _ := σ.tables_go p.session order
    rw [htables]
    cases (σ.go p.session order).1 with
    | none => exact c.known
    | some d =>
      rw [Option.elim_some, Session.length_tables_perform]
      exact c.known
  get := c.get_advance i σ order
  handed := by
    intro j e hj hon
    rcases getElem?_history_advance hj with hj | ⟨rfl, d, hdeed, rfl⟩
    · rw [Pool.advance, entryAt_append _ (Nat.le_of_lt (List.getElem?_eq_some_iff.1 hj).1)]
      exact c.handed j e hj hon
    · rw [Pool.advance, entryAt_append _ (Nat.le_refl _), ← c.get, ← hon.1, ← hon.2]
      exact Table.handed?_eq ..
  sorted := by
    rw [Pool.advance, List.pairwise_append]
    refine ⟨c.sorted, ?_, fun e he e' he' => ?_⟩
    · cases (σ.go p.session order).1 with
      | none => exact .nil
      | some d => exact List.pairwise_singleton ..
    · obtain ⟨d, -, rfl⟩ := Option.map_eq_some_iff.1 (Option.mem_toList.1 he')
      exact c.past e he
  past := by
    have hclock : (p.advance i σ order).session.clock = p.session.clock :=
      σ.clock_go p.session order
    intro e he
    rw [hclock]
    rcases mem_history_advance he with he | ⟨-, htime⟩
    · exact c.past e he
    · exact Nat.le_of_eq htime

theorem CoherentAt.move {k : String} (c : p.CoherentAt n k) (mv : Move ι) :
    (p.move launch mv).CoherentAt n k := by
  cases mv with
  | start origin => exact ⟨c.known, c.get, c.handed, c.sorted, c.past⟩
  | go i order =>
    rw [Pool.move]
    split
    · next σ _ =>
      split
      · exact c.advance i σ order
      · exact c
    · exact c
  | pass ms =>
    exact ⟨c.known, c.get, c.handed, c.sorted, fun e he => Nat.le_trans (c.past e he)
      (Nat.le_max_left _ _)⟩

theorem Coherent.at (c : p.Coherent n) (k : String) : p.CoherentAt n k :=
  ⟨c.known, c.get k, fun j e hj hon => hon.2 ▸ c.handed j e hj hon.1, c.sorted, c.past⟩

theorem Coherent.time_le (c : p.Coherent n) {l j : Nat} {e e' : Happening} (hlj : l < j)
    (hl : p.history[l]? = some e) (hj : p.history[j]? = some e') : e.time ≤ e'.time :=
  (c.at "").time_le hlj hl hj

/-- What is told of each key is told of the table. -/
theorem CoherentAt.coherent (c : ∀ k, p.CoherentAt n k)
    (hown : ∀ e ∈ p.history, e.strand < p.strands.length) : p.Coherent n :=
  ⟨(c "").known, fun k => (c k).get, fun j e hj hn => (c e.deed.key).handed j e hj ⟨hn, rfl⟩,
    (c "").sorted, (c "").past, hown⟩

/-- A strand that goes on adds to the history what it has done to the tables. -/
theorem Coherent.advance (c : p.Coherent n) {i : Nat} (hi : i < p.strands.length)
    (σ : Strand ι α) (order : List String) : (p.advance i σ order).Coherent n := by
  have hstrands : (p.advance i σ order).strands.length = p.strands.length := List.length_set
  refine CoherentAt.coherent (fun k => (c.at k).advance i σ order) fun e he => ?_
  rw [hstrands]
  rcases mem_history_advance he with he | ⟨hown, -⟩
  · exact c.own e he
  · rwa [hown]

theorem Coherent.move (c : p.Coherent n) (mv : Move ι) : (p.move launch mv).Coherent n := by
  cases mv with
  | start origin =>
    refine ⟨c.known, c.get, c.handed, c.sorted, c.past, fun e he => ?_⟩
    rw [Pool.move, List.length_append]
    exact Nat.lt_add_right _ (c.own e he)
  | go i order =>
    rw [Pool.move]
    split
    · next σ hi =>
      split
      · exact c.advance (List.getElem?_eq_some_iff.1 hi).1 σ order
      · exact c
    · exact c
  | pass ms =>
    exact ⟨c.known, c.get, c.handed, c.sorted, fun e he => Nat.le_trans (c.past e he)
      (Nat.le_max_left _ _), c.own⟩

/-- What holds of the pool at first and survives every move holds after all moves. -/
theorem play_induction {P : Pool ι α → Prop} {s : Session} (fresh : P { session := s })
    (move : ∀ p mv, P p → P (p.move launch mv)) (moves : List (Move ι)) :
    P (play launch s moves) := by
  induction moves using List.reverseRecOn with
  | nil => exact fresh
  | append_singleton moves mv ih =>
    rw [play, List.foldl_append]
    exact move _ mv ih

/-- Everything in a run is done between its beginning and the time that it is now. -/
theorem clock_le_play (s : Session) (moves : List (Move ι)) :
    s.clock ≤ (play launch s moves).session.clock ∧
      ∀ e ∈ (play launch s moves).history,
        s.clock ≤ e.time ∧ e.time ≤ (play launch s moves).session.clock := by
  refine play_induction (P := fun p => s.clock ≤ p.session.clock ∧
      ∀ e ∈ p.history, s.clock ≤ e.time ∧ e.time ≤ p.session.clock)
    ⟨Nat.le_refl _, nofun⟩ (fun p mv hp => ?_) moves
  cases mv with
  | start origin => exact hp
  | go i order =>
    rw [Pool.move]
    split
    · next σ _ =>
      split
      · have hclock : (p.advance i σ order).session.clock = p.session.clock :=
          σ.clock_go p.session order
        refine ⟨hclock ▸ hp.1, fun e he => ?_⟩
        rcases mem_history_advance he with he | ⟨-, htime⟩
        · exact hclock ▸ hp.2 e he
        · exact ⟨htime ▸ hp.1, hclock ▸ Nat.le_of_eq htime⟩
      · exact hp
    · exact hp
  | pass ms =>
    have hlater : p.session.clock ≤ (p.move launch (.pass ms)).session.clock :=
      Nat.le_max_left ..
    exact ⟨Nat.le_trans hp.1 hlater, fun e he =>
      ⟨(hp.2 e he).1, Nat.le_trans (hp.2 e he).2 hlater⟩⟩

/-- No key comes to stand twice in a table, so that at any time during a run a step that concerns
all keys is its deeds one after the other (`Session.foldl_perform_deeds`). -/
theorem distinct_play {s : Session} (h : ∀ n, (s.table n).entries.Distinct)
    (moves : List (Move ι)) (n : Nat) :
    ((play launch s moves).session.table n).entries.Distinct := by
  refine play_induction (P := fun p => ∀ n, (p.session.table n).entries.Distinct) h
    (fun p mv hp => ?_) moves n
  cases mv with
  | start origin => exact hp
  | go i order =>
    rw [Pool.move]
    split
    · next σ _ =>
      split
      · intro n
        rw [Session.table, advance, σ.tables_go p.session order]
        cases (σ.go p.session order).1 with
        | none => exact hp n
        | some d => exact Session.distinct_perform hp d n
      · exact hp
    · exact hp
  | pass ms => exact hp

/-- **The history of a run tells all about a key that had no entry at first.** -/
theorem coherentAt_play {s : Session} {k : String} (hn : n < s.tables.length)
    (habsent : (s.table n).get? k = none) (moves : List (Move ι)) :
    (play launch s moves).CoherentAt n k :=
  play_induction (P := fun p => p.CoherentAt n k) ⟨hn, habsent, nofun, .nil, nofun⟩
    (fun _ mv c => c.move mv) moves

/-- **The history of a run tells all about a table that was empty at first.** -/
theorem coherent_play {s : Session} (hempty : s.tables[n]? = some {}) (moves : List (Move ι)) :
    (play launch s moves).Coherent n := by
  refine play_induction (P := fun p => p.Coherent n) ?_ (fun _ mv c => c.move mv) moves
  refine ⟨(List.getElem?_eq_some_iff.1 hempty).1, fun k => ?_, nofun, .nil, nofun, nofun⟩
  rw [Session.table, List.getD_eq_getElem?_getD, hempty]
  rfl

end Pool

end Scenario
