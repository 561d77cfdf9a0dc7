import Scenario.Proofs.Correlation.Retention
import Scenario.Proofs.Correlation.Waiting

/-!
# Registering a key again

Keys are used again whenever a message keeps its identifier, and so a key can be registered while
there is an entry under it: one that waits, one whose wait ran out, or one with a reply that nobody
has claimed.  A registration leaves such an entry alone, and this includes the begin of its time.
What a reply to the new request can count on is therefore not the time of its own registration, but
the rest of what the entry was given before.

What it can count on is the argument of this file: from a registration on, no entry under the key
has a time that began earlier.  The entry can be dropped, claimed or made anew on the way, but what
is made later begins later.

## What is here

* `windowAfter` — when the time of the entry began that a registration finds or makes.
* `Act.le_since_onEntry` is the step, and `Call.windowAfter_le` the run: no entry from then on has a
  time that began before.
* `Call.entryAt_visit` — until this time is over no purge drops what is under the key, and
  `Call.served_after_create` — a look that comes after a store finds a reply.
* `kept_after_create` puts them together for whole runs, and `dropped_after_create` shows a reply
  that is gone although the last registration is not as long ago as entries are kept.
-/

set_option autoImplicit false

namespace Scenario

open Correlation

/-- What is done to a key at a time leaves no entry whose time began before a moment, if there was
none and the moment has passed. -/
theorem Correlation.Act.le_since_onEntry {ρ : Type} {now retention w : Nat} {a : Act ρ}
    {o : Option (Entry ρ)} (ho : ∀ e ∈ o, w ≤ e.since) (hw : w ≤ now) :
    ∀ e ∈ a.onEntry now retention o, w ≤ e.since := by
  intro e he
  rcases Act.since_onEntry he with ⟨hnow, -⟩ | ⟨e', he', hsince, -⟩
  · rwa [hnow]
  · rw [← hsince]
    exact ho e' he'

/-- When the time began of the entry under a key after it was registered by deed number `a` at a
time: now, if it had no entry, and otherwise when the time of this entry began. -/
def windowAfter (h : List Happening) (n : Nat) (k : String) (a time : Nat) : Nat :=
  ((entryAt h n k a).getD { created := time }).since

/-- Between deeds `i` and `j` none of some strands claims a reply from under the key or clears the
key. -/
def UnclaimedBy (who : Set Nat) (h : List Happening) (n : Nat) (k : String) (i j : Nat) : Prop :=
  ∀ l e, i < l → l < j → h[l]? = some e → e.strand ∈ who → e.On n k →
    e.deed.act ≠ .claim ∧ e.deed.act ≠ .drop

section Registered

variable {ι α : Type} {p : Pool ι α} {n : Nat} {k : String} {a b : Nat} {e e' : Happening}
  (c : p.Coherent n) (ha : p.history[a]? = some e)

include c ha in
/-- The time of what a registration finds began before. -/
theorem Pool.Coherent.windowAfter_le : windowAfter p.history n k a e.time ≤ e.time := by
  rw [windowAfter]
  cases hE : entryAt p.history n k a with
  | none => exact Nat.le_refl _
  | some E =>
    obtain ⟨i, e', hia, hi, htime, -⟩ := windowAt_of_entryAt hE
    rw [Option.getD_some, ← htime]
    exact c.time_le hia hi ha

theorem entryAt_of_create {h : List Happening} (ha : h[a]? = some e) (hon : e.On n k)
    (hact : e.deed.act = .create) :
    entryAt h n k (a + 1) = some ((entryAt h n k a).getD { created := e.time }) := by
  rw [entryAt_succ_of_on ha hon, hact]
  rfl

variable (hon : e.On n k) (hact : e.deed.act = .create)
include c ha hon hact

/-- **From a registration on no entry has a time that began earlier.** -/
theorem Pool.Coherent.windowAfter_le_since (hab : a < b) :
    ∀ E ∈ entryAt p.history n k b, windowAfter p.history n k a e.time ≤ E.since := by
  induction hab with
  | refl =>
    rw [entryAt_of_create ha hon hact]
    rintro E ⟨⟩
    exact Nat.le_refl _
  | @step b hab ih =>
    by_cases hdone : ∃ e', p.history[b]? = some e' ∧ e'.On n k
    · obtain ⟨e', hb, hon'⟩ := hdone
      rw [entryAt_succ_of_on hb hon']
      exact Act.le_since_onEntry ih
        (Nat.le_trans (c.windowAfter_le ha) (c.time_le hab ha hb))
    · rwa [entryAt_succ_of_not_on fun e' hb hon' => hdone ⟨e', hb, hon'⟩]

/-- **Until then no purge drops what is under the key.** -/
theorem Pool.Coherent.entryAt_visit (hab : a < b) (hb : p.history[b]? = some e')
    (hon' : e'.On n k) (hvisit : e'.deed.act = .visit)
    (htime : e'.time < windowAfter p.history n k a e.time + e'.deed.manager.retention) :
    entryAt p.history n k (b + 1) = entryAt p.history n k b := by
  have hpassed := Nat.le_trans (c.windowAfter_le (k := k) ha) (c.time_le hab ha hb)
  rw [entryAt_succ_of_on hb hon', hvisit, Act.onEntry]
  cases hE : entryAt p.history n k b with
  | none => rfl
  | some E =>
    have hsince := c.windowAfter_le_since ha hon hact hab E hE
    have hkept : E.isKept e'.time e'.deed.manager.retention = true := decide_eq_true (by omega)
    rw [Option.filter_some, if_pos hkept]

/-- A reply that is stored after the registration is still there until then, or a later one, if
nobody has claimed one or cleared the key. -/
theorem Pool.Coherent.exists_serves_of_create {retention j : Nat} {reply : Message} (haj : a < j)
    (hput : DoneAt p.history n k j (.put reply)) (hjb : j < b) (hb : p.history[b]? = some e')
    (hon' : e'.On n k) (hclaim : e'.deed.act = .claim)
    (hretention : ∀ e ∈ p.history, e.deed.manager.retention = retention)
    (hunclaimed : UnclaimedBy Set.univ p.history n k j b)
    (htime : e'.time < windowAfter p.history n k a e.time + retention) :
    ∃ l reply', j ≤ l ∧ e'.handed = some reply' ∧ Serves p.history n k l b reply' := by
  obtain ⟨E, hE, hreply⟩ := entryAt_of_put hput
  have hstored : E.isPending = false := by rw [Entry.isPending, hreply]; rfl
  have hsince := c.windowAfter_le_since ha hon hact (Nat.lt_succ_of_lt haj) E hE
  have hpassed := Nat.le_trans (c.windowAfter_le (k := k) ha) (c.time_le (haj.trans hjb) ha hb)
  have hkept : KeptBetween p.history n k E.since j b := by
    intro l e'' hjl hlb hl hon''
    have hother := hunclaimed l e'' hjl hlb hl (Set.mem_univ _) hon''
    cases hdone : e''.deed.act with
    | claim => exact hother.1 hdone
    | drop => exact hother.2 hdone
    | visit =>
      have hbefore := c.time_le hlb hl hb
      rw [Act.Keeps, hretention e'' (List.mem_of_getElem? hl)]
      omega
    | _ => trivial
  obtain ⟨E', hE', hstored', -⟩ := entryAt_of_keptBetween hE hstored hjb hkept
  obtain ⟨reply', hreply'⟩ : ∃ reply', E'.reply = some reply' :=
    Option.isSome_iff_exists.1 (by simpa [Entry.isPending] using hstored')
  have hhanded : e'.handed = some reply' := by
    rw [c.handed b e' hb hon'.1, hclaim, hon'.2, hE']
    exact hreply'
  obtain ⟨l, hserves⟩ := c.exists_serves ⟨e', hb, hon', hhanded⟩
  refine ⟨l, reply', ?_, hhanded, hserves⟩
  by_contra hlj
  exact absurd hput (hserves.untouched.1 j reply (Nat.lt_of_not_le hlj) hjb)

end Registered

/-- The first look of a call that is after a reply is the first that it claims. -/
theorem Call.unclaimedBy_univ {m : Manager} {s : Session} (hempty : s.tables[m.table]? = some {})
    {moves : List (Move Call)} {k : String} {i j b : Nat} {σ : Strand Call Call.Answer}
    (hσ : (Pool.play (script m) s moves).strands[i]? = some σ)
    (hafter : (∃ timeout, σ.origin = .find k timeout) ∨ σ.origin = .tryFind k)
    (hothers : UnclaimedBy {i' | i' ≠ i} (Pool.play (script m) s moves).history m.table k j b)
    (hfirst : ∀ (l : Nat) (e : Happening), l < b →
      (Pool.play (script m) s moves).history[l]? = some e → e.strand = i → e.deed.act ≠ .claim) :
    UnclaimedBy Set.univ (Pool.play (script m) s moves).history m.table k j b := by
  intro l e hjl hlb hl _ hon
  by_cases hi : e.strand = i
  · exact ⟨hfirst l e hlb hl hi, (harmless_of_after hempty hσ hafter hl hi).2⟩
  · exact hothers l e hjl hlb hl hi hon

/-- **A reply outlives the time of the entry that its registration found.**  Let deed number `a` of
a run register a key, and let `w` be when the time of the entry began that is under the key then: at
the registration if it had none, and otherwise when that entry was made or the last wait for it ran
out, so never later than the registration.

* No purge before `w + retention` drops what is under the key.
* If a reply is stored after the registration, whoever looks under the key after the store and
  before `w + retention` is handed this reply or a later one and returns it, if nobody has claimed
  one since the store or cleared the key.
* If nobody is late, a call that starts after the store and before `w + retention` looks at the
  moment it starts, and returns such a reply, if nobody else has claimed one since the store or
  cleared the key. -/
theorem kept_after_create {m : Manager} {s : Session} (hempty : s.tables[m.table]? = some {})
    (moves : List (Move Call)) {k : String} {a : Nat} {e : Happening}
    (ha : (Pool.play (Call.script m) s moves).history[a]? = some e) (hon : e.On m.table k)
    (hact : e.deed.act = .create) :
    let p := Pool.play (Call.script m) s moves
    let h := p.history
    let w := windowAfter h m.table k a e.time
    w ≤ e.time ∧
    (∀ b e', a < b → h[b]? = some e' → e'.On m.table k → e'.deed.act = .visit →
      e'.time < w + m.retention → entryAt h m.table k (b + 1) = entryAt h m.table k b) ∧
    ∀ j reply, a < j → DoneAt h m.table k j (.put reply) →
      (∀ b e', j < b → h[b]? = some e' → e'.On m.table k → e'.deed.act = .claim →
        UnclaimedBy Set.univ h m.table k j b → e'.time < w + m.retention →
        ∃ l reply', j ≤ l ∧ Serves h m.table k l b reply' ∧
          ∃ σ, p.strands[e'.strand]? = some σ ∧ σ.result? = some (.ok (some reply'))) ∧
      (Pool.AlwaysPrompt (Call.script m) s moves →
        ∀ (i : Nat) (σ : Strand Call Call.Answer), p.strands[i]? = some σ →
          ((∃ timeout, σ.origin = .find k timeout) ∨ σ.origin = .tryFind k) → j < σ.begun →
          σ.since < w + m.retention → σ.since < p.session.clock →
          ∃ b e', j < b ∧ h[b]? = some e' ∧ e'.strand = i ∧ e'.deed = ⟨m, k, .claim⟩ ∧
            e'.time = σ.since ∧ (UnclaimedBy {i' | i' ≠ i} h m.table k j b →
              ∃ l reply', j ≤ l ∧ Serves h m.table k l b reply' ∧
                σ.result? = some (.ok (some reply')))) := by
  intro p h w
  have c : p.Coherent m.table := Call.coherent_play hempty moves
  have hmanager : ∀ e' ∈ p.history, e'.deed.manager = m := fun e' he' =>
    (Call.does_play hempty he').1
  have hlook : ∀ j reply, a < j → DoneAt h m.table k j (.put reply) →
      ∀ b e', j < b → h[b]? = some e' → e'.On m.table k → e'.deed.act = .claim →
        UnclaimedBy Set.univ h m.table k j b → e'.time < w + m.retention →
        ∃ l reply', j ≤ l ∧ Serves h m.table k l b reply' ∧
          ∃ σ, p.strands[e'.strand]? = some σ ∧ σ.result? = some (.ok (some reply')) := by
    intro j reply haj hput b e' hjb hb hon' hclaim hunclaimed htime
    obtain ⟨l, reply', hjl, hhanded, hserves⟩ := c.exists_serves_of_create ha hon hact haj hput hjb
      hb hon' hclaim (fun e' he' => congrArg Manager.retention (hmanager e' he')) hunclaimed htime
    obtain ⟨-, σ, hσ, -⟩ := Call.does_play hempty (List.mem_of_getElem? hb)
    exact ⟨l, reply', hjl, hserves, σ, hσ,
      ((Pool.answered_play (Call.honest_script m) hempty hσ).result_of_handed hb rfl hhanded).1⟩
  refine ⟨c.windowAfter_le ha, fun b e' hab hb hon' hvisit htime => ?_,
    fun j reply haj hput => ⟨hlook j reply haj hput, ?_⟩⟩
  · refine c.entryAt_visit ha hon hact hab hb hon' hvisit ?_
    rwa [hmanager e' (List.mem_of_getElem? hb)]
  · intro hprompt i σ hσ hafter hbegun htime hpassed
    obtain ⟨b, e', hb, hown, hclaim, hstart, hfirst⟩ :=
      Call.first_look hempty hprompt hσ hafter hpassed
    have hjb : j < b := Nat.lt_of_lt_of_le hbegun ((Pool.begun_play hempty hσ).own b e' hb hown).1
    have hon' := Call.on_of_claim hempty hσ hafter hb hown hclaim
    have hdeed : e'.deed = ⟨m, k, .claim⟩ := by
      rw [← hmanager e' (List.mem_of_getElem? hb), ← hon'.2, ← hclaim]
    refine ⟨b, e', hjb, hb, hown, hdeed, hstart, fun hothers => ?_⟩
    obtain ⟨l, reply', hjl, hserves, σ', hσ', hresult⟩ := hlook j reply haj hput b e' hjb hb hon'
      hclaim (Call.unclaimedBy_univ hempty hσ hafter hothers hfirst) (hstart ▸ htime)
    rw [hown] at hσ'
    obtain rfl : σ = σ' := Option.some.inj (hσ.symm.trans hσ')
    exact ⟨l, reply', hjl, hserves, hresult⟩

namespace Call

/-- A session with an empty table. -/
def blank : Session := { tables := [{}], scopes := [.empty] }

/-- A key is registered and, when more than half of its time has passed, registered again.  A reply
is stored, and after some time a call looks for it. -/
def registeredTwice (wait : Nat) (look : Call) : List (Move Call) :=
  let create := .create { scope := 0, library := ⟨"", "", []⟩, run := "" } "v" "k"
  [.start create, .go 0 [], .go 0 [], .pass 600, .start create, .go 1 [], .go 1 [], .pass 100,
    .start (.store "k" { id := "r" }), .go 2 [], .go 2 [], .go 2 [], .pass wait,
    .start look, .go 3 [], .go 3 [], .go 3 [], .go 3 [], .go 3 [], .go 3 []]

theorem history_registeredTwice_tryFind :
    (Pool.play (script hasty) blank (registeredTwice 299 (.tryFind "k"))).history =
      [⟨0, 0, ⟨hasty, "k", .create⟩, none⟩, ⟨1, 600, ⟨hasty, "k", .create⟩, none⟩,
        ⟨2, 700, ⟨hasty, "k", .visit⟩, none⟩, ⟨2, 700, ⟨hasty, "k", .put { id := "r" }⟩, none⟩,
        ⟨3, 999, ⟨hasty, "k", .claim⟩, some { id := "r" }⟩] := by
  cbv

theorem history_registeredTwice_find :
    (Pool.play (script hasty) blank (registeredTwice 300 (.find "k" 0))).history =
      [⟨0, 0, ⟨hasty, "k", .create⟩, none⟩, ⟨1, 600, ⟨hasty, "k", .create⟩, none⟩,
        ⟨2, 700, ⟨hasty, "k", .visit⟩, none⟩, ⟨2, 700, ⟨hasty, "k", .put { id := "r" }⟩, none⟩,
        ⟨3, 1000, ⟨hasty, "k", .visit⟩, none⟩, ⟨3, 1000, ⟨hasty, "k", .claim⟩, none⟩,
        ⟨3, 1000, ⟨hasty, "k", .expire⟩, none⟩] := by
  cbv

theorem strand_registeredTwice_find :
    (Pool.play (script hasty) blank (registeredTwice 300 (.find "k" 0))).strands[3]? =
      some ⟨.find "k" 0, 4, 1000, 1000, [], .done (.error (noReply "k" 0))⟩ := by
  cbv

end Call

/-- The reply is there at the last moment at which the entry of the first registration is kept. -/
theorem kept_after_create_last_moment :
    let p := Pool.play (Call.script Call.hasty) Call.blank
      (Call.registeredTwice 299 (.tryFind "k"))
    ∃ σ reply, p.strands[3]? = some σ ∧ σ.result? = some (.ok (some reply)) := by
  intro p
  have hh : p.history = _ := Call.history_registeredTwice_tryFind
  have hcreate : p.history[1]? = some ⟨1, 600, ⟨Call.hasty, "k", .create⟩, none⟩ := by
    rw [hh]
    rfl
  have hput : DoneAt p.history 0 "k" 3 (.put { id := "r" }) := by
    rw [hh]
    exact ⟨_, rfl, ⟨rfl, rfl⟩, rfl⟩
  have hclaim : p.history[4]? =
      some ⟨3, 999, ⟨Call.hasty, "k", .claim⟩, some { id := "r" }⟩ := by
    rw [hh]
    rfl
  have hwindow : windowAfter p.history 0 "k" 1 600 = 0 := by
    rw [hh]
    rfl
  obtain ⟨-, -, hserved⟩ := kept_after_create (m := Call.hasty) rfl
    (Call.registeredTwice 299 (.tryFind "k")) hcreate ⟨rfl, rfl⟩ rfl
  obtain ⟨_, reply, -, -, σ, hσ, hresult⟩ := (hserved 3 _ (by decide) hput).1 4 _ (by decide) hclaim
    ⟨rfl, rfl⟩ rfl (fun l e _ _ => by omega) (by
      show 999 < windowAfter p.history 0 "k" 1 600 + 1000
      rw [hwindow]
      decide)
  exact ⟨σ, reply, hσ, hresult⟩

/-- **A registration gives no new time to an entry that is there.**  The reply is stored after the
second registration and dropped by a purge less than a second after it, though entries are kept for
a second, and a call that starts at this moment does not get it. -/
theorem dropped_after_create :
    let p := Pool.play (Call.script Call.hasty) Call.blank
      (Call.registeredTwice 300 (.find "k" 0))
    ∃ e e' E σ, p.history[1]? = some e ∧ e.deed = ⟨Call.hasty, "k", .create⟩ ∧
      DoneAt p.history 0 "k" 3 (.put { id := "r" }) ∧
      p.history[4]? = some e' ∧ e'.deed = ⟨Call.hasty, "k", .visit⟩ ∧
      e'.time < e.time + Call.hasty.retention ∧
      entryAt p.history 0 "k" 4 = some E ∧ E.reply = some { id := "r" } ∧
      entryAt p.history 0 "k" 5 = none ∧
      p.strands[3]? = some σ ∧ σ.origin = .find "k" 0 ∧
      σ.since < e.time + Call.hasty.retention ∧
      σ.result? = some (.error (Call.noReply "k" 0)) := by
  intro p
  have hstrand : p.strands[3]? = _ := Call.strand_registeredTwice_find
  rw [show p.history = _ from Call.history_registeredTwice_find, hstrand]
  refine ⟨_, _, _, _, rfl, rfl, ⟨_, rfl, ⟨rfl, rfl⟩, rfl⟩, rfl, rfl, by decide, rfl, rfl, rfl, rfl,
    rfl, by decide, rfl⟩

end Scenario
