import Mathlib
import Scenario.Proofs.Correlation.Call

/-!
# Every reply is claimed at most once

Any number of calls may be after the reply under one key, and while they wait others store replies,
discard keys, purge and clear the table.  This file shows that a reply that was stored is handed to
at most one of them, and that what is handed out is always what was stored last.

The table itself forgets a reply that is claimed.  The argument therefore goes by the history of
the run: the entry under a key at any moment is what the deeds so far have made of it
(`Pool.Coherent`), and an entry with a reply in it was left alone since the reply was put there
(`exists_put_of_entryAt`).

## What is here

* `Serves` — one deed hands out the reply that another one has put under the key.
* `claimed_exactly_once` — in every run, whoever hands out a reply serves the last store under the
  key, no store is served twice, and a call answers with the reply that it was handed.
-/

set_option autoImplicit false

namespace Scenario

open Correlation

/-- Deed number `j` hands out the reply that deed number `i` has put under the key.  No other reply
was put there in between, and nobody has claimed one. -/
structure Serves (h : List Happening) (n : Nat) (k : String) (i j : Nat) (reply : Message) :
    Prop where
  before : i < j
  stored : DoneAt h n k i (.put reply)
  handed : HandedAt h n k j reply
  untouched : UntouchedBetween h n k i j

/-- Deed number `j` hands a reply from under the key to strand number `i`. -/
def HandedTo (h : List Happening) (i j : Nat) (k : String) (reply : Message) : Prop :=
  ∃ e, h[j]? = some e ∧ e.strand = i ∧ e.deed.key = k ∧ e.handed = some reply

section Serves

variable {ι α : Type} {p : Pool ι α} {n : Nat} {k : String} {j : Nat} {reply : Message}

/-- What hands out a reply is a claim, and the reply was in the entry. -/
theorem Pool.CoherentAt.claim_of_handed (c : p.CoherentAt n k)
    (h : HandedAt p.history n k j reply) :
    DoneAt p.history n k j .claim ∧
      ∃ E, entryAt p.history n k j = some E ∧ E.reply = some reply := by
  obtain ⟨e, hj, hon, hreply⟩ := h
  have hhanded := c.handed j e hj hon
  rw [hreply] at hhanded
  cases hact : e.deed.act with
  | claim =>
    rw [hact] at hhanded
    exact ⟨⟨e, hj, hon, hact⟩, Option.bind_eq_some_iff.1 hhanded.symm⟩
  | _ =>
    rw [hact] at hhanded
    cases hhanded

theorem Pool.Coherent.claim_of_handed (c : p.Coherent n) (h : HandedAt p.history n k j reply) :
    DoneAt p.history n k j .claim ∧
      ∃ E, entryAt p.history n k j = some E ∧ E.reply = some reply :=
  (c.at k).claim_of_handed h

/-- **Whatever is handed out was the last that was put under the key.** -/
theorem Pool.Coherent.exists_serves (c : p.Coherent n) (h : HandedAt p.history n k j reply) :
    ∃ i, Serves p.history n k i j reply := by
  obtain ⟨-, E, hE, hreply⟩ := c.claim_of_handed h
  obtain ⟨i, hij, hput, -, hkept, hlast⟩ := exists_put_of_entryAt hE hreply
  exact ⟨i, hij, hput, h, hkept.untouched hlast⟩

/-- A later handing out of the same reply would come after a claim. -/
theorem Pool.Coherent.serves_unique (c : p.Coherent n) {i j' : Nat} {reply' : Message}
    (h : Serves p.history n k i j reply) (h' : Serves p.history n k i j' reply') : j = j' := by
  rcases Nat.lt_trichotomy j j' with hlt | heq | hlt
  · exact absurd (c.claim_of_handed h.handed).1 (h'.untouched.2 j h.before hlt).1
  · exact heq
  · exact absurd (c.claim_of_handed h'.handed).1 (h.untouched.2 j' h'.before hlt).1

end Serves

/-- **Every stored reply is handed out at most once, and what is handed out was stored last.**  In
every run of a manager whose table was empty at first:

* a reply that is handed out under a key is the one that was stored there last, and nobody has
  claimed one there since;
* no store is served twice;
* nothing is handed out if nothing was stored since the last time that something was;
* a call answers with a reply just if it was handed this reply, at most once, and only under the
  key that it asks for. -/
theorem claimed_exactly_once {m : Manager} {s : Session}
    (hempty : s.tables[m.table]? = some {}) (moves : List (Move Call)) :
    let p := Pool.play (Call.script m) s moves
    let h := p.history
    (∀ k j reply, HandedAt h m.table k j reply → ∃ i, Serves h m.table k i j reply) ∧
    (∀ k i j j' reply reply', Serves h m.table k i j reply → Serves h m.table k i j' reply' →
      j = j') ∧
    (∀ k j, (∀ i reply, i < j → DoneAt h m.table k i (.put reply) →
        ∃ l reply', i < l ∧ l < j ∧ HandedAt h m.table k l reply') →
      ∀ reply, ¬ HandedAt h m.table k j reply) ∧
    (∀ i σ, p.strands[i]? = some σ →
      (∀ reply, σ.result? = some (.ok (some reply)) ↔ ∃ j k, HandedTo h i j k reply) ∧
      (∀ j j' k k' reply reply', HandedTo h i j k reply → HandedTo h i j' k' reply' → j = j') ∧
      (∀ j k reply, HandedTo h i j k reply →
        HandedAt h m.table k j reply ∧
          ((∃ timeout, σ.origin = .find k timeout) ∨ σ.origin = .tryFind k))) := by
  intro p h
  have c : p.Coherent m.table := Pool.coherent_play hempty moves
  refine ⟨fun k j reply => c.exists_serves, fun k i j j' reply reply' => c.serves_unique, ?_, ?_⟩
  · intro k j hserved reply hhanded
    obtain ⟨i, hserves⟩ := c.exists_serves hhanded
    obtain ⟨l, reply', hil, hlj, hl⟩ := hserved i reply hserves.before hserves.stored
    exact (hserves.untouched.2 l hil hlj).1 (c.claim_of_handed hl).1
  · intro i σ hσ
    have hanswered := Pool.answered_play (Call.honest_script m) hempty hσ
    refine ⟨fun reply => ⟨fun hresult => ?_, ?_⟩, ?_, ?_⟩
    · obtain ⟨j, e, hj, hown, -, hreply, -⟩ := hanswered.handed_of_result hresult
      exact ⟨j, e.deed.key, e, hj, hown, rfl, hreply⟩
    · rintro ⟨j, k, e, hj, hown, -, hreply⟩
      exact (hanswered.result_of_handed hj hown hreply).1
    · rintro j j' k k' reply reply' ⟨e, hj, hown, -, hreply⟩ ⟨e', hj', hown', -, hreply'⟩
      exact Nat.le_antisymm ((hanswered.result_of_handed hj' hown' hreply').2 j e hj hown)
        ((hanswered.result_of_handed hj hown hreply).2 j' e' hj' hown')
    · rintro j k reply ⟨e, hj, rfl, rfl, hreply⟩
      obtain ⟨hmanager, σ', hσ', horigin⟩ :=
        Call.does_play hempty (List.mem_of_getElem? hj)
      rw [hσ] at hσ'
      cases hσ'
      have hhanded : HandedAt h m.table e.deed.key j reply :=
        ⟨e, hj, ⟨congrArg Manager.table hmanager, rfl⟩, hreply⟩
      obtain ⟨e', hj', -, hclaim⟩ := (c.claim_of_handed hhanded).1
      rw [hj] at hj'
      cases hj'
      rw [hclaim] at horigin
      exact ⟨hhanded, horigin⟩

/-- A find waits, a reply is stored, and another call claims it before the find looks again. -/
def Call.contested : List (Move Call) :=
  [.start (.find "k" 1000), .start (.store "k" { id := "r" }), .start (.tryFind "k"),
    .go 0 [], .go 0 [], .go 0 [], .go 0 [], .go 0 [],
    .go 1 [], .go 1 [], .go 2 [], .pass 500, .go 0 []]

set_option maxRecDepth 20000 in
theorem claimed_exactly_once_contested :
    let h := (Pool.play (Call.script { table := 0 }) { tables := [{}] } Call.contested).history
    ∃ i, Serves h 0 "k" i 2 { id := "r" } := by
  refine (claimed_exactly_once rfl Call.contested).1 "k" 2 _
    ⟨⟨2, 0, ⟨{ table := 0 }, "k", .claim⟩, some { id := "r" }⟩, ?_, ⟨rfl, rfl⟩, rfl⟩
  cbv

end Scenario
