import Scenario.Proofs.Correlation.ExactlyOnce
import Scenario.Proofs.Correlation.Prompt

/-!
# When a find that waits gets its reply

A find looks for its reply from time to time.  Between being stored and the next look the reply lies
in the table like any other, and its time is that of its entry, which may have been made long ago,
when the request was sent.  A purge that comes by then drops it, and the purge may well be part of a
store or a find under another key.  So a find can wait for a reply, the reply can arrive in time,
and the find fails all the same (`waiting_find_overtaken`).

This file shows that nothing else can go wrong.

## What is here

* `NextLook` — the next time that a strand looks for a reply.
* `SurvivesUntil` — each purge that comes by the key before some moment does so within the window of
  the reply that is stored there.
* `find_succeeds_iff_survives` — a find that waits alone for a reply which is stored meanwhile
  succeeds just if one of the replies survives until its next look, and then it returns the last
  one that was stored.  If nobody is late it has ended when its time is over, and what is stored
  before its deadline is stored before one of its looks.
-/

set_option autoImplicit false

namespace Scenario

open Correlation

/-- Whether a strand is still at work after deed number `j`. -/
def Continues (h : List Happening) (i j : Nat) : Prop :=
  ∃ l e, j < l ∧ h[l]? = some e ∧ e.strand = i

/-- From deed number `b` on, as long as a strand is at work, nobody else claims a reply under the
key or clears the key. -/
def WaitsAlone (h : List Happening) (n : Nat) (k : String) (i b : Nat) : Prop :=
  ∀ l e, b ≤ l → Continues h i l → h[l]? = some e → e.strand ≠ i → e.On n k →
    e.deed.act ≠ .claim ∧ e.deed.act ≠ .drop

/-- Deed number `c` is the first after number `j` with which a strand looks for a reply. -/
structure NextLook (h : List Happening) (i j c : Nat) : Prop where
  after : j < c
  looks : ∃ e, h[c]? = some e ∧ e.strand = i ∧ e.deed.act = .claim
  first : ∀ (l : Nat) (e : Happening), j < l → l < c → h[l]? = some e → e.strand = i →
    e.deed.act ≠ .claim

/-- Between deeds `j` and `c` a purge comes by the key only while the entry that is there after deed
number `j` is kept. -/
def SurvivesUntil (h : List Happening) (m : Manager) (k : String) (j c : Nat) : Prop :=
  ∃ w, WindowAt h m.table k (j + 1) w ∧ ∀ l e, j < l → l < c → h[l]? = some e →
    e.On m.table k → e.deed.act = .visit → e.time - w < m.retention

section Waiting

variable {m : Manager} {s : Session} {moves : List (Move Call)} {k : String} {i j c : Nat}
  {σ : Strand Call Call.Answer} {timeout : Nat}

/-- A reply that survives until the next look of a find is there when it looks. -/
theorem Call.found_of_survives (hempty : s.tables[m.table]? = some {})
    (hσ : (Pool.play (script m) s moves).strands[i]? = some σ)
    (horigin : σ.origin = .find k timeout)
    (halone : WaitsAlone (Pool.play (script m) s moves).history m.table k i σ.begun)
    (hbegun : σ.begun ≤ j) {reply : Message}
    (hput : DoneAt (Pool.play (script m) s moves).history m.table k j (.put reply))
    (hnext : NextLook (Pool.play (script m) s moves).history i j c)
    (hsurvives : SurvivesUntil (Pool.play (script m) s moves).history m k j c) :
    ∃ reply', σ.result? = some (.ok (some reply')) := by
  obtain ⟨w, hw, hvisits⟩ := hsurvives
  obtain ⟨E, hE, hreply⟩ := entryAt_of_put hput
  obtain rfl : w = E.since := hw.unique (windowAt_of_entryAt hE)
  have hstored : E.isPending = false := by
    rw [Entry.isPending, hreply]
    rfl
  obtain ⟨e', hc, hown, hclaim⟩ := hnext.looks
  have hkept : KeptBetween (Pool.play (script m) s moves).history m.table k E.since j c := by
    intro l e hjl hlc hl hon
    have hact : e.deed.act ≠ .claim ∧ e.deed.act ≠ .drop := by
      by_cases hi : e.strand = i
      · exact ⟨hnext.first l e hjl hlc hl hi,
          (harmless_of_after hempty hσ (.inl ⟨timeout, horigin⟩) hl hi).2⟩
      · exact halone l e (by omega) ⟨c, e', hlc, hc, hown⟩ hl hi hon
    have hvisit := hvisits l e hjl hlc hl hon
    rw [(does_play hempty (List.mem_of_getElem? hl)).1]
    cases hcase : e.deed.act with
    | claim => exact hact.1 hcase
    | drop => exact hact.2 hcase
    | visit => exact hvisit hcase
    | _ => trivial
  obtain ⟨E', hE', hstored', -⟩ := entryAt_of_keptBetween hE hstored hnext.after hkept
  have hon := on_of_claim hempty hσ (.inl ⟨timeout, horigin⟩) hc hown hclaim
  have hhanded := (coherent_play hempty moves).handed c e' hc hon.1
  rw [hclaim, hon.2, hE'] at hhanded
  cases hreply' : E'.reply with
  | none =>
    rw [Entry.isPending, hreply'] at hstored'
    cases hstored'
  | some reply' =>
    refine ⟨reply', ?_⟩
    exact ((Pool.answered_play (honest_script m) hempty hσ).result_of_handed hc hown
      (hhanded.trans hreply')).1

/-- A find that returns a reply has looked while it was there, and no other was stored since. -/
theorem Call.survives_of_found (hempty : s.tables[m.table]? = some {})
    (hσ : (Pool.play (script m) s moves).strands[i]? = some σ)
    (horigin : σ.origin = .find k timeout) {reply reply' : Message}
    (hput : DoneAt (Pool.play (script m) s moves).history m.table k j (.put reply))
    (hwaits : Continues (Pool.play (script m) s moves).history i j)
    (hfound : σ.result? = some (.ok (some reply'))) :
    ∃ l c, j ≤ l ∧ Serves (Pool.play (script m) s moves).history m.table k l c reply' ∧
      NextLook (Pool.play (script m) s moves).history i l c ∧
      SurvivesUntil (Pool.play (script m) s moves).history m k l c := by
  obtain ⟨c, e, hc, hown, hclaim, hhanded, hlast⟩ :=
    (Pool.answered_play (honest_script m) hempty hσ).handed_of_result hfound
  have hon := on_of_claim hempty hσ (.inl ⟨timeout, horigin⟩) hc hown hclaim
  have hat : HandedAt (Pool.play (script m) s moves).history m.table k c reply' :=
    ⟨e, hc, hon, hhanded⟩
  obtain ⟨-, E, hE, hreply⟩ := (coherent_play hempty moves).claim_of_handed hat
  obtain ⟨l, hlc, hlput, hEl, hkept, hnone⟩ := exists_put_of_entryAt hE hreply
  have hjc : j < c := by
    obtain ⟨l', e', hjl', hl', hi⟩ := hwaits
    have := hlast l' e' hl' hi
    omega
  have hjl : j ≤ l := Nat.not_lt.1 fun hlj => hnone j reply hlj hjc hput
  refine ⟨l, c, hjl, ⟨hlc, hlput, hat, hkept.untouched hnone⟩,
    ⟨hlc, ⟨e, hc, hown, hclaim⟩, fun l' e' hll' hl'c hl' hi hact => ?_⟩,
    E.since, windowAt_of_entryAt hEl, fun l' e' hll' hl'c hl' hon' hact => ?_⟩
  · have hkeeps := hkept l' e' hll' hl'c hl'
      (on_of_claim hempty hσ (.inl ⟨timeout, horigin⟩) hl' hi hact)
    rw [hact] at hkeeps
    exact hkeeps
  · have hkeeps := hkept l' e' hll' hl'c hl' hon'
    rw [hact, (does_play hempty (List.mem_of_getElem? hl')).1] at hkeeps
    exact hkeeps

theorem exists_nextLook {h : List Happening} {e : Happening} (hjc : j < c) (hc : h[c]? = some e)
    (hown : e.strand = i) (hclaim : e.deed.act = .claim) : ∃ c, NextLook h i j c := by
  induction c using Nat.strongRecOn generalizing e with
  | ind c ih =>
    by_cases hfirst : ∃ l e', j < l ∧ l < c ∧ h[l]? = some e' ∧ e'.strand = i ∧
        e'.deed.act = .claim
    · obtain ⟨l, e', hjl, hlc, hl, hi, hact⟩ := hfirst
      exact ih l hlc hjl hl hi hact
    · exact ⟨c, hjc, ⟨e, hc, hown, hclaim⟩, fun l e' hjl hlc hl hi hact =>
        hfirst ⟨l, e', hjl, hlc, hl, hi, hact⟩⟩

/-- If nobody is late, a find looks again after a reply was stored before its deadline. -/
theorem Call.looks_again (hempty : s.tables[m.table]? = some {})
    (hprompt : Pool.AlwaysPrompt (script m) s moves)
    (hσ : (Pool.play (script m) s moves).strands[i]? = some σ)
    (horigin : σ.origin = .find k timeout) {e : Happening}
    (hj : (Pool.play (script m) s moves).history[j]? = some e)
    (htime : e.time < σ.since + timeout)
    (hwaits : Continues (Pool.play (script m) s moves).history i j)
    {answer : Answer} (hanswer : σ.result? = some answer) :
    ∃ c, NextLook (Pool.play (script m) s moves).history i j c := by
  have hanswers := answers_play hσ hanswer
  rw [horigin] at hanswers
  rcases hanswers with ⟨reply, rfl⟩ | rfl
  · obtain ⟨c, e', hc, hown, hclaim, -, hlast⟩ :=
      (Pool.answered_play (honest_script m) hempty hσ).handed_of_result hanswer
    obtain ⟨l, e'', hjl, hl, hi⟩ := hwaits
    exact exists_nextLook (Nat.lt_of_lt_of_le hjl (hlast l e'' hl hi)) hc hown hclaim
  · obtain ⟨e', he', hown, hclaim, hlate⟩ := looked_of_failed hempty hprompt hσ horigin hanswer
    obtain ⟨c, hc⟩ := List.mem_iff_getElem?.1 he'
    have hjc : j < c := by
      refine Nat.not_le.1 fun hcj => ?_
      rcases Nat.lt_or_eq_of_le hcj with hlt | rfl
      · have := (coherent_play hempty moves).time_le hlt hc hj
        omega
      · rw [hj] at hc
        cases hc
        omega
    exact exists_nextLook hjc hc hown hclaim

end Waiting

/-- **A find that waits gets its reply just if no purge drops it before the find looks again.**
Let a reply be stored under a key while a find waits for it, and let nobody else claim a reply there
or clear the key.  When the find ends, then

* it returns a reply just if one of those that were stored while it waited has survived until the
  find looked for the next time, and otherwise it reports that its time ran out;
* the reply that it returns is the last one that was stored before the find claimed it.

If nobody is late, the find has ended when its time is over, and it looks again after a reply that
was stored before its deadline. -/
theorem find_succeeds_iff_survives {m : Manager} {s : Session}
    (hempty : s.tables[m.table]? = some {}) (moves : List (Move Call)) {i : Nat}
    {σ : Strand Call Call.Answer} {k : String} {timeout : Nat}
    (hσ : (Pool.play (Call.script m) s moves).strands[i]? = some σ)
    (horigin : σ.origin = .find k timeout)
    (halone : WaitsAlone (Pool.play (Call.script m) s moves).history m.table k i σ.begun)
    {j : Nat} {reply : Message} (hbegun : σ.begun ≤ j)
    (hput : DoneAt (Pool.play (Call.script m) s moves).history m.table k j (.put reply))
    (hwaits : Continues (Pool.play (Call.script m) s moves).history i j) :
    let p := Pool.play (Call.script m) s moves
    let h := p.history
    (∀ answer, σ.result? = some answer →
      ((∃ reply', answer = .ok (some reply')) ↔
        ∃ l c reply', σ.begun ≤ l ∧ DoneAt h m.table k l (.put reply') ∧ NextLook h i l c ∧
          SurvivesUntil h m k l c) ∧
      (∀ reply', answer = .ok (some reply') →
        ∃ l c, j ≤ l ∧ Serves h m.table k l c reply' ∧ HandedTo h i c k reply') ∧
      ((∀ reply', answer ≠ .ok (some reply')) → answer = .error (Call.noReply k timeout))) ∧
    (Pool.AlwaysPrompt (Call.script m) s moves →
      (σ.since + timeout < p.session.clock → ∃ answer, σ.result? = some answer) ∧
      (∀ e answer, h[j]? = some e → e.time < σ.since + timeout → σ.result? = some answer →
        ∃ c, NextLook h i j c)) := by
  intro p h
  refine ⟨fun answer hanswer => ⟨⟨?_, ?_⟩, ?_, fun hnot => ?_⟩, fun hprompt => ⟨?_, ?_⟩⟩
  · rintro ⟨reply', rfl⟩
    obtain ⟨l, c, hjl, hserves, hnext, hsurvives⟩ :=
      Call.survives_of_found hempty hσ horigin hput hwaits hanswer
    exact ⟨l, c, reply', Nat.le_trans hbegun hjl, hserves.stored, hnext, hsurvives⟩
  · rintro ⟨l, c, reply', hl, hlput, hnext, hsurvives⟩
    obtain ⟨reply'', hfound⟩ :=
      Call.found_of_survives hempty hσ horigin halone hl hlput hnext hsurvives
    exact ⟨reply'', Option.some.inj (hanswer.symm.trans hfound)⟩
  · rintro reply' rfl
    obtain ⟨l, c, hjl, hserves, hnext, -⟩ :=
      Call.survives_of_found hempty hσ horigin hput hwaits hanswer
    obtain ⟨e, hc, hown, -⟩ := hnext.looks
    obtain ⟨e', hc', hon, hreply⟩ := hserves.handed
    rw [hc] at hc'
    cases hc'
    exact ⟨l, c, hjl, hserves, e, hc, hown, hon.2, hreply⟩
  · have hanswers := Call.answers_play hσ hanswer
    rw [horigin] at hanswers
    exact hanswers.resolve_left fun ⟨reply', hok⟩ => hnot reply' hok
  · exact Call.ended_of_late hempty hprompt hσ horigin
  · intro e answer hj htime hanswer
    exact Call.looks_again hempty hprompt hσ horigin hj htime hwaits hanswer

namespace Call

/-- A manager that keeps a key for a second. -/
def hasty : Manager := { table := 0, retention := 1000 }

/-- A request is sent, and a find waits for the reply.  The reply arrives when most of the time has
passed for which the key is kept, and the rest of it passes before the find looks again. -/
def overtaken : List (Move Call) :=
  [.start (.create { scope := 0, library := ⟨"", "", []⟩, run := "" } "v" "k"), .go 0 [], .go 0 [],
    .pass 600, .start (.find "k" 500), .go 1 [], .go 1 [], .go 1 [], .go 1 [], .go 1 [], .go 1 [],
    .pass 300, .start (.store "k" { id := "r" }), .go 2 [], .go 2 [], .go 2 [],
    .pass 100, .start (.store "other" { id := "o" }), .go 3 [], .go 3 [], .go 3 [],
    .pass 100, .go 1 [], .go 1 [], .go 1 [], .pass 1]

set_option maxRecDepth 100000 in
theorem history_overtaken :
    (Pool.play (script hasty) { tables := [{}] } overtaken).history =
      [⟨0, 0, ⟨hasty, "k", .create⟩, none⟩, ⟨1, 600, ⟨hasty, "k", .visit⟩, none⟩,
        ⟨1, 600, ⟨hasty, "k", .claim⟩, none⟩, ⟨2, 900, ⟨hasty, "k", .visit⟩, none⟩,
        ⟨2, 900, ⟨hasty, "k", .put { id := "r" }⟩, none⟩, ⟨3, 1000, ⟨hasty, "k", .visit⟩, none⟩,
        ⟨3, 1000, ⟨hasty, "other", .put { id := "o" }⟩, none⟩,
        ⟨1, 1100, ⟨hasty, "k", .claim⟩, none⟩, ⟨1, 1100, ⟨hasty, "k", .expire⟩, none⟩] := by
  cbv

set_option maxRecDepth 100000 in
theorem strand_overtaken :
    (Pool.play (script hasty) { tables := [{}] } overtaken).strands[1]? =
      some ⟨.find "k" 500, 1, 600, 1100, [], .done (.error (noReply "k" 500))⟩ := by
  cbv

set_option maxRecDepth 100000 in
theorem prompt_overtaken :
    Pool.promptDuring (script hasty) { session := { tables := [{}] } } overtaken = true := by
  cbv

end Call

/-- **A find can fail though its reply was stored in time.**  Nobody is late, nobody else is after
the reply, and the table is not cleared; but the store of another reply purges the table. -/
theorem waiting_find_overtaken :
    let p := Pool.play (Call.script Call.hasty) { tables := [{}] } Call.overtaken
    let h := p.history
    Pool.AlwaysPrompt (Call.script Call.hasty) { tables := [{}] } Call.overtaken ∧
      ∃ σ e, p.strands[1]? = some σ ∧ σ.origin = .find "k" 500 ∧
        WaitsAlone h 0 "k" 1 σ.begun ∧ Continues h 1 4 ∧
        h[4]? = some e ∧ e.deed = ⟨Call.hasty, "k", .put { id := "r" }⟩ ∧ σ.begun ≤ 4 ∧
        e.time < σ.since + 500 ∧
        σ.result? = some (.error (Call.noReply "k" 500)) ∧
        ¬ ∃ l c reply, σ.begun ≤ l ∧ DoneAt h 0 "k" l (.put reply) ∧ NextLook h 1 l c ∧
          SurvivesUntil h Call.hasty "k" l c := by
  intro p h
  have hh : h = _ := Call.history_overtaken
  have hput : h[4]? = some ⟨2, 900, ⟨Call.hasty, "k", .put { id := "r" }⟩, none⟩ := by
    rw [hh]
    rfl
  have hwaits : Continues h 1 4 := ⟨8, ⟨1, 1100, ⟨Call.hasty, "k", .expire⟩, none⟩, by decide, by
    rw [hh]
    rfl, rfl⟩
  have halone : WaitsAlone h 0 "k" 1 1 := by
    intro l e _ _ hl hown _
    have he := List.mem_of_getElem? hl
    rw [hh] at he
    simp only [List.mem_cons, List.not_mem_nil, or_false] at he
    rcases he with rfl | rfl | rfl | rfl | rfl | rfl | rfl | rfl | rfl
    all_goals first | exact absurd rfl hown | exact ⟨nofun, nofun⟩
  refine ⟨Call.prompt_overtaken, _, _, Call.strand_overtaken, rfl, halone, hwaits, hput, rfl,
    by decide, by decide, rfl, fun hsurvives => ?_⟩
  obtain ⟨hanswer, -⟩ := find_succeeds_iff_survives rfl Call.overtaken Call.strand_overtaken rfl
    halone (by decide) ⟨_, hput, ⟨rfl, rfl⟩, rfl⟩ hwaits
  obtain ⟨reply, hreply⟩ := (hanswer _ rfl).1.2 hsurvives
  cases hreply

end Scenario
