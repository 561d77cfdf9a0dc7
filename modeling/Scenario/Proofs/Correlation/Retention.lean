import Scenario.Proofs.Correlation.ExactlyOnce
import Scenario.Proofs.Correlation.Prompt

/-!
# How long a reply can be had

An entry is kept for a time, its window, that begins when the entry is made or when a wait for it
runs out.  Nothing looks at the clock when the window is over.  It is the purges that end it, and
each of them only when it comes by the key: a reply can lie under a key after its window, and a call
that does not purge can still have it.  A find does purge, and this settles the matter for it.

## What is here

* `PurgedBetween` — between two deeds there was a moment at which the key had no entry whose window
  was over.
* `Purges` — how far a find has come with its purge.  `Call.purges_play` shows that it describes
  every find of a run, so that each of its looks comes after such a moment.
* `Call.served_of_claim` is one half of the window: who looks within it is handed the reply.
  `Call.serves_of_late` is the other half: who starts to look after it gets something newer.
* `available_within_window` puts them together.
-/

set_option autoImplicit false

namespace Scenario

open Correlation

/-! ## A find purges first -/

/-- At some moment between deeds `b` and `c` there was no entry under the key whose time was over
at `t`. -/
def PurgedBetween (h : List Happening) (m : Manager) (k : String) (t b c : Nat) : Prop :=
  ∃ q, b ≤ q ∧ q ≤ c ∧ ∀ E, entryAt h m.table k q = some E → t - E.since < m.retention

section Purged

variable {h : List Happening} {m : Manager} {k : String} {t b c : Nat}

theorem PurgedBetween.mono {c' : Nat} (hp : PurgedBetween h m k t b c) (hc : c ≤ c') :
    PurgedBetween h m k t b c' := by
  obtain ⟨q, hbq, hqc, hq⟩ := hp
  exact ⟨q, hbq, Nat.le_trans hqc hc, hq⟩

theorem PurgedBetween.append (hp : PurgedBetween h m k t b c) (hc : c ≤ h.length)
    (h' : List Happening) : PurgedBetween (h ++ h') m k t b c := by
  obtain ⟨q, hbq, hqc, hq⟩ := hp
  refine ⟨q, hbq, hqc, fun E hE => hq E ?_⟩
  rwa [entryAt_append h' (Nat.le_trans hqc hc)] at hE

end Purged

/-- How far a find has come: it has not begun, or it purges and has not come by its key yet, or it
has done so before each of its looks for a reply. -/
inductive Purges {ι α : Type} (m : Manager) (k : String) (h : List Happening) (i : Nat)
    (σ : Strand ι α) : Prop where
  | starting (quiet : Quiet h i) (pending : σ.pending = [])
    (script : ∃ next, σ.script = .take (.purge m) next)
  | purging (quiet : Quiet h i)
    (pending : ⟨m, k, .visit⟩ ∈ σ.pending) (others : ∀ d ∈ σ.pending, d.act ≠ .claim)
  | purged (now : PurgedBetween h m k σ.since σ.begun h.length)
    (claims : ∀ (c : Nat) (e : Happening), h[c]? = some e → e.strand = i → e.deed.act = .claim →
      PurgedBetween h m k σ.since σ.begun c)

section Purges

variable {ι α : Type} {m : Manager} {k : String} {i : Nat} {σ : Strand ι α}

theorem Purges.append {h : List Happening} (r : Purges m k h i σ) {others : List Happening}
    (hothers : ∀ e ∈ others, e.strand ≠ i) : Purges m k (h ++ others) i σ := by
  cases r with
  | starting quiet pending script => exact .starting (quiet.append hothers) pending script
  | purging quiet pending left => exact .purging (quiet.append hothers) pending left
  | purged now claims =>
    refine .purged ?_ fun j e hj hown hclaim => ?_
    · refine (now.append (Nat.le_refl _) others).mono ?_
      rw [List.length_append]
      exact Nat.le_add_right _ _
    · have hj' := getElem?_of_append_others hothers hj hown
      exact (claims j e hj' hown hclaim).append
        (Nat.le_of_lt (List.getElem?_eq_some_iff.1 hj').1) _

/-- A find that comes by its key drops the entry there if its time is over. -/
theorem Purges.advance {p : Pool ι α} (c : p.Coherent m.table) (b : σ.Begun p.history i)
    (hdue : σ.due ≤ p.session.clock) (r : Purges m k p.history i σ) (order : List String) :
    Purges m k (p.advance i σ order).history i (σ.go p.session order).2.1 := by
  obtain ⟨-, hbegun, hsince⟩ := σ.frame_go p.session order
  have hlength := (Pool.history_prefix_advance (p := p) i σ order).length_le
  cases r with
  | starting quiet pending hscript =>
    obtain ⟨next, hs⟩ := hscript
    have hgo : σ.go p.session order = _ := Strand.go_sweep pending hs rfl
    rw [Pool.history_advance_none (congrArg Prod.fst hgo)]
    by_cases hk : k ∈ (p.session.table m.table).entries.names
    · rw [hgo]
      refine .purging quiet (List.mem_map_of_mem (p.session.mem_sweep m order hk)) fun d hd => ?_
      obtain ⟨_, -, rfl⟩ := List.mem_map.1 hd
      nofun
    · refine .purged ?_ fun j e hj hown hclaim =>
        absurd hclaim (quiet e (List.mem_of_getElem? hj) hown)
      rw [hbegun, hsince]
      refine ⟨p.history.length, b.length, Nat.le_refl _, fun E hE => ?_⟩
      rw [← c.get] at hE
      exact absurd ((Fields.mem_names_iff _ k).2 (Option.isSome_of_eq_some hE)) hk
  | purging quiet pending others =>
    cases hp : σ.pending with
    | nil =>
      rw [hp] at pending
      cases pending
    | cons d rest =>
      rw [hp] at pending others
      have hgo : σ.go p.session order = _ := Strand.go_pending hp
      have hquiet : Quiet (p.advance i σ order).history i := by
        refine quiet.advance fun d' hd' => ?_
        rw [hgo] at hd'
        cases hd'
        exact others d List.mem_cons_self
      rcases List.mem_cons.1 pending with rfl | hrest
      · refine .purged ?_ fun j e hj hown hclaim =>
          absurd hclaim (hquiet e (List.mem_of_getElem? hj) hown)
        rw [hbegun, hsince]
        refine ⟨_, Nat.le_trans b.length hlength, Nat.le_refl _, fun E hE => ?_⟩
        rw [Pool.history_advance_some (congrArg Prod.fst hgo), entryAt_append_singleton,
          if_pos ⟨rfl, rfl⟩] at hE
        have hkept := Act.keeps_visit.2 (Option.filter_eq_some_iff.1 hE).2
        rw [Act.Keeps] at hkept
        exact Nat.lt_of_le_of_lt (Nat.sub_le_sub_right (Nat.le_trans b.due hdue) _) hkept
      · rw [hgo]
        exact .purging hquiet hrest fun d' hd' => others d' (List.mem_cons_of_mem d hd')
  | purged now claims =>
    refine .purged ?_ fun j e hj hown hclaim => ?_
    · rw [hbegun, hsince]
      exact (now.append (Nat.le_refl _) _).mono hlength
    · rw [hbegun, hsince]
      rcases Pool.getElem?_history_advance hj with hj | ⟨rfl, -⟩
      · exact (claims j e hj hown hclaim).append
          (Nat.le_of_lt (List.getElem?_eq_some_iff.1 hj).1) _
      · exact now.append (Nat.le_refl _) _

end Purges

/-- **Before a find looks for a reply it has come by the key, or found no entry there.** -/
theorem Call.purges_play {m : Manager} {s : Session} (hempty : s.tables[m.table]? = some {})
    {moves : List (Move Call)} {i : Nat} {σ : Strand Call Call.Answer}
    (hσ : (Pool.play (script m) s moves).strands[i]? = some σ) {k : String} {timeout : Nat}
    (horigin : σ.origin = .find k timeout) :
    Purges m k (Pool.play (script m) s moves).history i σ := by
  refine Pool.play_strands_of
    (R := fun p => p.Coherent m.table ∧
      ∀ (i : Nat) σ, p.strands[i]? = some σ → σ.Begun p.history i)
    (I := Purges m k) (fun l _ => ⟨coherent_play hempty _, fun i σ => Pool.begun_play hempty⟩)
    ?_ ?_ ?_ hσ horigin
  · rintro p ⟨c, -⟩
    exact .starting c.quiet rfl ⟨_, script_find m k timeout⟩
  · rintro p i σ order ⟨c, hbegun⟩ hi hdue r
    exact r.advance c (hbegun i σ hi) hdue order
  · intro h others i σ r hothers
    exact r.append hothers

/-! ## The window -/

/-- Between deeds `j` and `c` nobody but strand number `i` stores a reply under the key, claims one,
or clears the key. -/
def LeftTo (h : List Happening) (n : Nat) (k : String) (i j c : Nat) : Prop :=
  ∀ l e, j < l → l < c → h[l]? = some e → e.strand ≠ i → e.On n k →
    (∀ reply, e.deed.act ≠ .put reply) ∧ e.deed.act ≠ .claim ∧ e.deed.act ≠ .drop

section Window

variable {m : Manager} {s : Session} {moves : List (Move Call)} {k : String} {reply : Message}
  {w j : Nat}

/-- In a run everything between two deeds happens before the second one. -/
theorem Call.kept_of_untouched (hempty : s.tables[m.table]? = some {}) {c : Nat} {e : Happening}
    (hc : (Pool.play (script m) s moves).history[c]? = some e) (htime : e.time - w < m.retention)
    (huntouched : UntouchedBetween (Pool.play (script m) s moves).history m.table k j c) :
    KeptBetween (Pool.play (script m) s moves).history m.table k w j c := by
  refine huntouched.kept fun l e' _ hlc hl _ => ?_
  have hle : e'.time ≤ e.time := (coherent_play hempty moves).time_le hlc hl hc
  rw [(Call.does_play hempty (List.mem_of_getElem? hl)).1]
  exact Nat.lt_of_le_of_lt (Nat.sub_le_sub_right hle w) htime

/-- A claim within the window is handed the reply, and the call that claims returns it. -/
theorem Call.served_of_claim (hempty : s.tables[m.table]? = some {})
    (hput : DoneAt (Pool.play (script m) s moves).history m.table k j (.put reply))
    (hw : WindowAt (Pool.play (script m) s moves).history m.table k (j + 1) w) {c : Nat}
    {e : Happening} (hjc : j < c) (hc : (Pool.play (script m) s moves).history[c]? = some e)
    (hon : e.On m.table k) (hclaim : e.deed.act = .claim)
    (huntouched : UntouchedBetween (Pool.play (script m) s moves).history m.table k j c)
    (htime : e.time - w < m.retention) :
    HandedTo (Pool.play (script m) s moves).history e.strand c k reply ∧
      ∃ σ, (Pool.play (script m) s moves).strands[e.strand]? = some σ ∧
        σ.result? = some (.ok (some reply)) := by
  have hcoherent := coherent_play hempty moves
  obtain ⟨E, hE, -⟩ := entryAt_of_put hput
  obtain rfl : w = E.since := hw.unique (windowAt_of_entryAt hE)
  obtain ⟨hEc, hreply⟩ := entryAt_eq_of_keptBetween hput hE hjc
    (kept_of_untouched hempty hc htime huntouched) huntouched.1
  have hhanded : e.handed = some reply := by
    rw [hcoherent.handed c e hc hon.1, hclaim, hon.2, hEc]
    exact hreply
  obtain ⟨-, σ, hσ, -⟩ := Call.does_play hempty (List.mem_of_getElem? hc)
  exact ⟨⟨e, hc, rfl, hon.2, hhanded⟩, σ, hσ,
    ((Pool.answered_play (honest_script m) hempty hσ).result_of_handed hc rfl hhanded).1⟩

/-- What a find is handed that starts after the window was stored after it started, or at least
after the reply. -/
theorem Call.serves_of_late (hempty : s.tables[m.table]? = some {})
    (hput : DoneAt (Pool.play (script m) s moves).history m.table k j (.put reply))
    (hw : WindowAt (Pool.play (script m) s moves).history m.table k (j + 1) w) {i : Nat}
    {σ : Strand Call Call.Answer}
    (hσ : (Pool.play (script m) s moves).strands[i]? = some σ) {timeout : Nat}
    (horigin : σ.origin = .find k timeout) (hbegun : j < σ.begun)
    (hlate : m.retention ≤ σ.since - w) {c : Nat} {reply' : Message}
    (hhanded : HandedTo (Pool.play (script m) s moves).history i c k reply') :
    ∃ l, j < l ∧ Serves (Pool.play (script m) s moves).history m.table k l c reply' := by
  have hcoherent := coherent_play hempty moves
  obtain ⟨e, hc, hown, hkey, hreply⟩ := hhanded
  have hon : e.On m.table k :=
    ⟨congrArg Manager.table (Call.does_play hempty (List.mem_of_getElem? hc)).1, hkey⟩
  have hat : HandedAt (Pool.play (script m) s moves).history m.table k c reply' :=
    ⟨e, hc, hon, hreply⟩
  obtain ⟨⟨e', hc', -, hclaim⟩, E, hE, hEreply⟩ := hcoherent.claim_of_handed hat
  rw [hc] at hc'
  cases hc'
  obtain ⟨l, hlc, hlput, hEl, hkept, hnone⟩ := exists_put_of_entryAt hE hEreply
  refine ⟨l, ?_, hlc, hlput, hat, hkept.untouched hnone⟩
  have hstart := ((Pool.begun_play hempty hσ).own c e hc hown).1
  rcases Nat.lt_trichotomy l j with hlj | rfl | hjl
  · exact absurd hput (hnone j reply hlj (by omega))
  · -- the reply would have been there still when the find had purged
    exfalso
    obtain rfl : w = E.since := hw.unique (windowAt_of_entryAt hEl)
    have hpurged : PurgedBetween (Pool.play (script m) s moves).history m k σ.since σ.begun c := by
      cases Call.purges_play hempty hσ horigin with
      | purged now claims => exact claims c e hc hown hclaim
      | starting quiet | purging quiet =>
        exact absurd hclaim (quiet e (List.mem_of_getElem? hc) hown)
    obtain ⟨q, hbq, hqc, hfresh⟩ := hpurged
    obtain ⟨hEq, -⟩ := entryAt_eq_of_keptBetween hlput hEl (Nat.lt_of_lt_of_le hbegun hbq)
      (fun l' e' hll' hl'q => hkept l' e' hll' (Nat.lt_of_lt_of_le hl'q hqc))
      (fun l' r hll' hl'q => hnone l' r hll' (Nat.lt_of_lt_of_le hl'q hqc))
    exact absurd (hfresh E hEq) (Nat.not_lt.2 hlate)
  · exact hjl

/-- Where nobody else touches a reply it stays untouched until the call itself looks for it. -/
theorem Call.untouched_of_leftTo (hempty : s.tables[m.table]? = some {}) {i c : Nat}
    {σ : Strand Call Call.Answer}
    (hσ : (Pool.play (script m) s moves).strands[i]? = some σ)
    (hafter : (∃ timeout, σ.origin = .find k timeout) ∨ σ.origin = .tryFind k)
    (hleft : LeftTo (Pool.play (script m) s moves).history m.table k i j c)
    (hquiet : ∀ (l : Nat) (e : Happening), l < c →
      (Pool.play (script m) s moves).history[l]? = some e → e.strand = i → e.deed.act ≠ .claim) :
    UntouchedBetween (Pool.play (script m) s moves).history m.table k j c := by
  constructor
  · rintro l reply hjl hlc ⟨e, hl, hon, hact⟩
    by_cases hi : e.strand = i
    · exact (harmless_of_after hempty hσ hafter hl hi).1 reply hact
    · exact (hleft l e hjl hlc hl hi hon).1 reply hact
  · intro l hjl hlc
    constructor
    · rintro ⟨e, hl, hon, hact⟩
      by_cases hi : e.strand = i
      · exact hquiet l e hlc hl hi hact
      · exact (hleft l e hjl hlc hl hi hon).2.1 hact
    · rintro ⟨e, hl, hon, hact⟩
      by_cases hi : e.strand = i
      · exact (harmless_of_after hempty hσ hafter hl hi).2 hact
      · exact (hleft l e hjl hlc hl hi hon).2.2 hact

theorem Call.first_look (hempty : s.tables[m.table]? = some {})
    (hprompt : Pool.AlwaysPrompt (script m) s moves) {i : Nat}
    {σ : Strand Call Call.Answer}
    (hσ : (Pool.play (script m) s moves).strands[i]? = some σ)
    (hafter : (∃ timeout, σ.origin = .find k timeout) ∨ σ.origin = .tryFind k)
    (hpassed : σ.since < (Pool.play (script m) s moves).session.clock) :
    FirstLook (Pool.play (script m) s moves).history i σ.since := by
  rcases hafter with ⟨timeout, horigin⟩ | horigin
  · exact first_look_find hempty hprompt hσ horigin hpassed
  · exact first_look_tryFind hempty hprompt hσ horigin hpassed

end Window

/-- **A reply can be had exactly within its window.**  Let deed number `j` of a run put a reply
under a key, into an entry whose time began at `w`: when it was made, or when the last wait for it
ran out.

* Whoever looks under the key at a time `t` with `t - w < retention` is handed the reply and
  returns it, if until then no other reply was stored there, none was claimed and the key was not
  cleared.
* A find that starts at a time `t` with `retention ≤ t - w` does not return the reply: if it
  returns any, then one that was stored later.
* If nobody is late, a call that starts within the window looks at the moment it starts, and
  returns the reply, if until then nobody else has stored one, claimed one or cleared the key. -/
theorem available_within_window {m : Manager} {s : Session}
    (hempty : s.tables[m.table]? = some {}) (moves : List (Move Call)) {k : String}
    {reply : Message} {w j : Nat}
    (hput : DoneAt (Pool.play (Call.script m) s moves).history m.table k j (.put reply))
    (hw : WindowAt (Pool.play (Call.script m) s moves).history m.table k (j + 1) w) :
    let p := Pool.play (Call.script m) s moves
    let h := p.history
    (∀ c e, j < c → h[c]? = some e → e.On m.table k → e.deed.act = .claim →
      UntouchedBetween h m.table k j c → e.time - w < m.retention →
      HandedTo h e.strand c k reply ∧
        ∃ σ, p.strands[e.strand]? = some σ ∧ σ.result? = some (.ok (some reply))) ∧
    (∀ (i : Nat) (σ : Strand Call Call.Answer) (timeout : Nat), p.strands[i]? = some σ →
      σ.origin = .find k timeout → j < σ.begun → m.retention ≤ σ.since - w →
      ∀ reply', σ.result? = some (.ok (some reply')) →
        ∃ l c, j < l ∧ Serves h m.table k l c reply') ∧
    (Pool.AlwaysPrompt (Call.script m) s moves →
      ∀ (i : Nat) (σ : Strand Call Call.Answer), p.strands[i]? = some σ →
        ((∃ timeout, σ.origin = .find k timeout) ∨ σ.origin = .tryFind k) → j < σ.begun →
        σ.since - w < m.retention → σ.since < p.session.clock →
        ∃ c e, j < c ∧ h[c]? = some e ∧ e.strand = i ∧ e.deed = ⟨m, k, .claim⟩ ∧
          e.time = σ.since ∧ (LeftTo h m.table k i j c →
            HandedTo h i c k reply ∧ σ.result? = some (.ok (some reply)))) := by
  intro p h
  refine ⟨fun c e hjc hc hon hclaim huntouched htime =>
    Call.served_of_claim hempty hput hw hjc hc hon hclaim huntouched htime, ?_, ?_⟩
  · intro i σ timeout hσ horigin hbegun hlate reply' hresult
    obtain ⟨c, e, hc, hown, hclaim, hreply, -⟩ :=
      (Pool.answered_play (Call.honest_script m) hempty hσ).handed_of_result hresult
    have hon := Call.on_of_claim hempty hσ (.inl ⟨timeout, horigin⟩) hc hown hclaim
    obtain ⟨l, hjl, hserves⟩ := Call.serves_of_late hempty hput hw hσ horigin hbegun hlate
      ⟨e, hc, hown, hon.2, hreply⟩
    exact ⟨l, c, hjl, hserves⟩
  · intro hprompt i σ hσ hafter hbegun htime hpassed
    obtain ⟨c, e, hc, hown, hclaim, hstart, hfirst⟩ :=
      Call.first_look hempty hprompt hσ hafter hpassed
    have hjc : j < c := Nat.lt_of_lt_of_le hbegun ((Pool.begun_play hempty hσ).own c e hc hown).1
    have hon := Call.on_of_claim hempty hσ hafter hc hown hclaim
    have hdeed : e.deed = ⟨m, k, .claim⟩ := by
      rw [← (Call.does_play hempty (List.mem_of_getElem? hc)).1, ← hon.2, ← hclaim]
    refine ⟨c, e, hjc, hc, hown, hdeed, hstart, fun hleft => ?_⟩
    have huntouched := Call.untouched_of_leftTo hempty hσ hafter hleft hfirst
    rw [← hstart] at htime
    obtain ⟨hhanded, σ', hσ', hresult⟩ :=
      Call.served_of_claim hempty hput hw hjc hc hon hclaim huntouched htime
    rw [hown] at hhanded hσ'
    obtain rfl : σ = σ' := Option.some.inj (hσ.symm.trans hσ')
    exact ⟨hhanded, hresult⟩

/-- A reply is stored, and a call looks for it at the last moment of its window. -/
def Call.lastMoment : List (Move Call) :=
  [.start (.store "k" { id := "r" }), .go 0 [], .go 0 [], .pass 999, .start (.tryFind "k"),
    .go 1 []]

theorem Call.history_lastMoment :
    (Pool.play (script { table := 0, retention := 1000 }) { tables := [{}] } lastMoment).history =
      [⟨0, 0, ⟨{ table := 0, retention := 1000 }, "k", .put { id := "r" }⟩, none⟩,
        ⟨1, 999, ⟨{ table := 0, retention := 1000 }, "k", .claim⟩, some { id := "r" }⟩] := by
  cbv

theorem available_within_window_last_moment :
    let p := Pool.play (Call.script { table := 0, retention := 1000 }) { tables := [{}] }
      Call.lastMoment
    ∃ σ, p.strands[1]? = some σ ∧ σ.result? = some (.ok (some { id := "r" })) := by
  intro p
  have hput : DoneAt p.history 0 "k" 0 (.put { id := "r" }) := by
    rw [show p.history = _ from Call.history_lastMoment]
    exact ⟨_, rfl, ⟨rfl, rfl⟩, rfl⟩
  have hclaim : p.history[1]? = some
      ⟨1, 999, ⟨{ table := 0, retention := 1000 }, "k", .claim⟩, some { id := "r" }⟩ := by
    rw [show p.history = _ from Call.history_lastMoment]
    rfl
  obtain ⟨E, hE, hsince⟩ : ∃ E, entryAt p.history 0 "k" 1 = some E ∧ E.since = 0 := by
    rw [show p.history = _ from Call.history_lastMoment]
    exact ⟨_, rfl, rfl⟩
  have hw := windowAt_of_entryAt hE
  rw [hsince] at hw
  have huntouched : UntouchedBetween p.history 0 "k" 0 1 :=
    ⟨fun l _ _ _ => by omega, fun l _ _ => by omega⟩
  exact ((available_within_window rfl Call.lastMoment hput hw).1 1 _ (by decide) hclaim
    ⟨rfl, rfl⟩ rfl huntouched (by decide)).2

end Scenario
