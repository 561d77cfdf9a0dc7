import Scenario.Proofs.Correlation.Call

/-!
# When a find gives up

Nothing makes the strands of a pool go on when they are due: between two of its looks for a reply a
find may lie idle for any time.  Even so it does not give up too early.  It fixes its deadline with
its first look, and it gives up only with a look that comes at the deadline or later, since a look
says at once what time it is.

In a run in which no strand is ever late (`Pool.AlwaysPrompt`), time passes for a find only while it
sleeps.  Then it looks for the first time at the moment it starts, and for the last time when its
time has run out.

## What is here

* `FirstLook` and `LookedSince` — when a strand has looked for a reply.
* `Timed` — where a find is in its script, what its next moment has to do with its deadline, and
  what more can be said of that if nobody is ever late.  `Timed.advance` is the step, and
  `Call.timed_play` shows that it describes every find of a run.
* `Timed.looked_of_failed` — a find that has failed has looked at its deadline or later.
* `Timed.looksWithin` and `Pool.looks_of_turns` — a find that has looked and goes on twice looks
  again, if it does not end.
* `Call.first_look_find`, `Call.ended_of_late` and `Call.looked_of_failed` are what follows for a
  run in which nobody is late: the first look is at the start, a find has ended when its time is
  over, and one that fails has looked as late as that.
-/

set_option autoImplicit false

namespace Scenario

open Correlation

/-- The first time that a strand looked for a reply was at `t`. -/
def FirstLook (h : List Happening) (i t : Nat) : Prop :=
  ∃ c e, h[c]? = some e ∧ e.strand = i ∧ e.deed.act = .claim ∧ e.time = t ∧
    ∀ (c' : Nat) (e' : Happening), c' < c → h[c']? = some e' → e'.strand = i →
      e'.deed.act ≠ .claim

/-- A strand has looked for a reply at `t` or later. -/
def LookedSince (h : List Happening) (i t : Nat) : Prop :=
  ∃ e ∈ h, e.strand = i ∧ e.deed.act = .claim ∧ t ≤ e.time

section Looks

variable {h h' : List Happening} {i t : Nat}

theorem FirstLook.mono (hl : FirstLook h i t) (hh : h <+: h') : FirstLook h' i t := by
  obtain ⟨c, e, hc, hown, hact, htime, hfirst⟩ := hl
  have hlt := (List.getElem?_eq_some_iff.1 hc).1
  obtain ⟨rest, rfl⟩ := hh
  refine ⟨c, e, by rwa [List.getElem?_append_left hlt], hown, hact, htime, fun c' e' hc' he' => ?_⟩
  rw [List.getElem?_append_left (Nat.lt_trans hc' hlt)] at he'
  exact hfirst c' e' hc' he'

theorem LookedSince.mono (hl : LookedSince h i t) (hh : h <+: h') : LookedSince h' i t := by
  obtain ⟨e, he, hlook⟩ := hl
  exact ⟨e, List.IsPrefix.mem he hh, hlook⟩

theorem FirstLook.unique {t' : Nat} (hl : FirstLook h i t) (hl' : FirstLook h i t') : t = t' := by
  obtain ⟨c, e, hc, hown, hact, htime, hfirst⟩ := hl
  obtain ⟨c', e', hc', hown', hact', htime', hfirst'⟩ := hl'
  rcases Nat.lt_trichotomy c c' with hlt | rfl | hlt
  · exact absurd hact (hfirst' c e hlt hc hown)
  · rw [hc] at hc'
    cases hc'
    exact htime.symm.trans htime'
  · exact absurd hact' (hfirst c' e' hlt hc' hown')

theorem Quiet.not_firstLook (hq : Quiet h i) : ¬ FirstLook h i t := by
  rintro ⟨_, e, hc, hown, hact, -⟩
  exact hq e (List.mem_of_getElem? hc) hown hact

/-- A strand that has not looked before looks for the first time. -/
theorem Quiet.firstLook (hq : Quiet h i) {e : Happening} (hown : e.strand = i)
    (hact : e.deed.act = .claim) : FirstLook (h ++ [e]) i e.time := by
  refine ⟨h.length, e, List.getElem?_concat_length, hown, hact, rfl, fun c' e' hc' he' => ?_⟩
  rw [List.getElem?_append_left hc'] at he'
  exact hq e' (List.mem_of_getElem? he')

end Looks

/-! ## Where a find is in its script -/

/-- Where a find is in its script.  From its first look on it has a deadline, and the time that it
counts as left is not less than there is until then.  If it is never late (`prompt`) the first look
is at its start, and the time that it counts as left is just what there is. -/
inductive Timed {ι : Type} (m : Manager) (k : String) (timeout : Nat) (prompt : Prop)
    (h : List Happening) (i : Nat) (σ : Strand ι Call.Answer) : Prop where
  | starting (quiet : Quiet h i) (due : σ.due = σ.since) (pending : σ.pending = [])
    (script : σ.script = Call.script m (.find k timeout))
  | purging (quiet : Quiet h i) (due : σ.due = σ.since) (pending : ∀ d ∈ σ.pending, d.act ≠ .claim)
    (script : σ.script = Call.enter m k timeout)
  | napping (start seen remaining : Nat) (looked : FirstLook h i start)
    (last : LookedSince h i seen) (rest : start + timeout ≤ seen + remaining)
    (onTime : prompt → start = σ.since ∧ σ.due + remaining = start + timeout)
    (pending : σ.pending = [])
    (script : σ.script = Call.nap m k timeout (start + timeout) remaining)
  | waiting (start remaining : Nat) (looked : FirstLook h i start)
    (rest : start + timeout ≤ σ.due + remaining)
    (onTime : prompt → start = σ.since ∧ σ.due + remaining = start + timeout)
    (pending : σ.pending = [])
    (script : σ.script = Call.wait m k timeout (start + timeout) remaining)
  | expiring (start : Nat) (looked : FirstLook h i start) (last : LookedSince h i (start + timeout))
    (onTime : prompt → start = σ.since ∧ σ.due = start + timeout) (pending : σ.pending = [])
    (script : σ.script = Call.conclude m k timeout none)
  | found (start : Nat) (reply : Message) (looked : FirstLook h i start)
    (onTime : prompt → start = σ.since) (pending : σ.pending = [])
    (script : σ.script = .done (.ok (some reply)))
  | failed (start : Nat) (looked : FirstLook h i start) (last : LookedSince h i (start + timeout))
    (onTime : prompt → start = σ.since) (pending : σ.pending = [])
    (script : σ.script = .done (.error (Call.noReply k timeout)))

namespace Timed

variable {m : Manager} {k : String} {timeout : Nat} {prompt : Prop}

theorem append {ι : Type} {h : List Happening} {i : Nat} {σ : Strand ι Call.Answer}
    (o : Timed m k timeout prompt h i σ) {others : List Happening}
    (hothers : ∀ e ∈ others, e.strand ≠ i) : Timed m k timeout prompt (h ++ others) i σ := by
  have hh : h <+: h ++ others := List.prefix_append h others
  cases o with
  | starting quiet due pending script =>
    exact .starting (quiet.append hothers) due pending script
  | purging quiet due pending script =>
    exact .purging (quiet.append hothers) due pending script
  | napping start seen r looked last rest onTime pending script =>
    exact .napping start seen r (looked.mono hh) (last.mono hh) rest onTime pending script
  | waiting start r looked rest onTime pending script =>
    exact .waiting start r (looked.mono hh) rest onTime pending script
  | expiring start looked last onTime pending script =>
    exact .expiring start (looked.mono hh) (last.mono hh) onTime pending script
  | found start reply looked onTime pending script =>
    exact .found start reply (looked.mono hh) onTime pending script
  | failed start looked last onTime pending script =>
    exact .failed start (looked.mono hh) (last.mono hh) onTime pending script

/-- What comes of a look at `now`: it finds a reply, or it is the last one because it comes at the
deadline or later, or the find sleeps. -/
theorem of_look {ι : Type} {h : List Happening} {i start remaining now : Nat}
    {found : Option Message} {σ : Strand ι Call.Answer} (looked : FirstLook h i start)
    (last : LookedSince h i now) (rest : start + timeout ≤ now + remaining)
    (onTime : prompt → start = σ.since ∧ σ.due + remaining = start + timeout ∧ now = σ.due)
    (pending : σ.pending = [])
    (script : σ.script = Call.check m k timeout (start + timeout) remaining (found, now)) :
    Timed m k timeout prompt h i σ := by
  cases found with
  | some reply =>
    rw [Call.check_some] at script
    exact .found start reply looked (fun hp => (onTime hp).1) pending script
  | none =>
    have hleft : Manager.left (start + timeout) remaining now = start + timeout - now :=
      Nat.min_eq_right (by omega)
    rw [Call.check_none, hleft] at script
    by_cases hover : start + timeout - now = 0
    · rw [if_pos hover] at script
      obtain ⟨e, he, hown, hact, htime⟩ := last
      refine .expiring start looked ⟨e, he, hown, hact, by omega⟩ (fun hp => ?_) pending script
      obtain ⟨hstart, hdue, hnow⟩ := onTime hp
      exact ⟨hstart, by omega⟩
    · rw [if_neg hover] at script
      refine .napping start now _ looked last (by omega) (fun hp => ?_) pending script
      obtain ⟨hstart, hdue, hnow⟩ := onTime hp
      exact ⟨hstart, by omega⟩

/-- **What a find does next takes it on in its script, however late it is.** -/
theorem advance {ι : Type} {p : Pool ι Call.Answer} {i : Nat} {σ : Strand ι Call.Answer}
    (o : Timed m k timeout prompt p.history i σ) (order : List String)
    (hpast : ∀ e ∈ p.history, e.time ≤ p.session.clock) (hdue : σ.due ≤ p.session.clock)
    (hprompt : prompt → σ.result? = none → p.session.clock ≤ σ.due) :
    Timed m k timeout prompt (p.advance i σ order).history i (σ.go p.session order).2.1 := by
  have hh : p.history <+: (p.advance i σ order).history := Pool.history_prefix_advance i σ order
  have hnow : prompt → σ.result? = none → p.session.clock = σ.due := fun hp hrunning =>
    Nat.le_antisymm (hprompt hp hrunning) hdue
  cases o with
  | starting quiet due pending script =>
    rw [Call.script_find] at script
    have hgo : σ.go p.session order = _ := Strand.go_sweep pending script rfl
    have hquiet : Quiet (p.advance i σ order).history i := quiet.advance (by rw [hgo]; nofun)
    rw [hgo]
    refine .purging hquiet due (fun d hd => ?_) rfl
    obtain ⟨_, -, rfl⟩ := List.mem_map.1 hd
    nofun
  | purging quiet due pending script =>
    cases hp : σ.pending with
    | cons d rest =>
      rw [hp] at pending
      have hgo : σ.go p.session order = _ := Strand.go_pending hp
      have hquiet : Quiet (p.advance i σ order).history i := by
        refine quiet.advance fun d' hd' => ?_
        rw [hgo] at hd'
        cases hd'
        exact pending d List.mem_cons_self
      rw [hgo]
      exact .purging hquiet due (fun d' hd' => pending d' (List.mem_cons_of_mem d hd')) script
    | nil =>
      have hgo : σ.go p.session order = _ := Strand.go_step hp script rfl
      have hhistory := Pool.history_advance_some (i := i) (congrArg Prod.fst hgo)
      have hfirst : FirstLook (p.advance i σ order).history i p.session.clock := by
        rw [hhistory]
        exact quiet.firstLook rfl rfl
      have hlast : LookedSince (p.advance i σ order).history i p.session.clock := by
        rw [hhistory]
        exact ⟨_, List.mem_append_right _ (List.mem_singleton.2 rfl), rfl, rfl, Nat.le_refl _⟩
      rw [hgo]
      refine of_look hfirst hlast (Nat.le_refl _) (fun hprompt => ?_) hp rfl
      have hclock := hnow hprompt (Strand.result?_of_take script)
      refine ⟨hclock.trans due, ?_, hclock⟩
      show σ.due + timeout = p.session.clock + timeout
      rw [hclock]
  | napping start seen r looked last rest onTime pending script =>
    have hgo : σ.go p.session order = _ := Strand.go_pause pending script
    have hseen : seen ≤ p.session.clock := by
      obtain ⟨e, he, -, -, htime⟩ := last
      exact Nat.le_trans htime (hpast e he)
    have hnap : m.nap r ≤ r := by
      rw [Manager.nap]
      omega
    have hshort : m.nap r ≤ Session.longestPause := Nat.min_le_right ..
    have hdue' : (σ.go p.session order).2.1.due = p.session.clock + m.nap r := by
      rw [hgo]
      show p.session.clock + min (m.nap r) Session.longestPause = _
      rw [Nat.min_eq_left hshort]
    rw [hgo] at hdue' ⊢
    refine .waiting start (r - m.nap r) (looked.mono hh) ?_ (fun hp => ?_) pending rfl
    · rw [hdue']
      omega
    · have hclock := hnow hp (Strand.result?_of_pause script)
      obtain ⟨hstart, htime⟩ := onTime hp
      refine ⟨hstart, ?_⟩
      rw [hdue']
      omega
  | waiting start r looked rest onTime pending script =>
    have hgo : σ.go p.session order = _ := Strand.go_step pending script rfl
    have hhistory := Pool.history_advance_some (i := i) (congrArg Prod.fst hgo)
    have hlast : LookedSince (p.advance i σ order).history i p.session.clock := by
      rw [hhistory]
      exact ⟨_, List.mem_append_right _ (List.mem_singleton.2 rfl), rfl, rfl, Nat.le_refl _⟩
    rw [hgo]
    refine of_look (looked.mono hh) hlast (by omega) (fun hprompt => ?_) pending rfl
    obtain ⟨hstart, htime⟩ := onTime hprompt
    exact ⟨hstart, htime, hnow hprompt (Strand.result?_of_take script)⟩
  | expiring start looked last onTime pending script =>
    have hgo : σ.go p.session order = _ := Strand.go_step pending script rfl
    rw [hgo]
    exact .failed start (looked.mono hh) (last.mono hh) (fun hp => (onTime hp).1) pending rfl
  | found start reply looked onTime pending script =>
    have hgo : σ.go p.session order = _ := Strand.go_done pending script
    rw [hgo]
    exact .found start reply (looked.mono hh) onTime pending script
  | failed start looked last onTime pending script =>
    have hgo : σ.go p.session order = _ := Strand.go_done pending script
    rw [hgo]
    exact .failed start (looked.mono hh) (last.mono hh) onTime pending script

section

variable {ι : Type} {h : List Happening} {i : Nat} {σ : Strand ι Call.Answer}

/-- A find that is never late looks for the first time at its start. -/
theorem looked (o : Timed m k timeout prompt h i σ) (hprompt : prompt) :
    Quiet h i ∧ σ.result? = none ∧ σ.due = σ.since ∨ FirstLook h i σ.since := by
  cases o with
  | starting quiet due pending script =>
    rw [Call.script_find] at script
    exact .inl ⟨quiet, Strand.result?_of_take script, due⟩
  | purging quiet due pending script =>
    exact .inl ⟨quiet, Strand.result?_of_take script, due⟩
  | napping start _ _ looked _ _ onTime | waiting start _ looked _ onTime
  | expiring start looked _ onTime =>
    exact .inr ((onTime hprompt).1 ▸ looked)
  | found start _ looked onTime | failed start looked _ onTime =>
    exact .inr (onTime hprompt ▸ looked)

/-- A find that is never late has ended when its time is over. -/
theorem ended_of_late (o : Timed m k timeout prompt h i σ) (hprompt : prompt) {clock : Nat}
    (hclock : σ.result? = none → clock ≤ σ.due) (hpassed : σ.since + timeout < clock) :
    ∃ answer, σ.result? = some answer := by
  have hdue : σ.result? = none → σ.since + timeout < σ.due := fun hr =>
    Nat.lt_of_lt_of_le hpassed (hclock hr)
  cases o with
  | starting quiet due pending script =>
    rw [Call.script_find] at script
    have := hdue (Strand.result?_of_take script)
    omega
  | purging quiet due pending script =>
    have := hdue (Strand.result?_of_take script)
    omega
  | napping start seen r looked last rest onTime pending script =>
    have := hdue (Strand.result?_of_pause script)
    have := onTime hprompt
    omega
  | waiting start r looked rest onTime pending script =>
    have := hdue (Strand.result?_of_take script)
    have := onTime hprompt
    omega
  | expiring start looked last onTime pending script =>
    have := hdue (Strand.result?_of_take script)
    have := onTime hprompt
    omega
  | found start reply looked onTime pending script =>
    exact ⟨_, Strand.result?_eq_some.2 ⟨pending, script⟩⟩
  | failed start looked last onTime pending script =>
    exact ⟨_, Strand.result?_eq_some.2 ⟨pending, script⟩⟩

/-- **A find that has failed has looked at its deadline or later**, however late it was. -/
theorem looked_of_failed (o : Timed m k timeout prompt h i σ) {f : Failure}
    (hfailed : σ.result? = some (.error f)) :
    ∃ start, FirstLook h i start ∧ LookedSince h i (start + timeout) ∧
      (prompt → start = σ.since) := by
  obtain ⟨-, hdone⟩ := Strand.result?_eq_some.1 hfailed
  cases o with
  | failed start looked last onTime => exact ⟨start, looked, last, onTime⟩
  | starting quiet due pending script =>
    rw [Call.script_find, hdone] at script
    cases script
  | purging _ _ _ script | napping _ _ _ _ _ _ _ _ script | waiting _ _ _ _ _ _ script
  | expiring _ _ _ _ _ script | found _ _ _ _ _ script =>
    rw [hdone] at script
    cases script

end

end Timed

/-! ## Looks to come -/

/-- Whether a script looks for a reply when it goes on so often. -/
inductive Script.LooksWithin {α : Type} : Nat → Script α → Prop
  | look {n : Nat} {m : Manager} {key : String} {next : Option Message × Nat → Script α} :
    LooksWithin (n + 1) (.take (.claimReply m key) next)
  | sleep {n ms : Nat} {next : Unit → Script α} (h : LooksWithin n (next ())) :
    LooksWithin (n + 1) (.pause ms next)

theorem Script.LooksWithin.bind {α β : Type} {n : Nat} {x : Script α} (h : x.LooksWithin n)
    (f : α → Script β) : (x.bind f).LooksWithin n := by
  induction h with
  | look => exact .look
  | sleep _ ih => exact .sleep ih

/-- A find that has looked looks again when it goes on twice, unless it has looked at its deadline
or has found its reply. -/
theorem Timed.looksWithin {ι : Type} {m : Manager} {k : String} {timeout : Nat} {prompt : Prop}
    {h : List Happening} {i : Nat} {σ : Strand ι Call.Answer}
    (o : Timed m k timeout prompt h i σ) (hlooked : ¬ Quiet h i) :
    (σ.pending = [] ∧ σ.script.LooksWithin 2) ∨
      (∃ start, FirstLook h i start ∧ LookedSince h i (start + timeout)) ∨
      ∃ reply, σ.result? = some (.ok (some reply)) := by
  cases o with
  | starting quiet | purging quiet => exact absurd quiet hlooked
  | napping start seen r looked last rest onTime pending script =>
    exact .inl ⟨pending, script ▸ .sleep .look⟩
  | waiting start r looked rest onTime pending script => exact .inl ⟨pending, script ▸ .look⟩
  | expiring start looked last | failed start looked last =>
    exact .inr (.inl ⟨start, looked, last⟩)
  | found start reply looked onTime pending script =>
    exact .inr (.inr ⟨reply, Strand.result?_eq_some.2 ⟨pending, script⟩⟩)

namespace Pool

variable {ι α : Type} {launch : ι → Script α} {p : Pool ι α} {i : Nat} {σ : Strand ι α}

/-- **A strand that goes on as often as it needs to looks for a reply**, whatever others do in
between. -/
theorem looks_of_turns {n : Nat} (hσ : p.strands[i]? = some σ) (hpending : σ.pending = [])
    (hscript : σ.script.LooksWithin n) {moves : List (Move ι)} (hn : n ≤ p.turns launch i moves) :
    ∃ c e, p.history.length ≤ c ∧ (moves.foldl (move launch) p).history[c]? = some e ∧
      e.strand = i ∧ e.deed.act = .claim := by
  induction moves generalizing p σ n with
  | nil =>
    rw [turns, Nat.le_zero] at hn
    subst hn
    cases hscript
  | cons mv rest ih =>
    have hgrown : p.history.length ≤ (p.move launch mv).history.length :=
      (history_prefix_move launch p mv).length_le
    rw [turns] at hn
    cases hturn : p.isTurn i mv with
    | false =>
      rw [hturn, if_neg Bool.false_ne_true, Nat.zero_add] at hn
      obtain ⟨c, e, hc, hlook⟩ := ih (strands_move_of_not_turn launch hσ hturn) hpending hscript hn
      exact ⟨c, e, Nat.le_trans hgrown hc, hlook⟩
    | true =>
      rw [hturn, if_pos rfl] at hn
      obtain ⟨order, hmove⟩ := move_of_turn launch hσ hturn
      have hset : (p.advance i σ order).strands[i]? = some (σ.go p.session order).2.1 :=
        List.getElem?_set_self (List.getElem?_eq_some_iff.1 hσ).1
      generalize hs : σ.script = script at hscript
      cases hscript with
      | @look n m key next =>
        have hgo : σ.go p.session order = _ := Strand.go_step hpending hs rfl
        have hhistory := history_advance_some (i := i) (congrArg Prod.fst hgo)
        rw [← hmove] at hhistory
        obtain ⟨later, hlater⟩ := history_prefix_foldl launch (p.move launch mv) rest
        refine ⟨p.history.length, ⟨i, p.session.clock, ⟨m, key, .claim⟩,
          (p.session.perform ⟨m, key, .claim⟩).1⟩, Nat.le_refl _, ?_, rfl, rfl⟩
        rw [List.foldl_cons, ← hlater, hhistory, List.append_assoc,
          List.getElem?_append_right (Nat.le_refl _), Nat.sub_self]
        rfl
      | @sleep n ms next hnext =>
        have hgo : σ.go p.session order = _ := Strand.go_pause hpending hs
        rw [hgo, ← hmove] at hset
        obtain ⟨c, e, hc, hlook⟩ := ih hset hpending hnext (by omega)
        exact ⟨c, e, Nat.le_trans hgrown hc, hlook⟩

end Pool

namespace Call

variable {m : Manager} {s : Session} {moves : List (Move Call)} {i : Nat}
  {σ : Strand Call Call.Answer} {k : String}

/-- **Every find of a run is somewhere in its script, and what it counts as left is right.** -/
theorem timed_play (hempty : s.tables[m.table]? = some {})
    (hσ : (Pool.play (script m) s moves).strands[i]? = some σ) {timeout : Nat}
    (horigin : σ.origin = .find k timeout) :
    Timed m k timeout (Pool.AlwaysPrompt (script m) s moves)
      (Pool.play (script m) s moves).history i σ := by
  refine Pool.play_strands_of
    (R := fun p => p.Coherent m.table ∧ (Pool.AlwaysPrompt (script m) s moves → p.isPrompt))
    (I := Timed m k timeout (Pool.AlwaysPrompt (script m) s moves))
    (fun l _ => ⟨coherent_play hempty _, fun hprompt => hprompt.take l⟩) ?_ ?_ ?_ hσ horigin
  · rintro p ⟨c, -⟩
    exact .starting c.quiet rfl rfl rfl
  · rintro p i σ order ⟨c, hp⟩ hi hdue o
    exact o.advance order c.past hdue fun hprompt =>
      Pool.isPrompt_iff.1 (hp hprompt) σ (List.mem_of_getElem? hi)
  · intro h others i σ o hothers
    exact o.append hothers

theorem clock_le_due (hprompt : Pool.AlwaysPrompt (script m) s moves)
    (hσ : (Pool.play (script m) s moves).strands[i]? = some σ) (hrunning : σ.result? = none) :
    (Pool.play (script m) s moves).session.clock ≤ σ.due := by
  have hlast := hprompt.take moves.length
  rw [List.take_length] at hlast
  exact Pool.isPrompt_iff.1 hlast σ (List.mem_of_getElem? hσ) hrunning

/-- A find for which time has passed has looked at the moment it started. -/
theorem first_look_find (hempty : s.tables[m.table]? = some {})
    (hprompt : Pool.AlwaysPrompt (script m) s moves)
    (hσ : (Pool.play (script m) s moves).strands[i]? = some σ) {timeout : Nat}
    (horigin : σ.origin = .find k timeout)
    (hpassed : σ.since < (Pool.play (script m) s moves).session.clock) :
    FirstLook (Pool.play (script m) s moves).history i σ.since := by
  rcases (timed_play hempty hσ horigin).looked hprompt with ⟨-, hrunning, hdue⟩ | hlooked
  · have := clock_le_due hprompt hσ hrunning
    omega
  · exact hlooked

/-- So has a call that does not wait. -/
theorem first_look_tryFind (hempty : s.tables[m.table]? = some {})
    (hprompt : Pool.AlwaysPrompt (script m) s moves)
    (hσ : (Pool.play (script m) s moves).strands[i]? = some σ) (horigin : σ.origin = .tryFind k)
    (hpassed : σ.since < (Pool.play (script m) s moves).session.clock) :
    FirstLook (Pool.play (script m) s moves).history i σ.since := by
  have hlooked : (Quiet (Pool.play (script m) s moves).history i ∧ σ.due = σ.since ∧
        σ.pending = [] ∧ σ.script = script m (.tryFind k)) ∨
      FirstLook (Pool.play (script m) s moves).history i σ.since := by
    refine Pool.play_strands_of (R := fun p => p.Coherent m.table ∧ p.isPrompt)
      (I := fun h i σ =>
        (Quiet h i ∧ σ.due = σ.since ∧ σ.pending = [] ∧ σ.script = script m (.tryFind k)) ∨
        FirstLook h i σ.since)
      (fun l _ => ⟨coherent_play hempty _, hprompt.take l⟩) ?_ ?_ ?_ hσ horigin
    · rintro p ⟨c, -⟩
      exact .inl ⟨c.quiet, rfl, rfl, rfl⟩
    · rintro p i σ order ⟨-, hp⟩ hi hdue ih
      rw [(σ.frame_go p.session order).2.2]
      rcases ih with ⟨quiet, due, pending, script⟩ | looked
      · have hnow : p.session.clock = σ.due := Nat.le_antisymm
          (Pool.isPrompt_iff.1 hp σ (List.mem_of_getElem? hi) (Strand.result?_of_take script)) hdue
        have hgo : σ.go p.session order = _ := Strand.go_step pending script rfl
        rw [Pool.history_advance_some (congrArg Prod.fst hgo), ← due, ← hnow]
        exact .inr (quiet.firstLook rfl rfl)
      · exact .inr (looked.mono (Pool.history_prefix_advance i σ order))
    · intro h others i σ ih hothers
      rcases ih with ⟨quiet, rest⟩ | looked
      · exact .inl ⟨quiet.append hothers, rest⟩
      · exact .inr (looked.mono (List.prefix_append h others))
  rcases hlooked with ⟨-, due, -, script⟩ | looked
  · have := clock_le_due hprompt hσ (Strand.result?_of_take script)
    omega
  · exact looked

/-- **A find has ended when its time is over.** -/
theorem ended_of_late (hempty : s.tables[m.table]? = some {})
    (hprompt : Pool.AlwaysPrompt (script m) s moves)
    (hσ : (Pool.play (script m) s moves).strands[i]? = some σ) {timeout : Nat}
    (horigin : σ.origin = .find k timeout)
    (hpassed : σ.since + timeout < (Pool.play (script m) s moves).session.clock) :
    ∃ answer, σ.result? = some answer :=
  (timed_play hempty hσ horigin).ended_of_late hprompt (clock_le_due hprompt hσ) hpassed

/-- **A find that fails has looked when its time was over.** -/
theorem looked_of_failed (hempty : s.tables[m.table]? = some {})
    (hprompt : Pool.AlwaysPrompt (script m) s moves)
    (hσ : (Pool.play (script m) s moves).strands[i]? = some σ) {timeout : Nat}
    (horigin : σ.origin = .find k timeout) {f : Failure}
    (hfailed : σ.result? = some (.error f)) :
    LookedSince (Pool.play (script m) s moves).history i (σ.since + timeout) := by
  obtain ⟨start, -, hlast, hstart⟩ := (timed_play hempty hσ horigin).looked_of_failed hfailed
  exact hstart hprompt ▸ hlast

end Call

end Scenario
