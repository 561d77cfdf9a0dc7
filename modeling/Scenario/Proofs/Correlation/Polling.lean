import Mathlib
import Scenario.Proofs.Correlation.Prompt

/-!
# When a find tries

A find looks for its reply, sleeps for the polling interval or for what is left of its time, and
looks again.  In a run in which nobody is late this fixes all of its looks to the millisecond,
whatever other calls do in the meantime: look number `j` comes `j` intervals after the start, or
when the time of the find is over if that is earlier.

One sleep does not last longer than `Session.longestPause`, so that what counts is not the polling
interval itself but `Manager.pace`.  `Call.slow_find_looks_early` is a find with an interval longer
than that.

## What is here

* `Manager.pace` is the time between two looks, `Call.lookTime` the time of a look, and
  `Manager.tries` the number of looks of a find that has no success.
* `efforts` — what a strand has done so far, visits of a purge left out.
* `Scheduled` — where a find is in its script, how often it has looked, and when it looks next.
  `Scheduled.advance` is the step, and `Call.scheduled_play` the run.
* `Call.find_tries_on_schedule` — the looks of a find, and how it ends.
-/

set_option autoImplicit false

namespace Scenario

open Correlation

/-! ## Times -/

/-- The time between two looks for a reply. -/
def Manager.pace (m : Manager) : Nat := min m.interval Session.longestPause

/-- The number of times that a find looks which has no success. -/
def Manager.tries (m : Manager) (timeout : Nat) : Nat := timeout ⌈/⌉ m.pace + 1

namespace Manager

variable (m : Manager)

theorem pace_pos : 0 < m.pace :=
  Nat.lt_min.2 ⟨Nat.lt_of_lt_of_le Nat.one_pos (Nat.le_max_left 1 m.polling), by decide⟩

theorem nap_eq (remaining : Nat) : m.nap remaining = min m.pace remaining := by
  rw [nap, pace]
  omega

variable {m} in
/-- There is a look number `n` unless the time was over at the look before. -/
theorem lt_tries_iff {timeout n : Nat} :
    n < m.tries timeout ↔ n = 0 ∨ (n - 1) * m.pace < timeout := by
  rw [tries, Nat.lt_succ_iff]
  cases n with
  | zero => exact ⟨fun _ => .inl rfl, fun _ => Nat.zero_le _⟩
  | succ n =>
    rw [Nat.succ_le_iff, ← Nat.not_le, ceilDiv_le_iff_le_mul m.pace_pos, Nat.not_le, Nat.mul_comm]
    exact ⟨.inr, fun h => h.resolve_left (Nat.succ_ne_zero n)⟩

variable {m} in
/-- Look number `n` is the last one if the time is over then. -/
theorem tries_eq {timeout n : Nat} (hlook : n < m.tries timeout) (hover : timeout ≤ n * m.pace) :
    m.tries timeout = n + 1 := by
  refine Nat.le_antisymm (Nat.succ_le_succ ?_) hlook
  rw [ceilDiv_le_iff_le_mul m.pace_pos, Nat.mul_comm]
  exact hover

variable {m} in
theorem le_tries_mul (timeout : Nat) : timeout ≤ m.tries timeout * m.pace := by
  have hlast := (ceilDiv_le_iff_le_mul m.pace_pos).1 (Nat.le_refl (timeout ⌈/⌉ m.pace))
  rw [Nat.mul_comm] at hlast
  exact Nat.le_trans hlast (Nat.mul_le_mul_right _ (Nat.le_succ _))

end Manager

namespace Call

/-- When a find looks for the `j`-th time, counted from zero. -/
def lookTime (m : Manager) (since timeout j : Nat) : Nat := since + min (j * m.pace) timeout

/-- Look number `j` of a find, with what is handed out. -/
def look (m : Manager) (k : String) (i since timeout j : Nat) (handed : Option Message) :
    Happening :=
  ⟨i, lookTime m since timeout j, ⟨m, k, .claim⟩, handed⟩

/-- The first `n` looks of a find that have no success. -/
def looks (m : Manager) (k : String) (i since timeout n : Nat) : List Happening :=
  (List.range n).map fun j => look m k i since timeout j none

/-- What a find does that gives up. -/
def giveUp (m : Manager) (k : String) (i since timeout : Nat) : Happening :=
  ⟨i, since + timeout, ⟨m, k, .expire⟩, none⟩

theorem looks_succ (m : Manager) (k : String) (i since timeout n : Nat) :
    looks m k i since timeout (n + 1) =
      looks m k i since timeout n ++ [look m k i since timeout n none] := by
  rw [looks, List.range_succ, List.map_append]
  rfl

end Call

/-! ## Efforts -/

/-- Whether something is more than a visit of a purge. -/
def Correlation.Act.isEffort {ρ : Type} : Act ρ → Bool
  | .visit => false
  | _ => true

/-- What a strand has done so far, visits of a purge left out. -/
def efforts (h : List Happening) (i : Nat) : List Happening :=
  h.filter fun e => e.strand == i && e.deed.act.isEffort

section Efforts

variable {ι α : Type} {h : List Happening} {i : Nat}

theorem efforts_append_others {others : List Happening} (hothers : ∀ e ∈ others, e.strand ≠ i) :
    efforts (h ++ others) i = efforts h i := by
  have hnone : efforts others i = [] := by
    refine List.filter_eq_nil_iff.2 fun e he => ?_
    simp [hothers e he]
  rw [efforts, List.filter_append]
  exact (congrArg _ hnone).trans (List.append_nil _)

theorem Pool.Coherent.efforts_eq_nil {p : Pool ι α} {n : Nat} (c : p.Coherent n) :
    efforts p.history p.strands.length = [] := by
  refine List.filter_eq_nil_iff.2 fun e he => ?_
  simp [Nat.ne_of_lt (c.own e he)]

namespace Pool

variable {p : Pool ι α} {σ : Strand ι α} {order : List String}

theorem efforts_advance_none (h : (σ.go p.session order).1 = none) :
    efforts (p.advance i σ order).history i = efforts p.history i := by
  rw [history_advance_none h]

theorem efforts_advance_visit {d : Deed} (h : (σ.go p.session order).1 = some d)
    (hd : d.act = .visit) :
    efforts (p.advance i σ order).history i = efforts p.history i := by
  rw [history_advance_some h, efforts, List.filter_append]
  simp [hd, Act.isEffort, efforts]

theorem efforts_advance_some {d : Deed} (h : (σ.go p.session order).1 = some d)
    (hd : d.act.isEffort = true) :
    efforts (p.advance i σ order).history i =
      efforts p.history i ++ [⟨i, p.session.clock, d, (p.session.perform d).1⟩] := by
  rw [history_advance_some h, efforts, List.filter_append]
  simp [hd, efforts]

end Pool
end Efforts

theorem Pool.promptDuring_append {ι α : Type} (launch : ι → Script α) (p : Pool ι α)
    (before after : List (Move ι)) :
    promptDuring launch p (before ++ after) =
      (promptDuring launch p before &&
        promptDuring launch (before.foldl (move launch) p) after) := by
  induction before generalizing p with
  | nil =>
    cases after <;> simp [promptDuring]
  | cons mv rest ih =>
    rw [List.cons_append, promptDuring, promptDuring, ih, List.foldl_cons, Bool.and_assoc]

/-! ## The schedule -/

/-- Where a find is in its script if it has never been late, and how often it has looked. -/
inductive Scheduled {ι : Type} (m : Manager) (k : String) (timeout : Nat) (h : List Happening)
    (i : Nat) (σ : Strand ι Call.Answer) : Prop where
  | starting (past : efforts h i = []) (due : σ.due = σ.since) (pending : σ.pending = [])
    (script : σ.script = Call.script m (.find k timeout))
  | purging (past : efforts h i = []) (due : σ.due = σ.since)
    (pending : ∀ d ∈ σ.pending, d.act = .visit)
    (script : σ.script = Call.enter m k timeout)
  | looking (n : Nat) (past : efforts h i = Call.looks m k i σ.since timeout n)
    (before : n < m.tries timeout) (due : σ.due = Call.lookTime m σ.since timeout n)
    (pending : σ.pending = [])
    (script : σ.script =
      Call.wait m k timeout (σ.since + timeout) (timeout - min (n * m.pace) timeout))
  | napping (n : Nat) (past : efforts h i = Call.looks m k i σ.since timeout (n + 1))
    (early : n * m.pace < timeout) (due : σ.due = Call.lookTime m σ.since timeout n)
    (pending : σ.pending = [])
    (script : σ.script =
      Call.nap m k timeout (σ.since + timeout) (timeout - min (n * m.pace) timeout))
  | expiring (past : efforts h i = Call.looks m k i σ.since timeout (m.tries timeout))
    (due : σ.due = σ.since + timeout) (pending : σ.pending = [])
    (script : σ.script = Call.conclude m k timeout none)
  | found (n : Nat) (reply : Message) (before : n < m.tries timeout)
    (past : efforts h i =
      Call.looks m k i σ.since timeout n ++ [Call.look m k i σ.since timeout n (some reply)])
    (pending : σ.pending = []) (script : σ.script = .done (.ok (some reply)))
  | failed (past : efforts h i = Call.looks m k i σ.since timeout (m.tries timeout) ++
      [Call.giveUp m k i σ.since timeout])
    (pending : σ.pending = []) (script : σ.script = .done (.error (Call.noReply k timeout)))

section Scheduled

variable {ι : Type} {m : Manager} {k : String} {timeout : Nat}

theorem Scheduled.congr {h h' : List Happening} {i : Nat} {σ : Strand ι Call.Answer}
    (o : Scheduled m k timeout h i σ) (hpast : efforts h' i = efforts h i) :
    Scheduled m k timeout h' i σ := by
  cases o with
  | starting past due pending script => exact .starting (hpast.trans past) due pending script
  | purging past due pending script => exact .purging (hpast.trans past) due pending script
  | looking n past before due pending script =>
    exact .looking n (hpast.trans past) before due pending script
  | napping n past early due pending script =>
    exact .napping n (hpast.trans past) early due pending script
  | expiring past due pending script => exact .expiring (hpast.trans past) due pending script
  | found n reply before past pending script =>
    exact .found n reply before (hpast.trans past) pending script
  | failed past pending script => exact .failed (hpast.trans past) pending script

/-- What comes of look number `n`: it finds a reply, or it is the last one because the time is over,
or the find sleeps. -/
theorem Scheduled.of_look {h h' : List Happening} {i n : Nat} {found : Option Message}
    {σ : Strand ι Call.Answer} (past : efforts h i = Call.looks m k i σ.since timeout n)
    (hlook : efforts h' i = efforts h i ++ [Call.look m k i σ.since timeout n found])
    (before : n < m.tries timeout) (due : σ.due = Call.lookTime m σ.since timeout n)
    (pending : σ.pending = [])
    (script : σ.script = Call.check m k timeout (σ.since + timeout)
      (timeout - min (n * m.pace) timeout) (found, Call.lookTime m σ.since timeout n)) :
    Scheduled m k timeout h' i σ := by
  rw [past] at hlook
  cases found with
  | some reply =>
    rw [Call.check_some] at script
    exact .found n reply before hlook pending script
  | none =>
    have hleft : Manager.left (σ.since + timeout) (timeout - min (n * m.pace) timeout)
        (Call.lookTime m σ.since timeout n) = timeout - min (n * m.pace) timeout := by
      rw [Manager.left, Call.lookTime]
      omega
    rw [Call.check_none, hleft] at script
    rw [← Call.looks_succ] at hlook
    by_cases hover : timeout ≤ n * m.pace
    · rw [if_pos (by omega)] at script
      refine .expiring ?_ ?_ pending script
      · rw [hlook, Manager.tries_eq before hover]
      · rw [due, Call.lookTime, Nat.min_eq_right hover]
    · rw [if_neg (by omega)] at script
      exact .napping n hlook (Nat.lt_of_not_le hover) due pending script

/-- The look of a find that goes on when it is due. -/
theorem Call.efforts_advance_look {p : Pool ι Answer} {i n : Nat} {σ : Strand ι Answer}
    {next : Option Message × Nat → Script Answer} (pending : σ.pending = [])
    (script : σ.script = .take (.claimReply m k) next)
    (hnow : p.session.clock = lookTime m σ.since timeout n) (order : List String) :
    efforts (p.advance i σ order).history i =
      efforts p.history i ++
        [look m k i σ.since timeout n (p.session.take (.claimReply m k)).1.1] := by
  have hgo : σ.go p.session order = _ := Strand.go_step pending script rfl
  have hpast := Pool.efforts_advance_some (i := i) (congrArg Prod.fst hgo) rfl
  rw [hnow] at hpast
  exact hpast

/-- **A find that goes on when it is due keeps to its schedule.** -/
theorem Scheduled.advance {p : Pool ι Call.Answer} {i : Nat} {σ : Strand ι Call.Answer}
    (o : Scheduled m k timeout p.history i σ) (order : List String)
    (hdue : σ.due ≤ p.session.clock) (hprompt : σ.result? = none → p.session.clock ≤ σ.due) :
    Scheduled m k timeout (p.advance i σ order).history i (σ.go p.session order).2.1 := by
  have hnow : ∀ {step : Step} {next}, σ.script = .take step next → p.session.clock = σ.due := by
    intro step next hs
    exact Nat.le_antisymm (hprompt (Strand.result?_of_take hs)) hdue
  cases o with
  | starting past due pending script =>
    rw [Call.script_find] at script
    have hgo : σ.go p.session order = _ := Strand.go_sweep pending script rfl
    have hpast := Pool.efforts_advance_none (i := i) (congrArg Prod.fst hgo)
    rw [hgo]
    refine .purging (hpast.trans past) due (fun d hd => ?_) rfl
    obtain ⟨_, -, rfl⟩ := List.mem_map.1 hd
    rfl
  | purging past due pending script =>
    cases hp : σ.pending with
    | cons d rest =>
      rw [hp] at pending
      have hgo : σ.go p.session order = _ := Strand.go_pending hp
      have hpast := Pool.efforts_advance_visit (i := i) (congrArg Prod.fst hgo)
        (pending d List.mem_cons_self)
      rw [hgo]
      exact .purging (hpast.trans past) due
        (fun d' hd' => pending d' (List.mem_cons_of_mem d hd')) script
    | nil =>
      have hfirst : Call.lookTime m σ.since timeout 0 = σ.since := by
        rw [Call.lookTime, Nat.zero_mul, Nat.zero_min, Nat.add_zero]
      have hclock : p.session.clock = Call.lookTime m σ.since timeout 0 := by
        rw [hnow script, due, hfirst]
      have hlook := Call.efforts_advance_look (i := i) hp script hclock order
      have hgo : σ.go p.session order = _ := Strand.go_step hp script rfl
      rw [hgo]
      refine .of_look past hlook (Nat.succ_pos _) (due.trans hfirst.symm) hp ?_
      show Call.check m k timeout (p.session.clock + timeout) timeout (_, p.session.clock) = _
      rw [hclock, hfirst, Nat.zero_mul, Nat.zero_min, Nat.sub_zero]
      rfl
  | looking n past before due pending script =>
    have hclock : p.session.clock = Call.lookTime m σ.since timeout n := (hnow script).trans due
    have hlook := Call.efforts_advance_look (i := i) pending script hclock order
    have hgo : σ.go p.session order = _ := Strand.go_step pending script rfl
    rw [hgo]
    refine .of_look past hlook before due pending ?_
    show Call.check m k timeout _ _ (_, p.session.clock) = _
    rw [hclock]
    rfl
  | napping n past early due pending script =>
    have hgo : σ.go p.session order = _ := Strand.go_pause pending script
    have hpast := Pool.efforts_advance_none (i := i) (congrArg Prod.fst hgo)
    have hclock : p.session.clock = σ.due :=
      Nat.le_antisymm (hprompt (Strand.result?_of_pause script)) hdue
    have hsucc : (n + 1) * m.pace = n * m.pace + m.pace := Nat.succ_mul ..
    have hshort : m.pace ≤ Session.longestPause := Nat.min_le_right ..
    rw [hgo]
    refine .looking (n + 1) (hpast.trans past) (Manager.lt_tries_iff.2 (.inr early)) ?_ pending ?_
    · show p.session.clock + min (m.nap _) Session.longestPause =
        σ.since + min ((n + 1) * m.pace) timeout
      rw [hclock, due, Call.lookTime, Manager.nap_eq, hsucc]
      omega
    · show Call.wait m k timeout (σ.since + timeout) (_ - m.nap _) = _
      rw [Manager.nap_eq, hsucc]
      congr 1
      omega
  | expiring past due pending script =>
    have hgo : σ.go p.session order = _ := Strand.go_step pending script rfl
    have hpast := Pool.efforts_advance_some (i := i) (congrArg Prod.fst hgo) rfl
    rw [past, hnow script, due] at hpast
    rw [hgo]
    exact .failed hpast pending rfl
  | found n reply before past pending script =>
    have hgo : σ.go p.session order = _ := Strand.go_done pending script
    have hpast := Pool.efforts_advance_none (i := i) (congrArg Prod.fst hgo)
    rw [hgo]
    exact .found n reply before (hpast.trans past) pending script
  | failed past pending script =>
    have hgo : σ.go p.session order = _ := Strand.go_done pending script
    have hpast := Pool.efforts_advance_none (i := i) (congrArg Prod.fst hgo)
    rw [hgo]
    exact .failed (hpast.trans past) pending script

end Scheduled

namespace Call

variable {m : Manager} {s : Session} {moves : List (Move Call)} {i : Nat}
  {σ : Strand Call Answer} {k : String} {timeout : Nat}

/-- **A find that is never late keeps to its schedule.** -/
theorem scheduled_play (hempty : s.tables[m.table]? = some {})
    (hprompt : Pool.AlwaysPrompt (script m) s moves)
    (hσ : (Pool.play (script m) s moves).strands[i]? = some σ)
    (horigin : σ.origin = .find k timeout) :
    Scheduled m k timeout (Pool.play (script m) s moves).history i σ := by
  refine Pool.play_strands_of (R := fun p => p.Coherent m.table ∧ p.isPrompt)
    (I := Scheduled m k timeout) (fun l _ => ⟨coherent_play hempty _, hprompt.take l⟩)
    ?_ ?_ ?_ hσ horigin
  · rintro p ⟨c, -⟩
    exact .starting c.efforts_eq_nil rfl rfl rfl
  · rintro p i σ order ⟨-, hp⟩ hi hdue o
    exact o.advance order hdue (Pool.isPrompt_iff.1 hp σ (List.mem_of_getElem? hi))
  · intro h others i σ o hothers
    exact o.congr (efforts_append_others hothers)

/-- What a find has done so far, and whether it has ended. -/
theorem efforts_of_scheduled {h : List Happening} (o : Scheduled m k timeout h i σ) {clock : Nat}
    (hclock : σ.result? = none → clock ≤ σ.due) :
    (∃ n ≤ m.tries timeout, σ.result? = none ∧ clock ≤ lookTime m σ.since timeout n ∧
        efforts h i = looks m k i σ.since timeout n) ∨
    (∃ n reply, n < m.tries timeout ∧ σ.result? = some (.ok (some reply)) ∧
        efforts h i =
          looks m k i σ.since timeout n ++ [look m k i σ.since timeout n (some reply)]) ∨
    σ.result? = some (.error (noReply k timeout)) ∧
      efforts h i =
        looks m k i σ.since timeout (m.tries timeout) ++ [giveUp m k i σ.since timeout] := by
  have hstart : lookTime m σ.since timeout 0 = σ.since := by
    rw [lookTime, Nat.zero_mul, Nat.zero_min, Nat.add_zero]
  have hlater : ∀ n, lookTime m σ.since timeout n ≤ lookTime m σ.since timeout (n + 1) := by
    intro n
    have := Nat.mul_le_mul_right m.pace (Nat.le_add_right n 1)
    rw [lookTime, lookTime]
    omega
  -- nobody is late, so a find that has not ended has not passed the time of its next step
  have hbefore : ∀ {n}, σ.due = lookTime m σ.since timeout n → σ.result? = none →
      clock ≤ lookTime m σ.since timeout n := by
    intro n hdue hrunning
    rw [← hdue]
    exact hclock hrunning
  cases o with
  | starting past due pending script =>
    rw [script_find] at script
    have hrunning := Strand.result?_of_take script
    exact .inl ⟨0, Nat.zero_le _, hrunning, hbefore (due.trans hstart.symm) hrunning, past⟩
  | purging past due pending script =>
    have hrunning := Strand.result?_of_take script
    exact .inl ⟨0, Nat.zero_le _, hrunning, hbefore (due.trans hstart.symm) hrunning, past⟩
  | looking n past before due pending script =>
    have hrunning := Strand.result?_of_take script
    exact .inl ⟨n, Nat.le_of_lt before, hrunning, hbefore due hrunning, past⟩
  | napping n past early due pending script =>
    have hrunning := Strand.result?_of_pause script
    exact .inl ⟨n + 1, Nat.le_of_lt (Manager.lt_tries_iff.2 (.inr early)), hrunning,
      Nat.le_trans (hbefore due hrunning) (hlater n), past⟩
  | expiring past due pending script =>
    have hrunning := Strand.result?_of_take script
    refine .inl ⟨m.tries timeout, Nat.le_refl _, hrunning, hbefore ?_ hrunning, past⟩
    rw [lookTime, Nat.min_eq_right (Manager.le_tries_mul timeout)]
    exact due
  | found n reply before past pending script =>
    exact .inr (.inl ⟨n, reply, before,
      Strand.result?_eq_some.2 ⟨pending, script⟩, past⟩)
  | failed past pending script =>
    exact .inr (.inr ⟨Strand.result?_eq_some.2 ⟨pending, script⟩, past⟩)

/-- What a find does under its own key when it notes that its time has run out. -/
theorem giveUp_of_expire (hempty : s.tables[m.table]? = some {})
    (hprompt : Pool.AlwaysPrompt (script m) s moves)
    (hσ : (Pool.play (script m) s moves).strands[i]? = some σ)
    (horigin : σ.origin = .find k timeout) {e : Happening}
    (he : e ∈ (Pool.play (script m) s moves).history) (hown : e.strand = i)
    (hact : e.deed.act = .expire) : e = giveUp m k i σ.since timeout := by
  have hmem : e ∈ efforts (Pool.play (script m) s moves).history i := by
    refine List.mem_filter.2 ⟨he, ?_⟩
    simp [hown, hact, Act.isEffort]
  have hlooks : ∀ n, e ∉ looks m k i σ.since timeout n := by
    intro n hlook
    obtain ⟨j, -, rfl⟩ := List.mem_map.1 hlook
    cases hact
  rcases efforts_of_scheduled (scheduled_play hempty hprompt hσ horigin)
    (clock_le_due hprompt hσ) with ⟨n, -, -, -, hpast⟩ | ⟨n, reply, -, -, hpast⟩ | ⟨-, hpast⟩
  · rw [hpast] at hmem
    exact absurd hmem (hlooks n)
  · rw [hpast, List.mem_append, List.mem_singleton] at hmem
    rcases hmem with hlook | rfl
    · exact absurd hlook (hlooks n)
    · cases hact
  · rw [hpast, List.mem_append, List.mem_singleton] at hmem
    exact hmem.resolve_left (hlooks _)

/-- **The polling schedule of a find.**  In a run in which nobody is late, let a find have been
started at `σ.since`, and let any other calls be under way.  What the find has done so far, apart
from purging, is one of these:

* it has looked a number of times without success, look number `j` at
  `σ.since + min (j * m.pace) timeout`, and the clock has not passed the time of its next look;
* it has looked like this, was handed a reply by its last look, and has ended with this reply;
* it has looked `m.tries timeout` times without success, for the last time at `σ.since + timeout`,
  has noted then that its time has run out, and has ended with the failure that says so.

It has ended when its time is over.  Each look is handed the reply that is stored under the key when
it looks, if there is one.  With the note that the time has run out a key that is pending becomes
expired, and its window begins anew at that time; a key that is absent stays absent. -/
theorem find_tries_on_schedule (hempty : s.tables[m.table]? = some {})
    (hprompt : Pool.AlwaysPrompt (script m) s moves)
    (hσ : (Pool.play (script m) s moves).strands[i]? = some σ)
    (horigin : σ.origin = .find k timeout) :
    let p := Pool.play (script m) s moves
    let h := p.history
    ((∃ n ≤ m.tries timeout, σ.result? = none ∧
          p.session.clock ≤ lookTime m σ.since timeout n ∧
          efforts h i = looks m k i σ.since timeout n) ∨
      (∃ n reply, n < m.tries timeout ∧ σ.result? = some (.ok (some reply)) ∧
          efforts h i =
            looks m k i σ.since timeout n ++ [look m k i σ.since timeout n (some reply)]) ∨
      σ.result? = some (.error (noReply k timeout)) ∧
          efforts h i =
            looks m k i σ.since timeout (m.tries timeout) ++ [giveUp m k i σ.since timeout]) ∧
    (σ.since + timeout < p.session.clock → ∃ answer, σ.result? = some answer) ∧
    (∀ c e, h[c]? = some e → e.strand = i → e.deed.act = .claim →
      e.handed = (entryAt h m.table k c).bind (·.reply)) ∧
    (∀ c e, h[c]? = some e → e.strand = i → e.deed.act = .expire →
      (∀ E, entryAt h m.table k c = some E → E.isPending = true →
        ∃ E', entryAt h m.table k (c + 1) = some E' ∧ E'.state = .expired ∧
          E'.since = σ.since + timeout) ∧
      (entryAt h m.table k c = none → entryAt h m.table k (c + 1) = none)) := by
  intro p h
  have hscheduled := efforts_of_scheduled (scheduled_play hempty hprompt hσ horigin)
    (clock_le_due hprompt hσ)
  refine ⟨hscheduled, ended_of_late hempty hprompt hσ horigin, ?_, ?_⟩
  · intro c e hc hown hclaim
    have hon := on_of_claim hempty hσ (.inl ⟨timeout, horigin⟩) hc hown hclaim
    have hhanded := (coherent_play hempty moves).handed c e hc hon.1
    rwa [hclaim, hon.2] at hhanded
  · intro c e hc hown hexpire
    obtain rfl := giveUp_of_expire hempty hprompt hσ horigin (List.mem_of_getElem? hc) hown hexpire
    have hnext : entryAt h m.table k (c + 1) = _ := entryAt_succ_of_on hc ⟨rfl, rfl⟩
    rw [hnext]
    refine ⟨fun E hE hpending => ?_, fun hnone => by rw [hnone]; rfl⟩
    have hreply : E.reply = none := Option.isNone_iff_eq_none.1 hpending
    refine ⟨{ E with expired := some (σ.since + timeout) }, ?_, ?_, rfl⟩
    · rw [hE]
      exact congrArg some (if_pos hpending)
    · rw [Entry.state, hreply]

/-! ## Intervals longer than a sleep can be -/

/-- A manager that looks every two trillion milliseconds. -/
def slow : Manager := { table := 0, polling := 2000000000000, retention := 3000000000000 }

/-- Nothing has happened yet but that a find was started, which waits for a reply. -/
def idle (due : Nat) (x : Script Answer) (h : List Happening) : Pool Call Answer where
  session := { tables := [{}] }
  strands := [⟨.find "k" 1500000000000, 0, 0, due, [], x⟩]
  history := h

/-- A find looks, and goes to sleep for as long as it can. -/
def asleep : List (Move Call) :=
  [.start (.find "k" 1500000000000), .go 0 [], .go 0 [], .go 0 []]

/-- A reply is stored, and the sleep comes to an end. -/
def awake : List (Move Call) :=
  [.pass 900000000000, .start (.store "k" { id := "r" }), .go 1 [], .go 1 [], .pass 46080000000,
    .go 0 []]

theorem isPrompt_idle (due : Nat) (x : Script Answer) (h : List Happening) :
    (idle due x h).isPrompt = true := by
  simp [Pool.isPrompt, idle]

/-- The sleep of a find whose interval is too long for one sleep. -/
theorem foldl_asleep :
    List.foldl (Pool.move (script slow)) { session := { tables := [{}] } } asleep =
        idle 946080000000 (wait slow "k" 1500000000000 1500000000000 553920000000)
          [⟨0, 0, ⟨slow, "k", .claim⟩, none⟩] ∧
      Pool.promptDuring (script slow) { session := { tables := [{}] } } asleep = true := by
  have hstart : Pool.move (script slow) { session := { tables := [{}] } }
      (.start (.find "k" 1500000000000)) = idle 0 (script slow (.find "k" 1500000000000)) [] := rfl
  have hpurge : (idle 0 (script slow (.find "k" 1500000000000)) []).move (script slow) (.go 0 []) =
      idle 0 (enter slow "k" 1500000000000) [] := by
    rw [script_find]
    rfl
  have hlook : Pool.move (script slow) (idle 0 (enter slow "k" 1500000000000) []) (.go 0 []) =
      idle 0 (nap slow "k" 1500000000000 1500000000000 1500000000000)
        [⟨0, 0, ⟨slow, "k", .claim⟩, none⟩] := by
    have hnone : check slow "k" 1500000000000 1500000000000 1500000000000 (none, 0) =
        nap slow "k" 1500000000000 1500000000000 1500000000000 := check_none ..
    rw [← hnone]
    rfl
  have hnap : Pool.move (script slow)
        (idle 0 (nap slow "k" 1500000000000 1500000000000 1500000000000)
          [⟨0, 0, ⟨slow, "k", .claim⟩, none⟩]) (.go 0 []) =
      idle 946080000000 (wait slow "k" 1500000000000 1500000000000 553920000000)
        [⟨0, 0, ⟨slow, "k", .claim⟩, none⟩] := rfl
  constructor
  · rw [asleep, List.foldl_cons, List.foldl_cons, List.foldl_cons, List.foldl_cons, List.foldl_nil,
      hstart, hpurge, hlook, hnap]
  · rw [asleep]
    simp only [Pool.promptDuring, hstart, hpurge, hlook, hnap, isPrompt_idle, Bool.and_true]
    rfl

set_option maxRecDepth 100000 in
/-- The end of that sleep, whatever the find does with what it finds. -/
theorem foldl_awake (next : Option Message × Nat → Script Answer) (e : Happening) :
    let p := idle 946080000000 (.take (.claimReply slow "k") next) [e]
    (awake.foldl (Pool.move (script slow)) p).history =
        [e, ⟨1, 900000000000, ⟨slow, "k", .put { id := "r" }⟩, none⟩,
          ⟨0, 946080000000, ⟨slow, "k", .claim⟩, some { id := "r" }⟩] ∧
      (awake.foldl (Pool.move (script slow)) p).strands[0]? =
        some ⟨.find "k" 1500000000000, 0, 0, 946080000000, [],
          next (some { id := "r" }, 946080000000)⟩ ∧
      Pool.promptDuring (script slow) p awake = true := by
  cbv
  refine ⟨rfl, ?_⟩
  -- the find is not late when it has looked, whether it has ended or not
  generalize next _ = rest
  cases rest <;> rfl

/-- The whole run of that find. -/
theorem play_slow :
    (Pool.play (script slow) { tables := [{}] } (asleep ++ awake)).history =
        [⟨0, 0, ⟨slow, "k", .claim⟩, none⟩,
          ⟨1, 900000000000, ⟨slow, "k", .put { id := "r" }⟩, none⟩,
          ⟨0, 946080000000, ⟨slow, "k", .claim⟩, some { id := "r" }⟩] ∧
      (Pool.play (script slow) { tables := [{}] } (asleep ++ awake)).strands[0]? =
        some ⟨.find "k" 1500000000000, 0, 0, 946080000000, [], .done (.ok (some { id := "r" }))⟩ ∧
      Pool.AlwaysPrompt (script slow) { tables := [{}] } (asleep ++ awake) := by
  obtain ⟨hasleep, hprompt⟩ := foldl_asleep
  obtain ⟨hhistory, hstrand, hawake⟩ :=
    foldl_awake (check slow "k" 1500000000000 1500000000000 553920000000)
      ⟨0, 0, ⟨slow, "k", .claim⟩, none⟩
  rw [check_some] at hstrand
  rw [Pool.play, Pool.AlwaysPrompt, List.foldl_append, Pool.promptDuring_append, hasleep, hprompt,
    Bool.true_and]
  exact ⟨hhistory, hstrand, hawake⟩

/-- **A find can look before its interval is over.**  Nobody is late, and the find is handed its
reply at a time that is no multiple of the polling interval after its start, nor its deadline. -/
theorem slow_find_looks_early :
    Pool.AlwaysPrompt (script slow) { tables := [{}] } (asleep ++ awake) ∧
      ∃ σ e, (Pool.play (script slow) { tables := [{}] } (asleep ++ awake)).strands[0]? = some σ ∧
        σ.origin = .find "k" 1500000000000 ∧ σ.result? = some (.ok (some { id := "r" })) ∧
        e ∈ (Pool.play (script slow) { tables := [{}] } (asleep ++ awake)).history ∧
        e.strand = 0 ∧ e.deed = ⟨slow, "k", .claim⟩ ∧ e.handed = some { id := "r" } ∧
        ∀ j, e.time ≠ σ.since + min (j * slow.interval) 1500000000000 := by
  obtain ⟨hhistory, hstrand, hprompt⟩ := play_slow
  refine ⟨hprompt, _, ⟨0, 946080000000, ⟨slow, "k", .claim⟩, some { id := "r" }⟩, hstrand, rfl, rfl,
    ?_, rfl, rfl, rfl, fun j => ?_⟩
  · rw [hhistory]
    simp
  · have hinterval : slow.interval = 2000000000000 := rfl
    show 946080000000 ≠ 0 + min (j * slow.interval) 1500000000000
    rw [hinterval]
    omega

/-- The looks of that find come at the pace at which it can look. -/
theorem slow_find_on_schedule :
    (({ tables := [{}] } : Session).tables[slow.table]? = some {}) ∧
      Pool.AlwaysPrompt (script slow) { tables := [{}] } (asleep ++ awake) ∧
      ∃ σ, (Pool.play (script slow) { tables := [{}] } (asleep ++ awake)).strands[0]? = some σ ∧
        σ.origin = .find "k" 1500000000000 ∧
        ∃ n reply, n < slow.tries 1500000000000 ∧ σ.result? = some (.ok (some reply)) ∧
          efforts (Pool.play (script slow) { tables := [{}] } (asleep ++ awake)).history 0 =
            looks slow "k" 0 σ.since 1500000000000 n ++
              [look slow "k" 0 σ.since 1500000000000 n (some reply)] := by
  obtain ⟨-, hstrand, hprompt⟩ := play_slow
  refine ⟨rfl, hprompt, _, hstrand, rfl, ?_⟩
  obtain ⟨hpast, -⟩ := find_tries_on_schedule rfl hprompt hstrand rfl
  rcases hpast with ⟨_, -, hrunning, -⟩ | hfound | ⟨hfailed, -⟩
  · cases hrunning
  · exact hfound
  · cases hfailed

end Call
end Scenario
