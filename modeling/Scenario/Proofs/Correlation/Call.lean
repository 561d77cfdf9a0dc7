import Scenario.Endpoint.Basic
import Scenario.Proofs.Session.Script
import Scenario.Proofs.Session.Strand

/-!
# Calls of a correlation manager

What the users of one correlation manager can ask of it, as strands of a pool.

## What is here

* `Call` is one call, and `Call.script` the script that serves it.  A run of the manager is
  `Pool.play (Call.script m)`: any number of calls, started at any time, that go on in any order.
* `Call.script_find` and `Call.check_none` unfold the script of a find: it purges, looks for a
  reply, and looks again until its time has run out.
* `Call.obeys_script` — which steps each call takes, and what it can answer.  `Call.does_play` reads
  it off the history of a run: each deed is done through the manager, by a call that does such.
* `Script.Honest` — a script that ends with a reply as soon as it is handed one, and not with a
  reply that it was not handed.  All calls are honest (`Call.honest_script`), and what this means
  for a run is `Pool.answered_play`.
-/

set_option autoImplicit false

namespace Scenario

open Correlation

/-- One call of a correlation manager. -/
inductive Call where
  /-- Waits for a reply and claims it. -/
  | find (key : String) (timeout : Nat)
  /-- Claims a reply without waiting. -/
  | tryFind (key : String)
  /-- Registers a key and remembers it in a variable. -/
  | create (ctx : Context) (keyName key : String)
  | store (key : String) (reply : Message)
  | discard (key : String)
  | purge
  | clear

namespace Call

/-- The failure of a find whose time has run out. -/
def noReply (key : String) (timeout : Nat) : Failure :=
  .timeout s!"no reply received for correlation key '{key}'" timeout

/-- What a call answers: the reply that was found, if it is after one, or a failure. -/
abbrev Answer : Type := Except Failure (Option Message)

/-- The script of a call. -/
def script (m : Manager) : Call → Script Answer
  | find key timeout => (m.find key timeout).run.bind fun r => .done (r.map some)
  | tryFind key => .take (.claimReply m key) fun look => .done (.ok look.1)
  | create ctx keyName key =>
    (m.create ctx keyName key).run.bind fun r => .done (r.map fun _ => none)
  | store key reply => .take (.storeReply m key reply) fun _ => .done (.ok none)
  | discard key => .take (.discardKey m key) fun _ => .done (.ok none)
  | purge => .take (.purge m) fun _ => .done (.ok none)
  | clear => .take (.clear m) fun _ => .done (.ok none)

/-! ## The script of a find -/

/-- What a find does when it has waited. -/
def conclude (m : Manager) (key : String) (timeout : Nat) :
    Option Message → Script Answer
  | some reply => .done (.ok (some reply))
  | none => .take (.expireKey m key) fun _ => .done (.error (noReply key timeout))

/-- What a find does after a look. -/
def check (m : Manager) (key : String) (timeout deadline remaining : Nat)
    (look : Option Message × Nat) : Script Answer :=
  (m.poll key deadline remaining look).bind (conclude m key timeout)

/-- What a find does that is about to look for the first time.  With this look it fixes its
deadline. -/
def enter (m : Manager) (key : String) (timeout : Nat) : Script Answer :=
  .take (.claimReply m key) fun look => check m key timeout (look.2 + timeout) timeout look

/-- What a find does that is about to look again. -/
def wait (m : Manager) (key : String) (timeout deadline remaining : Nat) : Script Answer :=
  (m.watch key deadline remaining).bind (conclude m key timeout)

/-- What a find does that sleeps until it looks again. -/
def nap (m : Manager) (key : String) (timeout deadline remaining : Nat) :
    Script Answer :=
  .pause (m.nap remaining) fun _ => wait m key timeout deadline (remaining - m.nap remaining)

theorem script_find (m : Manager) (key : String) (timeout : Nat) :
    script m (.find key timeout) = .take (.purge m) fun _ => enter m key timeout := by
  rw [script]
  show Script.take (.purge m) _ = _
  congr 1
  funext _
  show Script.take (.claimReply m key) _ = _
  congr 1
  funext look
  show ((Script.bind (Script.bind (m.poll key (look.2 + timeout) timeout look) _) _).bind _) =
    check ..
  rw [Script.bind_assoc, Script.bind_assoc, check]
  congr 1
  funext found
  cases found <;> rfl

/-- A look that finds a reply is the last one. -/
theorem check_some (m : Manager) (key : String) (timeout deadline remaining now : Nat)
    (reply : Message) :
    check m key timeout deadline remaining (some reply, now) = .done (.ok (some reply)) := by
  rw [check, Manager.poll_some]
  rfl

/-- A look that finds nothing is the last one if it comes at the deadline or later. -/
theorem check_none (m : Manager) (key : String) (timeout deadline remaining now : Nat) :
    check m key timeout deadline remaining (none, now) =
      if Manager.left deadline remaining now = 0 then conclude m key timeout none
      else nap m key timeout deadline (Manager.left deadline remaining now) := by
  rw [check, Manager.poll_none]
  split <;> rfl

/-- With every pause there is less time left to wait. -/
theorem rest_lt {m : Manager} {deadline remaining now : Nat}
    (h : Manager.left deadline remaining now ≠ 0) :
    Manager.left deadline remaining now - m.nap (Manager.left deadline remaining now) <
      remaining := by
  have hnap : 0 < m.nap (Manager.left deadline remaining now) := Manager.nap_pos h
  have hle : Manager.left deadline remaining now ≤ remaining := Nat.min_le_left ..
  omega

/-- **What follows a look ends, or goes on with another look after a pause.**  So what is so of the
ends, and of a pause if it is so of the look after it, is so of what follows every look. -/
theorem check_induction {m : Manager} {key : String} {timeout deadline : Nat}
    {P : Option Message × Nat → Script Answer → Prop}
    (hfound : ∀ reply now, P (some reply, now) (.done (.ok (some reply))))
    (hlast : ∀ now, P (none, now) (conclude m key timeout none))
    (hnap : ∀ now left, (∀ look, P look (check m key timeout deadline (left - m.nap left) look)) →
      P (none, now) (nap m key timeout deadline left)) (remaining : Nat)
    (look : Option Message × Nat) : P look (check m key timeout deadline remaining look) := by
  induction remaining using Nat.strongRecOn generalizing look with
  | ind remaining ih =>
    obtain ⟨found, now⟩ := look
    cases found with
    | some reply =>
      rw [check_some]
      exact hfound reply now
    | none =>
      rw [check_none]
      split
      · exact hlast now
      · next hleft => exact hnap now _ (ih _ (rest_lt hleft))

/-! ## Steps and answers of each call -/

/-- The steps that a call takes. -/
def Takes (m : Manager) : Call → Step → Prop
  | find key _, step => step ∈ [.purge m, .claimReply m key, .expireKey m key]
  | tryFind key, step => step = .claimReply m key
  | create ctx keyName key, step =>
    step ∈ [.write ctx.scope keyName (.string key), .createKey m key]
  | store key reply, step => step = .storeReply m key reply
  | discard key, step => step = .discardKey m key
  | purge, step => step = .purge m
  | clear, step => step = .clear m

/-- The answers that a call can give. -/
def Answers : Call → Answer → Prop
  | find key timeout, answer =>
    (∃ reply, answer = .ok (some reply)) ∨ answer = .error (noReply key timeout)
  | tryFind _, answer => ∃ found, answer = .ok found
  | _, answer => answer = .ok none

theorem obeys_check (m : Manager) (key : String) (timeout deadline remaining : Nat)
    (look : Option Message × Nat) :
    (check m key timeout deadline remaining look).Obeys (Takes m (.find key timeout))
      (Answers (.find key timeout)) := by
  refine check_induction (P := fun _ x => x.Obeys _ _) ?_ ?_ ?_ remaining look
  · exact fun reply _ => .inl ⟨reply, rfl⟩
  · exact fun _ => ⟨by simp [Takes], fun _ => .inr rfl⟩
  · exact fun _ _ ih => ⟨by simp [Takes], ih⟩

theorem obeys_script (m : Manager) (call : Call) :
    (script m call).Obeys (Takes m call) (Answers call) := by
  cases call with
  | find key timeout =>
    rw [script_find]
    exact ⟨by simp [Takes], fun _ => ⟨by simp [Takes], fun look => obeys_check ..⟩⟩
  | tryFind key => exact ⟨rfl, fun look => ⟨look.1, rfl⟩⟩
  | create ctx keyName key => exact ⟨by simp [Takes], fun _ => ⟨by simp [Takes], fun _ => rfl⟩⟩
  | store | discard | purge | clear => exact ⟨rfl, fun _ => rfl⟩

/-- Whether something that is done to a key is what this call does. -/
def Does (call : Call) (key : String) : Act Message → Prop
  | .create => ∃ ctx keyName, call = .create ctx keyName key
  | .put reply => call = .store key reply
  | .claim => (∃ timeout, call = .find key timeout) ∨ call = .tryFind key
  | .discard => call = .discard key
  | .expire => ∃ timeout, call = .find key timeout
  | .visit => (∃ key timeout, call = .find key timeout) ∨ (∃ key reply, call = .store key reply) ∨
      call = .purge
  | .drop => call = .clear

theorem does_of_takes {m : Manager} {call : Call} {step : Step} (h : Takes m call step) {d : Deed}
    (hd : step.Does d) : d.manager = m ∧ call.Does d.key d.act := by
  cases call with
  | find key timeout =>
    simp only [Takes, List.mem_cons, List.not_mem_nil, or_false] at h
    rcases h with rfl | rfl | rfl
    · rw [hd.2]
      exact ⟨hd.1, .inl ⟨key, timeout, rfl⟩⟩
    · cases hd
      exact ⟨rfl, .inl ⟨timeout, rfl⟩⟩
    · cases hd
      exact ⟨rfl, timeout, rfl⟩
  | tryFind key =>
    cases h
    cases hd
    exact ⟨rfl, .inr rfl⟩
  | create ctx keyName key =>
    simp only [Takes, List.mem_cons, List.not_mem_nil, or_false] at h
    rcases h with rfl | rfl
    · cases hd
    · cases hd
      exact ⟨rfl, ctx, keyName, rfl⟩
  | store key reply =>
    cases h
    obtain ⟨hm, hact | rfl⟩ := hd
    · rw [hact]
      exact ⟨hm, .inr (.inl ⟨key, reply, rfl⟩)⟩
    · exact ⟨hm, rfl⟩
  | discard key =>
    cases h
    cases hd
    exact ⟨rfl, rfl⟩
  | purge =>
    cases h
    rw [hd.2]
    exact ⟨hd.1, .inr (.inr rfl)⟩
  | clear =>
    cases h
    rw [hd.2]
    exact ⟨hd.1, rfl⟩

theorem coherent_play {m : Manager} {s : Session} (hempty : s.tables[m.table]? = some {})
    (moves : List (Move Call)) : (Pool.play (script m) s moves).Coherent m.table :=
  Pool.coherent_play hempty moves

/-- **All that happens in a run is done through its manager by the calls that do such things.** -/
theorem does_play {m : Manager} {s : Session} (hempty : s.tables[m.table]? = some {})
    {moves : List (Move Call)} {e : Happening}
    (he : e ∈ (Pool.play (script m) s moves).history) :
    e.deed.manager = m ∧ ∃ σ, (Pool.play (script m) s moves).strands[e.strand]? = some σ ∧
      σ.origin.Does e.deed.key e.deed.act := by
  have hσ := List.getElem?_eq_getElem ((coherent_play hempty moves).own e he)
  obtain ⟨step, hstep, hdoes⟩ := (Pool.obeys_play (obeys_script m) hσ).1 e he rfl
  obtain ⟨hmanager, hact⟩ := does_of_takes hstep hdoes
  exact ⟨hmanager, _, hσ, hact⟩

/-- A call that is after a reply looks for it under the key that it asks for. -/
theorem on_of_claim {m : Manager} {s : Session} (hempty : s.tables[m.table]? = some {})
    {moves : List (Move Call)} {i c : Nat} {σ : Strand Call Answer}
    (hσ : (Pool.play (script m) s moves).strands[i]? = some σ) {key : String}
    (hafter : (∃ timeout, σ.origin = .find key timeout) ∨ σ.origin = .tryFind key)
    {e : Happening} (hc : (Pool.play (script m) s moves).history[c]? = some e)
    (hown : e.strand = i) (hclaim : e.deed.act = .claim) : e.On m.table key := by
  obtain ⟨hmanager, σ', hσ', hdoes⟩ := does_play hempty (List.mem_of_getElem? hc)
  rw [hown, hσ] at hσ'
  cases hσ'
  rw [hclaim] at hdoes
  refine ⟨congrArg Manager.table hmanager, ?_⟩
  rcases hafter with ⟨timeout, horigin⟩ | horigin <;>
    rcases hdoes with ⟨timeout', hdoes⟩ | hdoes <;>
    cases horigin.symm.trans hdoes <;> rfl

/-- A call that is after a reply stores none and clears nothing. -/
theorem harmless_of_after {m : Manager} {s : Session} (hempty : s.tables[m.table]? = some {})
    {moves : List (Move Call)} {i l : Nat} {σ : Strand Call Answer}
    (hσ : (Pool.play (script m) s moves).strands[i]? = some σ) {key : String}
    (hafter : (∃ timeout, σ.origin = .find key timeout) ∨ σ.origin = .tryFind key)
    {e : Happening} (hl : (Pool.play (script m) s moves).history[l]? = some e)
    (hown : e.strand = i) : (∀ reply, e.deed.act ≠ .put reply) ∧ e.deed.act ≠ .drop := by
  obtain ⟨-, σ', hσ', hdoes⟩ := does_play hempty (List.mem_of_getElem? hl)
  rw [hown, hσ] at hσ'
  cases hσ'
  refine ⟨fun reply hact => ?_, fun hact => ?_⟩
  all_goals
    rw [hact] at hdoes
    rcases hafter with ⟨timeout, horigin⟩ | horigin
    · cases horigin.symm.trans hdoes
    · cases horigin.symm.trans hdoes

/-- A call that has ended has given one of its answers. -/
theorem answers_play {m : Manager} {s : Session} {moves : List (Move Call)} {i : Nat}
    {σ : Strand Call Answer}
    (hσ : (Pool.play (script m) s moves).strands[i]? = some σ)
    {answer : Answer} (hanswer : σ.result? = some answer) :
    Answers σ.origin answer :=
  (Pool.obeys_play (obeys_script m) hσ).2 answer hanswer

end Call

/-! ## Honesty -/

/-- Whether a script ends with a reply as soon as it is handed one, and never with a reply that it
was not handed. -/
def Script.Honest : Script Call.Answer → Prop
  | .done answer => ∀ reply, answer ≠ .ok (some reply)
  | .take (.claimReply _ _) next =>
    (∀ reply now, next (some reply, now) = .done (.ok (some reply))) ∧
      ∀ now, (next (none, now)).Honest
  | .take _ next => ∀ y, (next y).Honest
  | .pause _ next => (next ()).Honest

namespace Call

theorem honest_check (m : Manager) (key : String) (timeout deadline remaining now : Nat) :
    (check m key timeout deadline remaining (none, now)).Honest := by
  refine check_induction (P := fun look x => look.1 = none → x.Honest) ?_ ?_ ?_ remaining
    (none, now) rfl
  · exact fun _ _ => nofun
  · exact fun _ _ _ => nofun
  · exact fun _ _ ih _ => ⟨fun _ _ => check_some .., fun now => ih (none, now) rfl⟩

theorem honest_script (m : Manager) (call : Call) : (script m call).Honest := by
  cases call with
  | find key timeout =>
    rw [script_find]
    exact fun _ => ⟨fun _ _ => check_some .., fun _ => honest_check ..⟩
  | tryFind key => exact ⟨fun _ _ => rfl, fun _ => nofun⟩
  | create ctx keyName key => exact fun _ _ => nofun
  | store | discard | purge | clear => exact fun _ => nofun

end Call

/-- An honest script that takes a step is handed nothing and stays honest, or it is handed a reply
and ends with it. -/
theorem Script.Honest.take {step : Step}
    {next : step.Yield → Script Call.Answer}
    (h : (Script.take step next).Honest) (s : Session) :
    (next (s.take step).1).Honest ∧ (∀ d, step.deed? = some d → (s.perform d).1 = none) ∨
      ∃ d reply, step.deed? = some d ∧ d.act = .claim ∧ (s.perform d).1 = some reply ∧
        next (s.take step).1 = .done (.ok (some reply)) := by
  cases step with
  | claimReply m key =>
    cases hfound : ((s.table m.table).claim key).1 with
    | none =>
      refine .inl ⟨?_, ?_⟩
      · rw [Session.take, hfound]
        exact h.2 s.clock
      · rintro d hd
        cases hd
        exact hfound
    | some reply =>
      refine .inr ⟨⟨m, key, .claim⟩, reply, rfl, rfl, hfound, ?_⟩
      rw [Session.take, hfound]
      exact h.1 reply s.clock
  | createKey | discardKey | expireKey =>
    refine .inl ⟨h _, ?_⟩
    rintro d hd
    cases hd
    rfl
  | _ => exact .inl ⟨h _, nofun⟩

namespace Pool

variable {ι : Type}

/-- Whether a strand has been handed nothing so far, or was handed a reply by the last thing that
it did and has ended with it. -/
inductive Answered (h : List Happening) (i : Nat)
    (σ : Strand ι Call.Answer) : Prop where
  | silent (handed : ∀ e ∈ h, e.strand = i → e.handed = none)
    (pending : ∀ d ∈ σ.pending, d.act ≠ .claim) (honest : σ.script.Honest)
  | served (j : Nat) (e : Happening) (reply : Message) (done : h[j]? = some e) (own : e.strand = i)
    (claim : e.deed.act = .claim) (handed : e.handed = some reply)
    (result : σ.pending = [] ∧ σ.script = .done (.ok (some reply)))
    (last : ∀ (j' : Nat) (e' : Happening), h[j']? = some e' → e'.strand = i →
      j' ≤ j ∧ (j' < j → e'.handed = none))

theorem Answered.append {h : List Happening} {i : Nat} {σ : Strand ι Call.Answer}
    (a : Answered h i σ) {others : List Happening} (hothers : ∀ e ∈ others, e.strand ≠ i) :
    Answered (h ++ others) i σ := by
  cases a with
  | silent hhanded hpending hhonest =>
    refine .silent (fun e he hi => ?_) hpending hhonest
    rcases List.mem_append.1 he with he | he
    · exact hhanded e he hi
    · exact absurd hi (hothers e he)
  | served j e reply hj hown hclaim hhanded hresult hlast =>
    refine .served j e reply ?_ hown hclaim hhanded hresult fun j' e' hj' hi => ?_
    · rwa [List.getElem?_append_left (List.getElem?_eq_some_iff.1 hj).1]
    · exact hlast j' e' (getElem?_of_append_others hothers hj' hi) hi

/-- A strand that was handed nothing is handed nothing by what it does next, or it is served. -/
theorem Answered.of_silent {p : Pool ι Call.Answer} {i : Nat} {σ : Strand ι Call.Answer}
    (hhanded : ∀ e ∈ p.history, e.strand = i → e.handed = none)
    (hpending : ∀ d ∈ σ.pending, d.act ≠ .claim) (hhonest : σ.script.Honest)
    (order : List String) :
    Answered (p.advance i σ order).history i (σ.go p.session order).2.1 := by
  have hsilent : (∀ d, (σ.go p.session order).1 = some d → (p.session.perform d).1 = none) →
      ∀ e ∈ (p.advance i σ order).history, e.strand = i → e.handed = none := by
    intro hnone e he hi
    obtain ⟨j, hj⟩ := List.mem_iff_getElem?.1 he
    rcases getElem?_history_advance hj with hj | ⟨-, d, hd, rfl⟩
    · exact hhanded e (List.mem_of_getElem? hj) hi
    · exact hnone d hd
  cases hp : σ.pending with
  | cons d rest =>
    rw [hp] at hpending
    rw [Strand.go_pending hp] at hsilent ⊢
    refine .silent (hsilent fun d' hd' => ?_) (fun d' hd' => ?_) hhonest
    · cases hd'
      exact Session.perform_of_ne_claim _ (hpending d List.mem_cons_self)
    · exact hpending d' (List.mem_cons_of_mem d hd')
  | nil =>
    cases hs : σ.script with
    | done answer =>
      rw [Strand.go_done hp hs] at hsilent ⊢
      exact .silent (hsilent nofun) hpending hhonest
    | pause ms next =>
      rw [hs] at hhonest
      rw [Strand.go_pause hp hs] at hsilent ⊢
      exact .silent (hsilent nofun) hpending hhonest
    | take step next =>
      rw [hs] at hhonest
      cases hdeeds : p.session.deeds? order step with
      | some deeds =>
        rw [Strand.go_sweep hp hs hdeeds] at hsilent ⊢
        refine .silent (hsilent nofun) (fun d hd => Session.ne_claim_of_mem_deeds? hdeeds hd) ?_
        rcases hhonest.take p.session with ⟨hnext, -⟩ | ⟨d, _, hd, -⟩
        · exact hnext
        · rw [Step.deed?_of_deeds? hdeeds] at hd
          cases hd
      | none =>
        have hgo : σ.go p.session order = _ := Strand.go_step hp hs hdeeds
        rcases hhonest.take p.session with ⟨hnext, hnone⟩ | ⟨d, reply, hd, hclaim, hfound, hend⟩
        · rw [hgo] at hsilent ⊢
          exact .silent (hsilent hnone) hpending hnext
        · rw [history_advance_some ((congrArg Prod.fst hgo).trans hd), hgo]
          refine .served p.history.length _ reply List.getElem?_concat_length rfl hclaim hfound
            ⟨hp, hend⟩ fun j' e' hj' hi => ?_
          have hlt := (List.getElem?_eq_some_iff.1 hj').1
          rw [List.length_append, List.length_singleton] at hlt
          refine ⟨by omega, fun hj => ?_⟩
          rw [List.getElem?_append_left hj] at hj'
          exact hhanded e' (List.mem_of_getElem? hj') hi

theorem Answered.advance {p : Pool ι Call.Answer} {i : Nat} {σ : Strand ι Call.Answer}
    (a : Answered p.history i σ) (order : List String) :
    Answered (p.advance i σ order).history i (σ.go p.session order).2.1 := by
  cases a with
  | silent hhanded hpending hhonest => exact .of_silent hhanded hpending hhonest order
  | served j e reply hj hown hclaim hhanded hresult hlast =>
    have hgo : σ.go p.session order = _ := Strand.go_done hresult.1 hresult.2
    rw [history_advance_none (congrArg Prod.fst hgo), hgo]
    exact .served j e reply hj hown hclaim hhanded hresult hlast

/-- **A strand with an honest script ends with a reply just if it was handed this reply.** -/
theorem answered_play {launch : ι → Script Call.Answer} (hlaunch : ∀ origin, (launch origin).Honest)
    {s : Session} {n : Nat} (hempty : s.tables[n]? = some {}) {moves : List (Move ι)} {i : Nat}
    {σ : Strand ι Call.Answer} (hσ : (play launch s moves).strands[i]? = some σ) :
    Answered (play launch s moves).history i σ := by
  revert hσ
  refine play_strands (R := fun p => p.Coherent n) (I := Answered)
    (fun l _ => coherent_play hempty _) ?_ ?_ ?_
  · intro p origin c
    refine .silent (fun e he hi => ?_) nofun (hlaunch origin)
    exact absurd hi (Nat.ne_of_lt (c.own e he))
  · intro p i σ order _ _ _ a
    exact a.advance order
  · intro h others i σ a hothers
    exact a.append hothers

section Answered

variable {h : List Happening} {i : Nat} {σ : Strand ι Call.Answer}
  {reply : Message}

/-- A strand that is handed a reply ends with it at once. -/
theorem Answered.result_of_handed (a : Answered h i σ) {j : Nat} {e : Happening}
    (hj : h[j]? = some e) (hown : e.strand = i) (hhanded : e.handed = some reply) :
    σ.result? = some (.ok (some reply)) ∧
      ∀ (j' : Nat) (e' : Happening), h[j']? = some e' → e'.strand = i → j' ≤ j := by
  cases a with
  | silent hnone =>
    rw [hnone e (List.mem_of_getElem? hj) hown] at hhanded
    cases hhanded
  | served k e' reply' hk _ _ hreply hresult hlast =>
    obtain ⟨hle, hnone⟩ := hlast j e hj hown
    rcases Nat.lt_or_eq_of_le hle with hlt | rfl
    · rw [hnone hlt] at hhanded
      cases hhanded
    · rw [hj] at hk
      cases hk
      rw [hhanded] at hreply
      cases hreply
      rw [Strand.result?, hresult.1, hresult.2]
      exact ⟨rfl, fun j' e' hj' hi => (hlast j' e' hj' hi).1⟩

/-- A strand that ends with a reply was handed it by the last thing that it did. -/
theorem Answered.handed_of_result (a : Answered h i σ)
    (hresult : σ.result? = some (.ok (some reply))) :
    ∃ j e, h[j]? = some e ∧ e.strand = i ∧ e.deed.act = .claim ∧ e.handed = some reply ∧
      ∀ (j' : Nat) (e' : Happening), h[j']? = some e' → e'.strand = i → j' ≤ j := by
  rw [Strand.result?] at hresult
  split at hresult
  · next hscript =>
    cases hresult
    cases a with
    | silent _ _ hhonest =>
      rw [hscript] at hhonest
      exact absurd rfl (hhonest reply)
    | served j e reply' hj hown hclaim hhanded hend hlast =>
      rw [hend.2] at hscript
      cases hscript
      exact ⟨j, e, hj, hown, hclaim, hhanded, fun j' e' hj' hi => (hlast j' e' hj' hi).1⟩
  · cases hresult

end Answered

end Pool

/-! ## Looks for a reply -/

/-- Whether a strand has not looked for a reply so far. -/
def Quiet (h : List Happening) (i : Nat) : Prop :=
  ∀ e ∈ h, e.strand = i → e.deed.act ≠ .claim

section Quiet

variable {ι α : Type} {h : List Happening} {i : Nat}

theorem Pool.Coherent.quiet {p : Pool ι α} {n : Nat} (c : p.Coherent n) :
    Quiet p.history p.strands.length :=
  fun e he hown => absurd hown (Nat.ne_of_lt (c.own e he))

theorem Quiet.advance {p : Pool ι α} (hq : Quiet p.history i) {σ : Strand ι α}
    {order : List String} (hdeed : ∀ d, (σ.go p.session order).1 = some d → d.act ≠ .claim) :
    Quiet (p.advance i σ order).history i := by
  intro e he hown
  obtain ⟨j, hj⟩ := List.mem_iff_getElem?.1 he
  rcases Pool.getElem?_history_advance hj with hj | ⟨-, d, hd, rfl⟩
  · exact hq e (List.mem_of_getElem? hj) hown
  · exact hdeed d hd

theorem Quiet.append (hq : Quiet h i) {others : List Happening}
    (hothers : ∀ e ∈ others, e.strand ≠ i) : Quiet (h ++ others) i := by
  intro e he hown
  rcases List.mem_append.1 he with he | he
  · exact hq e he hown
  · exact absurd hown (hothers e he)

end Quiet

end Scenario
