import Scenario.Proofs.Session.Ownership
import Scenario.Proofs.Session.Strand

/-!
# Strands that run one script after the other

What is known of a script for itself is known of it also where it is part of a longer one.  A strand
that runs the longer one does, until the part has ended, just what a strand would do that runs the
part and nothing else.  Such a strand does not exist in the pool.  It is thought up for the proof,
and so a statement on strands can be used of a part although it was made of strands that do nothing
else.

The longer script may put what it has got from one part into variables, for another one to read it
there.  For this the variables have to stay as they are while others go on, which is the case if no
two strands own the same scope.

## What is here

* `Strand.Follows` — a strand does what another one does until that has ended, and
  `Strand.Follows.go` says that they stay together.
* `Pool.owns_play` and `Pool.Owned.store_advance` — strands that own different scopes do not write
  to those of each other.
* `Pool.origins_play` — the strands of a run are what was started, in order.
-/

set_option autoImplicit false

namespace Scenario

open Correlation

variable {ι κ α β : Type}

/-! ## Parts -/

/-- Whether a strand is as far as another one and goes on with the result of that. -/
structure Strand.Follows (σ : Strand ι α) (τ : Strand κ β) (g : β → Script α) : Prop where
  pending : σ.pending = τ.pending
  due : σ.due = τ.due
  script : σ.script = τ.script.bind g

namespace Strand.Follows

variable {σ : Strand ι α} {τ : Strand κ β} {g : β → Script α}

/-- **Until a part has ended a strand does what the part does.** -/
theorem go (f : σ.Follows τ g) (h : τ.result? = none) (s : Session) (order : List String) :
    (σ.go s order).1 = (τ.go s order).1 ∧ (σ.go s order).2.2 = (τ.go s order).2.2 ∧
      (σ.go s order).2.1.Follows (τ.go s order).2.1 g := by
  have hpending := f.pending
  have hscript := f.script
  cases hp : τ.pending with
  | cons d rest =>
    rw [hp] at hpending
    rw [go_pending hp, go_pending hpending]
    exact ⟨rfl, rfl, rfl, f.due, hscript⟩
  | nil =>
    rw [hp] at hpending
    cases hs : τ.script with
    | done b =>
      rw [result?_eq_some.2 ⟨hp, hs⟩] at h
      cases h
    | pause ms next =>
      rw [hs] at hscript
      rw [go_pause hp hs, go_pause hpending hscript]
      exact ⟨rfl, rfl, hpending.trans hp.symm, rfl, rfl⟩
    | take step next =>
      rw [hs] at hscript
      cases hdeeds : s.deeds? order step with
      | some deeds =>
        rw [go_sweep hp hs hdeeds, go_sweep hpending hscript hdeeds]
        exact ⟨rfl, rfl, rfl, f.due, rfl⟩
      | none =>
        rw [go_step hp hs hdeeds, go_step hpending hscript hdeeds]
        exact ⟨rfl, rfl, hpending.trans hp.symm, f.due, rfl⟩

/-- When the part has ended its result is what the strand goes on with. -/
theorem ended (f : σ.Follows τ g) {b : β} (h : τ.result? = some b) :
    σ.pending = [] ∧ σ.script = g b := by
  obtain ⟨hpending, hscript⟩ := result?_eq_some.1 h
  refine ⟨f.pending.trans hpending, ?_⟩
  rw [f.script, hscript]
  rfl

/-- A strand has not ended if the part it is in has not. -/
theorem result?_eq_none (f : σ.Follows τ g) (h : τ.result? = none) : σ.result? = none := by
  refine Option.eq_none_iff_forall_ne_some.2 fun a ha => ?_
  obtain ⟨hpending, hscript⟩ := result?_eq_some.1 ha
  rw [f.pending] at hpending
  rw [f.script] at hscript
  cases hs : τ.script with
  | done b =>
    rw [result?_eq_some.2 ⟨hpending, hs⟩] at h
    cases h
  | take step next =>
    rw [hs] at hscript
    cases hscript
  | pause ms next =>
    rw [hs] at hscript
    cases hscript

/-- A strand that has succeeded has gone on from a part that has. -/
theorem script_eq_of_ok {ε : Type} {σ : Strand ι (Except ε α)} {τ : Strand κ (Except ε β)}
    {f : β → ExceptT ε Script α} (follows : σ.Follows τ (ExceptT.bindCont f)) {a : α}
    (h : σ.result? = some (.ok a)) : ∃ b, (f b).run = .done (.ok a) := by
  cases hτ : τ.result? with
  | none => exact absurd (h.symm.trans (follows.result?_eq_none hτ)) nofun
  | some outcome =>
    obtain ⟨-, hscript⟩ := follows.ended hτ
    rw [(result?_eq_some.1 h).2] at hscript
    cases outcome with
    | ok b => exact ⟨b, hscript.symm⟩
    | error e => cases hscript

end Strand.Follows

namespace Pool

/-- The session and the history of a pool, for a strand that is not in it. -/
def beside (p : Pool ι α) : Pool κ β := { session := p.session, history := p.history }

/-- What a strand adds to the history its part would have added. -/
theorem history_advance_of_follows {p : Pool ι α} {σ : Strand ι α} {τ : Strand κ β}
    {g : β → Script α} (f : σ.Follows τ g) (h : τ.result? = none) (i : Nat)
    (order : List String) :
    (p.advance i σ order).history = ((p.beside : Pool κ β).advance i τ order).history := by
  show p.history ++ ((σ.go p.session order).1.map _).toList = _
  rw [(f.go h p.session order).1]
  rfl

variable {launch : ι → Script α}

/-! ## Whose variables a strand writes -/

/-- Whether a strand writes only to the scopes that belong to what it was started as, and to such
that were opened since there have been `base` of them. -/
def Owned (owns : ι → Set Nat) (base : Nat) (σ : Strand ι α) : Prop :=
  ∃ own, σ.script.Minds own ∧ ∀ scope ∈ own, scope ∈ owns σ.origin ∨ base ≤ scope

section Owned

variable {owns : ι → Set Nat} {base : Nat} {p : Pool ι α} {i : Nat} {σ : Strand ι α}

theorem length_scopes_advance (p : Pool ι α) (i : Nat) (σ : Strand ι α) (order : List String) :
    p.session.scopes.length ≤ (p.advance i σ order).session.scopes.length := by
  rw [advance, Strand.go]
  split
  · exact Nat.le_refl _
  · split
    · exact Nat.le_refl _
    · exact Nat.le_refl _
    · split
      · exact Nat.le_refl _
      · exact Session.length_scopes_take ..

/-- What a strand opens was not there before, so it stays with what it owns. -/
theorem Owned.go (h : Owned owns base σ) {s : Session} (hbase : base ≤ s.scopes.length)
    (order : List String) : Owned owns base (σ.go s order).2.1 := by
  obtain ⟨own, hminds, hown⟩ := h
  rw [Owned, (σ.frame_go s order).1]
  cases hp : σ.pending with
  | cons d rest =>
    rw [Strand.go_pending hp]
    exact ⟨own, hminds, hown⟩
  | nil =>
    cases hs : σ.script with
    | done a =>
      rw [Strand.go_done hp hs]
      exact ⟨own, hminds, hown⟩
    | pause ms next =>
      rw [hs] at hminds
      rw [Strand.go_pause hp hs]
      exact ⟨own, hminds, hown⟩
    | take step next =>
      rw [hs] at hminds
      have hgrown : ∀ scope ∈ Taken.owned ⟨step, (s.take step).1⟩ own,
          scope ∈ owns σ.origin ∨ base ≤ scope := by
        intro scope hscope
        rcases hscope with hscope | hopened
        · exact hown scope hscope
        · exact .inr (Session.opens?_take hopened ▸ hbase)
      cases hdeeds : s.deeds? order step with
      | some deeds =>
        rw [Strand.go_sweep hp hs hdeeds]
        exact ⟨_, hminds.2 _, hgrown⟩
      | none =>
        rw [Strand.go_step hp hs hdeeds]
        exact ⟨_, hminds.2 _, hgrown⟩

/-- **A strand leaves the variables of a scope as they are that it does not own.** -/
theorem Owned.store_advance (h : Owned owns base σ) {scope : Nat}
    (hbase : base ≤ p.session.scopes.length) (hscope : scope < base) (hown : scope ∉ owns σ.origin)
    (order : List String) : (p.advance i σ order).session.store scope = p.session.store scope := by
  obtain ⟨own, hminds, howned⟩ := h
  have hnot : scope ∉ own := fun hmem => (howned scope hmem).elim hown (Nat.not_le.2 hscope)
  rw [advance]
  cases hp : σ.pending with
  | cons d rest =>
    rw [Strand.go_pending hp]
    rfl
  | nil =>
    cases hs : σ.script with
    | done a => rw [Strand.go_done hp hs]
    | pause ms next => rw [Strand.go_pause hp hs]
    | take step next =>
      rw [hs] at hminds
      cases hdeeds : p.session.deeds? order step with
      | some deeds => rw [Strand.go_sweep hp hs hdeeds]
      | none =>
        rw [Strand.go_step hp hs hdeeds]
        exact Session.store_take (Nat.lt_of_lt_of_le hscope hbase) fun hw =>
          hnot (hminds.1 scope hw)

end Owned

/-- **In a run strands write only to what they own**, if their scripts do. -/
theorem owns_play {owns : ι → Set Nat} (hlaunch : ∀ origin, (launch origin).Minds (owns origin))
    (s : Session) (moves : List (Move ι)) :
    s.scopes.length ≤ (play launch s moves).session.scopes.length ∧
      ∀ σ ∈ (play launch s moves).strands, Owned owns s.scopes.length σ := by
  refine play_induction (P := fun p => s.scopes.length ≤ p.session.scopes.length ∧
    ∀ σ ∈ p.strands, Owned owns s.scopes.length σ) ⟨Nat.le_refl _, nofun⟩ (fun p mv hp => ?_) moves
  obtain ⟨hlength, howned⟩ := hp
  cases mv with
  | start origin =>
    refine ⟨hlength, fun σ hσ => ?_⟩
    rcases List.mem_append.1 hσ with hσ | hσ
    · exact howned σ hσ
    · cases List.mem_singleton.1 hσ
      exact ⟨owns origin, hlaunch origin, fun _ => .inl⟩
  | go i order =>
    rw [move]
    split
    · next σ hi =>
      split
      · refine ⟨Nat.le_trans hlength (p.length_scopes_advance i σ order), fun τ hτ => ?_⟩
        rcases List.mem_or_eq_of_mem_set hτ with hτ | rfl
        · exact howned τ hτ
        · exact (howned σ (List.mem_of_getElem? hi)).go hlength order
      · exact ⟨hlength, howned⟩
    · exact ⟨hlength, howned⟩
  | pass ms => exact ⟨hlength, howned⟩

end Pool

/-- What a strand does not write to is as it was when the strand goes on. -/
theorem Strand.Obeys.get?_go {P : Step → Prop} {Q : α → Prop} {h : List Happening} {i : Nat}
    {σ : Strand ι α} (o : σ.Obeys P Q h i) {s : Session} {scope : Nat} {name : String}
    (hscope : scope < s.scopes.length)
    (hP : ∀ step, P step → ∀ value, step ≠ .write scope name value) (order : List String) :
    ((σ.go s order).2.2.store scope).get? name = (s.store scope).get? name := by
  have hscript := o.script
  cases hp : σ.pending with
  | cons d rest =>
    rw [go_pending hp]
    rfl
  | nil =>
    cases hs : σ.script with
    | done a => rw [go_done hp hs]
    | pause ms next => rw [go_pause hp hs]
    | take step next =>
      rw [hs] at hscript
      cases hdeeds : s.deeds? order step with
      | some deeds => rw [go_sweep hp hs hdeeds]
      | none =>
        rw [go_step hp hs hdeeds]
        exact Session.get?_take hscope (hP step hscript.1)

/-! ## What was started -/

/-- What is started by a move. -/
def Move.started? : Move ι → Option ι
  | start origin => some origin
  | _ => none

/-- The strands of a run are what its moves have started, in order. -/
theorem Pool.origins_play {launch : ι → Script α} (s : Session) (moves : List (Move ι)) :
    (play launch s moves).strands.map (·.origin) = moves.filterMap Move.started? := by
  induction moves using List.reverseRecOn with
  | nil => rfl
  | append_singleton moves mv ih =>
    rw [List.filterMap_append, ← ih, play, List.foldl_append]
    show ((play launch s moves).move launch mv).strands.map _ = _
    cases mv with
    | start origin => exact List.map_append ..
    | go i order =>
      rw [List.filterMap_cons_none rfl, List.filterMap_nil, List.append_nil, Pool.move]
      split
      · next σ hi =>
        split
        · have horigin : ((play launch s moves).strands.map (·.origin))[i]? = some σ.origin := by
            rw [List.getElem?_map, hi]
            rfl
          obtain ⟨hlt, horigin⟩ := List.getElem?_eq_some_iff.1 horigin
          rw [advance, List.map_set, (σ.frame_go _ order).1, ← horigin]
          exact List.set_getElem_self hlt
        · rfl
      · rfl
    | pass ms => exact (List.append_nil _).symm

end Scenario
