import Scenario.Proofs.Session.History

/-!
# One strand among others

What can be said of one strand of a pool, whatever the other strands do.  Such a statement is about
the strand and the history: others only make the history longer.

## What is here

* `Pool.play_strands_in` and `Pool.play_strands` — a statement that holds when a strand starts and
  survives what the strand itself does, and what others do, holds at the end of every run.
* `Pool.turns` — how often a strand goes on; `Pool.strands_move_of_not_turn` and `Pool.move_of_turn`
  are the two kinds of moves for it.
* `Script.Obeys` — all steps that a script can take, and all values that it can end with, are of
  some kind.  `Pool.obeys_play` says that then the strands of a run that follow such scripts do
  only deeds of this kind, and end only with such values.
-/

set_option autoImplicit false

namespace Scenario

open Correlation

variable {ι α : Type}

/-- What others add to the history is not by this strand. -/
theorem getElem?_of_append_others {h others : List Happening} {i j : Nat} {e : Happening}
    (hothers : ∀ e ∈ others, e.strand ≠ i) (hj : (h ++ others)[j]? = some e) (he : e.strand = i) :
    h[j]? = some e := by
  rcases Nat.lt_or_ge j h.length with hlt | hge
  · rwa [List.getElem?_append_left hlt] at hj
  · rw [List.getElem?_append_right hge] at hj
    exact absurd he (hothers e (List.mem_of_getElem? hj))

namespace Pool

variable {launch : ι → Script α} {p : Pool ι α}

/-- **A statement about a strand and the session that its start, its own moves, those of others and
time keep true holds after every run.**  Of the pool itself the argument may use what holds all
along. -/
theorem play_strands_in {R : Pool ι α → Prop}
    {I : Session → List Happening → Nat → Strand ι α → Prop}
    {s : Session} {moves : List (Move ι)}
    (hR : ∀ l ≤ moves.length, R (play launch s (moves.take l)))
    (start : ∀ p origin, R p → I p.session p.history p.strands.length (p.fresh launch origin))
    (go : ∀ p i σ order, R p → p.strands[i]? = some σ → σ.due ≤ p.session.clock →
      I p.session p.history i σ →
      I (p.advance i σ order).session (p.advance i σ order).history i (σ.go p.session order).2.1)
    (other : ∀ p i σ j τ order, R p → p.strands[i]? = some σ → p.strands[j]? = some τ → j ≠ i →
      I p.session p.history i σ →
      I (p.advance j τ order).session (p.advance j τ order).history i σ)
    (pass : ∀ p i σ time, R p → I p.session p.history i σ → I (p.session.passTo time) p.history i σ)
    {i : Nat} {σ : Strand ι α} (hσ : (play launch s moves).strands[i]? = some σ) :
    I (play launch s moves).session (play launch s moves).history i σ := by
  induction moves using List.reverseRecOn generalizing i σ with
  | nil => cases hσ
  | append_singleton moves mv ih =>
    have hplay : play launch s (moves ++ [mv]) = (play launch s moves).move launch mv := by
      rw [play, List.foldl_append]
      rfl
    have hbefore : ∀ l ≤ moves.length, R (play launch s (moves.take l)) := by
      intro l hl
      have hRl := hR l (by rw [List.length_append]; omega)
      rwa [List.take_append_of_le_length hl] at hRl
    have hnow : R (play launch s moves) := by
      have := hbefore moves.length (Nat.le_refl _)
      rwa [List.take_length] at this
    rw [hplay] at hσ ⊢
    revert hσ
    cases mv with
    | start origin =>
      rw [move]
      intro hσ
      rcases Nat.lt_or_ge i (play launch s moves).strands.length with hlt | hge
      · rw [List.getElem?_append_left hlt] at hσ
        exact ih hbefore hσ
      · have hi := (List.getElem?_eq_some_iff.1 hσ).1
        rw [List.length_append, List.length_singleton] at hi
        obtain rfl : i = (play launch s moves).strands.length := by omega
        rw [List.getElem?_concat_length] at hσ
        cases hσ
        exact start _ origin hnow
    | go j order =>
      rw [move]
      split
      · next τ hj =>
        split
        · next hdue =>
          intro hσ
          by_cases hij : j = i
          · subst hij
            rw [advance, List.getElem?_set_self (List.getElem?_eq_some_iff.1 hj).1] at hσ
            cases hσ
            exact go _ j τ order hnow hj hdue (ih hbefore hj)
          · rw [advance, List.getElem?_set_ne hij] at hσ
            exact other _ i σ j τ order hnow hσ hj hij (ih hbefore hσ)
        · exact ih hbefore
      · exact ih hbefore
    | pass ms => exact fun hσ => pass _ i σ _ hnow (ih hbefore hσ)

/-- The same about a strand and the history: others only add to that. -/
theorem play_strands {R : Pool ι α → Prop} {I : List Happening → Nat → Strand ι α → Prop}
    {s : Session} {moves : List (Move ι)}
    (hR : ∀ l ≤ moves.length, R (play launch s (moves.take l)))
    (start : ∀ p origin, R p → I p.history p.strands.length (p.fresh launch origin))
    (go : ∀ p i σ order, R p → p.strands[i]? = some σ → σ.due ≤ p.session.clock →
      I p.history i σ → I (p.advance i σ order).history i (σ.go p.session order).2.1)
    (other : ∀ h others i σ, I h i σ → (∀ e ∈ others, e.strand ≠ i) → I (h ++ others) i σ)
    {i : Nat} {σ : Strand ι α} (hσ : (play launch s moves).strands[i]? = some σ) :
    I (play launch s moves).history i σ := by
  refine play_strands_in (I := fun _ h i σ => I h i σ) hR start go ?_ (fun _ _ _ _ _ => id) hσ
  intro p i σ j τ order _ _ _ hij ih
  refine other _ _ i σ ih fun e he => ?_
  obtain ⟨d, -, rfl⟩ := Option.map_eq_some_iff.1 (Option.mem_toList.1 he)
  exact hij

/-- Every deed of a run was done by one of its strands. -/
theorem own_play (s : Session) (moves : List (Move ι)) :
    ∀ e ∈ (play launch s moves).history, e.strand < (play launch s moves).strands.length := by
  refine play_induction (P := fun p => ∀ e ∈ p.history, e.strand < p.strands.length) nofun
    (fun p mv hown => ?_) moves
  cases mv with
  | start origin =>
    intro e he
    rw [move, List.length_append]
    exact Nat.lt_add_right _ (hown e he)
  | go i order =>
    rw [move]
    split
    · next σ hi =>
      split
      · intro e he
        rw [advance, List.length_set]
        rcases mem_history_advance he with he | ⟨hi', -⟩
        · exact hown e he
        · exact hi' ▸ (List.getElem?_eq_some_iff.1 hi).1
      · exact hown
    · exact hown
  | pass ms => exact hown

/-- Only claims hand out anything. -/
theorem handed_play (s : Session) (moves : List (Move ι)) :
    ∀ e ∈ (play launch s moves).history, e.deed.act ≠ .claim → e.handed = none := by
  refine play_induction (P := fun p => ∀ e ∈ p.history, e.deed.act ≠ .claim → e.handed = none)
    nofun (fun p mv hp => ?_) moves
  cases mv with
  | start origin => exact hp
  | go i order =>
    rw [move]
    split
    · next σ _ =>
      split
      · intro e he hact
        obtain ⟨j, hj⟩ := List.mem_iff_getElem?.1 he
        rcases getElem?_history_advance hj with hj | ⟨-, d, -, rfl⟩
        · exact hp e (List.mem_of_getElem? hj) hact
        · exact Session.perform_of_ne_claim _ hact
      · exact hp
    · exact hp
  | pass ms => exact hp

/-- The same about the strands that were started as one and the same thing. -/
theorem play_strands_of {R : Pool ι α → Prop} {I : List Happening → Nat → Strand ι α → Prop}
    {s : Session} {moves : List (Move ι)} {origin : ι}
    (hR : ∀ l ≤ moves.length, R (play launch s (moves.take l)))
    (start : ∀ p, R p → I p.history p.strands.length (p.fresh launch origin))
    (go : ∀ p i σ order, R p → p.strands[i]? = some σ → σ.due ≤ p.session.clock →
      I p.history i σ → I (p.advance i σ order).history i (σ.go p.session order).2.1)
    (other : ∀ h others i σ, I h i σ → (∀ e ∈ others, e.strand ≠ i) → I (h ++ others) i σ)
    {i : Nat} {σ : Strand ι α} (hσ : (play launch s moves).strands[i]? = some σ)
    (horigin : σ.origin = origin) : I (play launch s moves).history i σ := by
  revert horigin
  refine play_strands (I := fun h i σ => σ.origin = origin → I h i σ) hR ?_ ?_ ?_ hσ
  · rintro p o hp rfl
    exact start p hp
  · intro p i σ order hp hi hdue ih horigin
    rw [(σ.frame_go p.session order).1] at horigin
    exact go p i σ order hp hi hdue (ih horigin)
  · intro h others i σ ih hothers horigin
    exact other h others i σ (ih horigin) hothers

end Pool

/-- Whether all that a strand has done comes after its start. -/
structure Strand.Begun (h : List Happening) (i : Nat) (σ : Strand ι α) : Prop where
  due : σ.since ≤ σ.due
  length : σ.begun ≤ h.length
  own : ∀ (j : Nat) (e : Happening), h[j]? = some e → e.strand = i →
    σ.begun ≤ j ∧ σ.since ≤ e.time

theorem Pool.begun_play {launch : ι → Script α} {s : Session} {n : Nat}
    (hempty : s.tables[n]? = some {}) {moves : List (Move ι)} {i : Nat} {σ : Strand ι α}
    (hσ : (play launch s moves).strands[i]? = some σ) :
    σ.Begun (play launch s moves).history i := by
  revert hσ
  refine play_strands (R := fun p => p.Coherent n) (I := fun h i σ => σ.Begun h i)
    (fun l _ => coherent_play hempty _) ?_ ?_ ?_
  · intro p origin c
    refine ⟨Nat.le_refl _, Nat.le_refl _, fun j e hj hi => ?_⟩
    exact absurd hi (Nat.ne_of_lt (c.own e (List.mem_of_getElem? hj)))
  · intro p i σ order _ _ hdue b
    obtain ⟨-, hbegun, hsince⟩ := σ.frame_go p.session order
    refine ⟨?_, ?_, fun j e hj hi => ?_⟩
    · rw [hsince]
      have hstart := b.due
      rcases σ.due_go p.session order with hd | hd <;> omega
    · rw [hbegun]
      exact Nat.le_trans b.length (history_prefix_advance i σ order).length_le
    · rw [hbegun, hsince]
      rcases getElem?_history_advance hj with hj | ⟨rfl, d, -, rfl⟩
      · exact b.own j e hj hi
      · exact ⟨b.length, Nat.le_trans b.due hdue⟩
  · intro h others i σ b hothers
    refine ⟨b.due, ?_, fun j e hj hi => b.own j e (getElem?_of_append_others hothers hj hi) hi⟩
    rw [List.length_append]
    exact Nat.le_add_right_of_le b.length

/-! ## Kinds of scripts -/

/-- Whether every step that a script can take, and every value that it can end with, is of some
kind. -/
def Script.Obeys (P : Step → Prop) (Q : α → Prop) : Script α → Prop
  | done a => Q a
  | take step next => P step ∧ ∀ y, (next y).Obeys P Q
  | pause _ next => (next ()).Obeys P Q

theorem Script.Obeys.bind {β : Type} {P : Step → Prop} {Q : α → Prop} {Q' : β → Prop}
    {x : Script α} {f : α → Script β} (hx : x.Obeys P Q) (hf : ∀ a, Q a → (f a).Obeys P Q') :
    (x.bind f).Obeys P Q' := by
  induction x with
  | done a => exact hf a hx
  | take step next ih => exact ⟨hx.1, fun y => ih y (hx.2 y)⟩
  | pause ms next ih => exact ih () hx

theorem Script.Obeys.mono {P P' : Step → Prop} {Q Q' : α → Prop} {x : Script α} (hx : x.Obeys P Q)
    (hP : ∀ step, P step → P' step) (hQ : ∀ a, Q a → Q' a) : x.Obeys P' Q' := by
  induction x with
  | done a => exact hQ a hx
  | take step next ih => exact ⟨hP step hx.1, fun y => ih y (hx.2 y)⟩
  | pause ms next ih => exact ih () hx

/-- Whether a script can end with a value. -/
def Script.Ends (a : α) : Script α → Prop
  | done b => b = a
  | take _ next => ∃ y, (next y).Ends a
  | pause _ next => (next ()).Ends a

theorem Script.Obeys.ends {P : Step → Prop} {Q : α → Prop} {x : Script α} (hx : x.Obeys P Q) :
    x.Obeys P fun a => x.Ends a := by
  induction x with
  | done a => rfl
  | take step next ih =>
    exact ⟨hx.1, fun y => (ih y (hx.2 y)).mono (fun _ => id) fun a ha => ⟨y, ha⟩⟩
  | pause ms next ih => exact ih () hx

namespace Activity

variable {β : Type} {P : Step → Prop}

/-- What follows an activity is done only if it succeeds. -/
theorem obeys_bind {Q : Except Failure α → Prop} {Q' : Except Failure β → Prop} {x : Activity α}
    {f : α → Activity β} (hx : x.run.Obeys P Q) (he : ∀ e, Q (.error e) → Q' (.error e))
    (hf : ∀ a, Q (.ok a) → (f a).run.Obeys P Q') : (x >>= f).run.Obeys P Q' := by
  refine hx.bind fun outcome houtcome => ?_
  cases outcome with
  | ok a => exact hf a houtcome
  | error e => exact he e houtcome

theorem obeys_lift {Q : α → Prop} {x : Script α} (hx : x.Obeys P Q) :
    (ExceptT.lift x : Activity α).run.Obeys P fun r => ∀ a, r = .ok a → Q a := by
  refine hx.bind fun a ha => ?_
  rintro _ ⟨⟩
  exact ha

theorem obeys_step {s : Step} (hs : P s) : (step s).run.Obeys P fun _ => True :=
  ⟨hs, fun _ => trivial⟩

end Activity

/-- Whether a deed is part of a step, or all of it. -/
def Step.Does (d : Deed) : Step → Prop
  | purge m => d.manager = m ∧ d.act = .visit
  | storeReply m key reply => d.manager = m ∧ (d.act = .visit ∨ d = ⟨m, key, .put reply⟩)
  | clear m => d.manager = m ∧ d.act = .drop
  | step => step.deed? = some d

theorem Session.does_of_mem_deeds? {s : Session} {order : List String} {step : Step}
    {deeds : List Deed} (h : s.deeds? order step = some deeds) {d : Deed} (hd : d ∈ deeds) :
    step.Does d := by
  cases step with
  | purge m | clear m =>
    cases h
    obtain ⟨k, -, rfl⟩ := List.mem_map.1 hd
    exact ⟨rfl, rfl⟩
  | storeReply m key reply =>
    cases h
    rcases List.mem_append.1 hd with hd | hd
    · obtain ⟨k, -, rfl⟩ := List.mem_map.1 hd
      exact ⟨rfl, .inl rfl⟩
    · cases List.mem_singleton.1 hd
      exact ⟨rfl, .inr rfl⟩
  | _ => cases h

/-- What concerns all keys claims nothing. -/
theorem Session.ne_claim_of_mem_deeds? {s : Session} {order : List String} {step : Step}
    {deeds : List Deed} (h : s.deeds? order step = some deeds) {d : Deed} (hd : d ∈ deeds) :
    d.act ≠ .claim := by
  intro hclaim
  have hdoes := does_of_mem_deeds? h hd
  cases step with
  | purge | clear =>
    rw [hdoes.2] at hclaim
    cases hclaim
  | storeReply m key reply =>
    rcases hdoes.2 with hact | rfl
    · rw [hact] at hclaim
      cases hclaim
    · cases hclaim
  | _ => cases h

theorem Session.does_of_deed? {s : Session} {order : List String} {step : Step}
    (h : s.deeds? order step = none) {d : Deed} (hd : step.deed? = some d) : step.Does d := by
  cases step <;> first | exact hd | cases h

/-- Whether a strand has done only deeds that belong to steps of some kind, and will do only such
and end only with values of some kind. -/
structure Strand.Obeys (P : Step → Prop) (Q : α → Prop) (h : List Happening) (i : Nat)
    (σ : Strand ι α) : Prop where
  past : ∀ e ∈ h, e.strand = i → ∃ step, P step ∧ step.Does e.deed
  pending : ∀ d ∈ σ.pending, ∃ step, P step ∧ step.Does d
  script : σ.script.Obeys P Q

namespace Strand

variable {P : Step → Prop} {Q : α → Prop} {h : List Happening} {i : Nat} {σ : Strand ι α}

theorem Obeys.mono {P' : Step → Prop} {Q' : α → Prop} (o : σ.Obeys P Q h i)
    (hP : ∀ step, P step → P' step) (hQ : ∀ a, Q a → Q' a) : σ.Obeys P' Q' h i where
  past e he hi := (o.past e he hi).imp fun step hstep => ⟨hP step hstep.1, hstep.2⟩
  pending d hd := (o.pending d hd).imp fun step hstep => ⟨hP step hstep.1, hstep.2⟩
  script := o.script.mono hP hQ

theorem Obeys.append (o : σ.Obeys P Q h i) {others : List Happening}
    (hothers : ∀ e ∈ others, e.strand ≠ i) : σ.Obeys P Q (h ++ others) i := by
  refine ⟨fun e he hi => ?_, o.pending, o.script⟩
  rcases List.mem_append.1 he with he | he
  · exact o.past e he hi
  · exact absurd hi (hothers e he)

/-- What a strand does next is of that kind. -/
theorem Obeys.deed (o : σ.Obeys P Q h i) {s : Session} {order : List String} {d : Deed}
    (hd : (σ.go s order).1 = some d) : ∃ step, P step ∧ step.Does d := by
  cases hp : σ.pending with
  | cons d' rest =>
    rw [go_pending hp] at hd
    cases hd
    exact o.pending d (by rw [hp]; exact List.mem_cons_self)
  | nil =>
    cases hs : σ.script with
    | done a =>
      rw [go_done hp hs] at hd
      cases hd
    | pause ms next =>
      rw [go_pause hp hs] at hd
      cases hd
    | take step next =>
      have hscript := o.script
      rw [hs] at hscript
      cases hdeeds : s.deeds? order step with
      | some deeds =>
        rw [go_sweep hp hs hdeeds] at hd
        cases hd
      | none =>
        rw [go_step hp hs hdeeds] at hd
        exact ⟨step, hscript.1, Session.does_of_deed? hdeeds hd⟩

theorem Obeys.advance {p : Pool ι α} (o : σ.Obeys P Q p.history i) (order : List String) :
    (σ.go p.session order).2.1.Obeys P Q (p.advance i σ order).history i := by
  have hpast : ∀ e ∈ (p.advance i σ order).history, e.strand = i →
      ∃ step, P step ∧ step.Does e.deed := by
    intro e he hi
    obtain ⟨j, hj⟩ := List.mem_iff_getElem?.1 he
    rcases Pool.getElem?_history_advance hj with hj | ⟨-, d, hd, rfl⟩
    · exact o.past e (List.mem_of_getElem? hj) hi
    · exact o.deed hd
  have hpending := o.pending
  have hscript := o.script
  cases hp : σ.pending with
  | cons d rest =>
    rw [hp] at hpending
    rw [go_pending hp]
    exact ⟨hpast, fun d' hd' => hpending d' (List.mem_cons_of_mem d hd'), hscript⟩
  | nil =>
    cases hs : σ.script with
    | done a =>
      rw [go_done hp hs]
      exact ⟨hpast, hpending, hscript⟩
    | pause ms next =>
      rw [hs] at hscript
      rw [go_pause hp hs]
      exact ⟨hpast, hpending, hscript⟩
    | take step next =>
      rw [hs] at hscript
      cases hdeeds : p.session.deeds? order step with
      | some deeds =>
        rw [go_sweep hp hs hdeeds]
        exact ⟨hpast, fun d hd => ⟨step, hscript.1, Session.does_of_mem_deeds? hdeeds hd⟩,
          hscript.2 _⟩
      | none =>
        rw [go_step hp hs hdeeds]
        exact ⟨hpast, hpending, hscript.2 _⟩

end Strand

/-- A strand of a run does only what its script allows. -/
theorem Pool.obeys_play_of {launch : ι → Script α} {P : Step → Prop} {Q : α → Prop} {origin : ι}
    (hlaunch : (launch origin).Obeys P Q) {s : Session} {moves : List (Move ι)} {i : Nat}
    {σ : Strand ι α} (hσ : (play launch s moves).strands[i]? = some σ)
    (horigin : σ.origin = origin) :
    σ.Obeys P Q (play launch s moves).history i := by
  refine play_strands_of (R := fun p => ∀ e ∈ p.history, e.strand < p.strands.length)
    (I := fun h i τ => τ.Obeys P Q h i) (fun l _ => own_play s _) ?_ ?_ ?_ hσ horigin
  · intro p hown
    refine ⟨fun e he hi => ?_, nofun, hlaunch⟩
    exact absurd hi (Nat.ne_of_lt (hown e he))
  · intro p i σ order _ _ _ o
    exact o.advance order
  · intro h others i σ o hothers
    exact o.append hothers

/-- **The strands of a run do only what their scripts allow, and end only with such values.** -/
theorem Pool.obeys_play {launch : ι → Script α} {P : ι → Step → Prop} {Q : ι → α → Prop}
    (hlaunch : ∀ origin, (launch origin).Obeys (P origin) (Q origin)) {s : Session}
    {moves : List (Move ι)} {i : Nat} {σ : Strand ι α}
    (hσ : (play launch s moves).strands[i]? = some σ) :
    (∀ e ∈ (play launch s moves).history, e.strand = i →
      ∃ step, P σ.origin step ∧ step.Does e.deed) ∧
    ∀ a, σ.result? = some a → Q σ.origin a := by
  have hobeys := obeys_play_of (hlaunch σ.origin) hσ rfl
  refine ⟨hobeys.past, fun a ha => ?_⟩
  have hscript := hobeys.script
  rw [(Strand.result?_eq_some.1 ha).2] at hscript
  exact hscript

/-! ## Turns -/

namespace Pool

variable (launch : ι → Script α)

/-- Whether a move lets a strand go on. -/
def isTurn (p : Pool ι α) (i : Nat) : Move ι → Bool
  | .go j _ => j == i && p.strands[i]?.any fun σ => σ.due ≤ p.session.clock
  | _ => false

/-- How often a strand goes on while these moves are made. -/
def turns (i : Nat) : Pool ι α → List (Move ι) → Nat
  | _, [] => 0
  | p, mv :: moves => (if p.isTurn i mv then 1 else 0) + turns i (p.move launch mv) moves

theorem history_prefix_move (p : Pool ι α) (mv : Move ι) :
    p.history <+: (p.move launch mv).history := by
  cases mv with
  | start | pass => exact List.prefix_rfl
  | go j order =>
    rw [move]
    split
    · split
      · exact history_prefix_advance ..
      · exact List.prefix_rfl
    · exact List.prefix_rfl

theorem history_prefix_foldl (p : Pool ι α) (moves : List (Move ι)) :
    p.history <+: (moves.foldl (move launch) p).history := by
  induction moves generalizing p with
  | nil => exact List.prefix_rfl
  | cons mv rest ih => exact (history_prefix_move launch p mv).trans (ih (p.move launch mv))

variable {p : Pool ι α} {i : Nat} {σ : Strand ι α}

/-- A strand that does not go on stays as it is. -/
theorem strands_move_of_not_turn (hσ : p.strands[i]? = some σ) {mv : Move ι}
    (h : p.isTurn i mv = false) : (p.move launch mv).strands[i]? = some σ := by
  cases mv with
  | start origin =>
    show (p.strands ++ [_])[i]? = some σ
    rw [List.getElem?_append_left (List.getElem?_eq_some_iff.1 hσ).1, hσ]
  | pass ms => exact hσ
  | go j order =>
    rw [move]
    split
    · next τ hτ =>
      split
      · next hdue =>
        have hji : j ≠ i := by
          rintro rfl
          rw [hσ] at hτ
          cases hτ
          simp [isTurn, hσ, hdue] at h
        exact (List.getElem?_set_ne hji).trans hσ
      · exact hσ
    · exact hσ

theorem move_of_turn (hσ : p.strands[i]? = some σ) {mv : Move ι} (h : p.isTurn i mv = true) :
    ∃ order, p.move launch mv = p.advance i σ order := by
  cases mv with
  | start | pass => cases h
  | go j order =>
    simp only [isTurn, Bool.and_eq_true, beq_iff_eq, hσ, Option.any_some, decide_eq_true_eq] at h
    obtain ⟨rfl, hdue⟩ := h
    refine ⟨order, ?_⟩
    rw [move, hσ]
    exact if_pos hdue

end Pool

end Scenario
