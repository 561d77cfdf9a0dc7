import Scenario.Session.Script
import Scenario.Proofs.Correlation.Act

/-!
# Scripts side by side

Scripts that run at the same time share one session, and so one set of tables.  How their steps fall
between each other is not up to them: a table locks one key at a time, so that a step which comes by
all keys of a table can be interrupted after each of them.  A pool leaves all of this open.  It does
one thing after the other, each of them so small that nothing can come in between, and which is next
is a free choice; what holds of all pools holds of every way in which the scripts can run.

## What is here

* `Deed` is what is done to one key of one table.  A step is a deed, or a list of deeds
  (`Session.deeds?`), or does not touch the tables.
* `Strand` is a script on its way, and `Strand.go` lets it go on until its next deed.
* `Pool` is a session with its strands and the history of what they did, and `Move` what can happen
  next: a strand is started, a strand goes on, time passes.  `Pool.play` makes moves one after the
  other.
* `Pool.AlwaysPrompt` — in a run no strand is ever late.  Most of what is said of pools does not
  need it; what is said of the time at which something is done does.
* `Session.foldl_perform_deeds` and `Session.tables_take` tie the deeds to the steps: done without
  a break, they are what the step is.
* `Strand.go_pending`, `Strand.go_done`, `Strand.go_pause`, `Strand.go_sweep` and `Strand.go_step`
  are the cases of `Strand.go`; `Strand.tables_go` and `Strand.frame_go` say what they have in
  common.
-/

set_option autoImplicit false

namespace Scenario

open Correlation

/-! ## Deeds -/

/-- Something that is done to one key of the table of a manager. -/
structure Deed where
  manager : Manager
  key : String
  act : Act Message
deriving Repr

namespace Session

/-- Does a deed now and hands out what there is to hand out. -/
def perform (s : Session) (d : Deed) : Option Message × Session :=
  ((s.table d.manager.table).handed? d.key d.act,
    s.changeTable d.manager.table (·.act s.clock d.manager.retention d.key d.act))

/-- The keys that a step comes by which concerns all keys of a table: those in the given order,
if it has all of them. -/
def sweep (s : Session) (m : Manager) (order : List String) : List String :=
  let names := (s.table m.table).entries.names
  if names.all order.contains then order else names

/-- The deeds of which a step consists that concerns all keys of a table. -/
def deeds? (s : Session) (order : List String) : Step → Option (List Deed)
  | .purge m => some ((s.sweep m order).map (⟨m, ·, .visit⟩))
  | .storeReply m key reply =>
    some ((s.sweep m order).map (⟨m, ·, .visit⟩) ++ [⟨m, key, .put reply⟩])
  | .clear m => some ((s.sweep m order).map (⟨m, ·, .drop⟩))
  | _ => none

end Session

/-- The deed that a step is which concerns one key of a table. -/
def Step.deed? : Step → Option Deed
  | createKey m key => some ⟨m, key, .create⟩
  | claimReply m key => some ⟨m, key, .claim⟩
  | discardKey m key => some ⟨m, key, .discard⟩
  | expireKey m key => some ⟨m, key, .expire⟩
  | _ => none

/-- A step that concerns all keys is no single deed. -/
theorem Step.deed?_of_deeds? {s : Session} {order : List String} {step : Step}
    {deeds : List Deed} (h : s.deeds? order step = some deeds) : step.deed? = none := by
  cases step <;> first | rfl | cases h

/-! ## Strands -/

/-- A script that runs beside others. -/
structure Strand (ι α : Type) where
  /-- What it was started as. -/
  origin : ι
  /-- How many deeds had been done before it started. -/
  begun : Nat
  /-- When it started. -/
  since : Nat
  /-- It does not go on before this time. -/
  due : Nat
  /-- What is left to do of a step that concerns all keys. -/
  pending : List Deed := []
  /-- What is left to do after that. -/
  script : Script α

/-- What a strand has ended with. -/
def Strand.result? {ι α : Type} (σ : Strand ι α) : Option α :=
  match σ.pending, σ.script with
  | [], .done a => some a
  | _, _ => none

/-- A deed that was done. -/
structure Happening where
  /-- The number of the strand. -/
  strand : Nat
  time : Nat
  deed : Deed
  /-- What was handed out. -/
  handed : Option Message
deriving Repr

variable {ι α : Type}

/-- Lets a strand go on, at most to its next deed. -/
def Strand.go (σ : Strand ι α) (s : Session) (order : List String) :
    Option Deed × Strand ι α × Session :=
  match σ.pending with
  | d :: rest => (some d, { σ with pending := rest }, (s.perform d).2)
  | [] =>
    match σ.script with
    | .done _ => (none, σ, s)
    | .pause ms next =>
      (none, { σ with due := s.clock + min ms Session.longestPause, script := next () }, s)
    | .take step next =>
      match s.deeds? order step with
      | some deeds => (none, { σ with pending := deeds, script := next (s.take step).1 }, s)
      | none => (step.deed?, { σ with script := next (s.take step).1 }, (s.take step).2)

/-! ## Pools -/

/-- Scripts side by side, and what they have done. -/
structure Pool (ι α : Type) where
  session : Session
  strands : List (Strand ι α) := []
  /-- What was done, in order. -/
  history : List Happening := []

/-- What can happen next. -/
inductive Move (ι : Type) where
  | start (origin : ι)
  /-- A strand goes on.  If it begins to come by all keys, it does so in this order. -/
  | go (strand : Nat) (order : List String)
  | pass (ms : Nat)
deriving Repr

namespace Pool

variable (launch : ι → Script α)

/-- The strand that starts now. -/
def fresh (p : Pool ι α) (origin : ι) : Strand ι α where
  origin := origin
  begun := p.history.length
  since := p.session.clock
  due := p.session.clock
  script := launch origin

/-- The pool in which a strand has gone on. -/
def advance (p : Pool ι α) (n : Nat) (σ : Strand ι α) (order : List String) : Pool ι α :=
  let r := σ.go p.session order
  { session := r.2.2
    strands := p.strands.set n r.2.1
    history := p.history ++
      (r.1.map fun d => ⟨n, p.session.clock, d, (p.session.perform d).1⟩).toList }

/-- What comes of a move.  A strand that does not exist or is not due stays as it is. -/
def move (p : Pool ι α) : Move ι → Pool ι α
  | .start origin => { p with strands := p.strands ++ [p.fresh launch origin] }
  | .go n order =>
    match p.strands[n]? with
    | some σ => if σ.due ≤ p.session.clock then p.advance n σ order else p
    | none => p
  | .pass ms => { p with session := p.session.passTo (p.session.clock + ms) }

/-- What comes of moves one after the other. -/
def play (s : Session) (moves : List (Move ι)) : Pool ι α :=
  moves.foldl (move launch) { session := s }

/-- Whether no strand is late: each that has not ended is due now or later. -/
def isPrompt (p : Pool ι α) : Bool :=
  p.strands.all fun σ => σ.result?.isSome || p.session.clock ≤ σ.due

/-- Whether no strand is late now, nor at any time while these moves are made. -/
def promptDuring : Pool ι α → List (Move ι) → Bool
  | p, [] => p.isPrompt
  | p, mv :: moves => p.isPrompt && promptDuring (p.move launch mv) moves

/-- Whether no strand is ever late while these moves are made. -/
def AlwaysPrompt (s : Session) (moves : List (Move ι)) : Prop :=
  promptDuring launch { session := s } moves

theorem isPrompt_iff {p : Pool ι α} :
    p.isPrompt ↔ ∀ σ ∈ p.strands, σ.result? = none → p.session.clock ≤ σ.due := by
  simp only [isPrompt, List.all_eq_true, Bool.or_eq_true, decide_eq_true_eq]
  refine forall_congr' fun σ => forall_congr' fun _ => ?_
  cases σ.result? <;> simp

variable {launch} in
theorem AlwaysPrompt.take {s : Session} {moves : List (Move ι)}
    (h : AlwaysPrompt launch s moves) (l : Nat) : (play launch s (moves.take l)).isPrompt := by
  have hfrom : ∀ (moves : List (Move ι)) (p : Pool ι α) (l : Nat), promptDuring launch p moves →
      ((moves.take l).foldl (move launch) p).isPrompt := by
    intro moves
    induction moves with
    | nil =>
      intro p l h
      rw [List.take_nil]
      exact h
    | cons mv rest ih =>
      intro p l h
      rw [promptDuring, Bool.and_eq_true] at h
      cases l with
      | zero => exact h.1
      | succ l => exact ih (p.move launch mv) l h.2
  exact hfrom moves { session := s } l h

end Pool

/-! ## What a strand does to a session -/

namespace Session

theorem mem_sweep (s : Session) (m : Manager) (order : List String) {k : String}
    (hk : k ∈ (s.table m.table).entries.names) : k ∈ s.sweep m order := by
  rw [sweep]
  split
  · next hall => simpa using List.all_eq_true.1 hall k hk
  · exact hk

theorem changeTable_congr {s : Session} {n : Nat} {f g : Table Message → Table Message}
    (h : f (s.table n) = g (s.table n)) : s.changeTable n f = s.changeTable n g := by
  have hmodify : s.tables.modify n f = s.tables.modify n g := by
    refine List.ext_getElem? fun i => ?_
    rw [List.getElem?_modify, List.getElem?_modify]
    split
    · next hi =>
      subst hi
      rw [table, List.getD_eq_getElem?_getD] at h
      cases ht : s.tables[n]? with
      | none => rfl
      | some t =>
        rw [ht] at h
        exact congrArg some h
    · rfl
  rw [changeTable, hmodify, changeTable]

/-- Deeds under the same manager change its table one after the other. -/
theorem foldl_perform (s : Session) (m : Manager) (acts : List (String × Act Message)) :
    (acts.map fun a => Deed.mk m a.1 a.2).foldl (fun s d => (s.perform d).2) s =
      s.changeTable m.table fun t =>
        acts.foldl (fun t a => t.act s.clock m.retention a.1 a.2) t := by
  induction acts generalizing s with
  | nil =>
    show s = { s with tables := s.tables.modify m.table id }
    rw [List.modify_id]
  | cons a rest ih =>
    rw [List.map_cons, List.foldl_cons, ih]
    simp [perform, changeTable, List.modify_modify_eq, Function.comp_def]

/-- **A step that concerns all keys is its deeds one after the other**, if nothing else comes in
between, whatever the order of the keys. -/
theorem foldl_perform_deeds {s : Session} {order : List String} {step : Step} {deeds : List Deed}
    (h : s.deeds? order step = some deeds) (hdistinct : ∀ n, (s.table n).entries.Distinct) :
    deeds.foldl (fun s d => (s.perform d).2) s = (s.take step).2 := by
  have hvisits : ∀ m : Manager,
      ((s.sweep m order).map fun k => (k, Act.visit)).foldl
          (fun t a => t.act s.clock m.retention a.1 a.2) (s.table m.table) =
        (s.table m.table).purge s.clock m.retention := by
    intro m
    rw [List.foldl_map]
    exact Table.foldl_visit _ _ (hdistinct m.table) fun k hk => s.mem_sweep m order hk
  cases step with
  | purge m =>
    cases h
    have := s.foldl_perform m ((s.sweep m order).map fun k => (k, .visit))
    rw [List.map_map] at this
    exact this.trans (changeTable_congr (hvisits m))
  | storeReply m key reply =>
    cases h
    have := s.foldl_perform m ((s.sweep m order).map (fun k => (k, .visit)) ++ [(key, .put reply)])
    rw [List.map_append, List.map_map] at this
    refine this.trans (changeTable_congr ?_)
    rw [List.foldl_append, hvisits m]
    rfl
  | clear m =>
    cases h
    have := s.foldl_perform m ((s.sweep m order).map fun k => (k, .drop))
    rw [List.map_map] at this
    refine this.trans (changeTable_congr ?_)
    rw [List.foldl_map]
    exact Table.foldl_drop _ fun k hk => s.mem_sweep m order hk
  | _ => cases h

theorem table_perform {s : Session} {n : Nat} (hn : n < s.tables.length) (d : Deed) :
    (s.perform d).2.table n =
      if d.manager.table = n then (s.table n).act s.clock d.manager.retention d.key d.act
      else s.table n := by
  simp only [perform, changeTable, table, List.getD_eq_getElem?_getD, List.getElem?_modify,
    List.getElem?_eq_getElem hn]
  split <;> rfl

theorem distinct_perform {s : Session} (h : ∀ n, (s.table n).entries.Distinct) (d : Deed)
    (n : Nat) :
    ((s.perform d).2.table n).entries.Distinct := by
  rcases Nat.lt_or_ge n s.tables.length with hn | hn
  · rw [table_perform hn]
    split
    · exact Table.distinct_act (h n) ..
    · exact h n
  · have hnone : (s.perform d).2.tables[n]? = none := by
      rw [List.getElem?_eq_none_iff, perform, changeTable, List.length_modify]
      exact hn
    rw [table, List.getD_eq_getElem?_getD, hnone]
    exact List.nodup_nil

/-- Only a claim hands out anything. -/
theorem perform_of_ne_claim (s : Session) {d : Deed} (h : d.act ≠ .claim) :
    (s.perform d).1 = none := by
  rw [perform]
  cases hd : d.act with
  | claim => exact absurd hd h
  | _ => rfl

@[simp] theorem length_tables_perform (s : Session) (d : Deed) :
    (s.perform d).2.tables.length = s.tables.length :=
  List.length_modify ..

/-- A step that concerns one key of a table is its deed; one that concerns no table leaves the
tables alone. -/
theorem tables_take {s : Session} {order : List String} {step : Step}
    (h : s.deeds? order step = none) :
    (s.take step).2.tables = (step.deed?.elim s fun d => (s.perform d).2).tables := by
  cases step <;> first | rfl | simp [deeds?] at h

end Session

namespace Strand

variable {σ : Strand ι α} {s : Session} {order : List String}

theorem result?_eq_some {a : α} :
    σ.result? = some a ↔ σ.pending = [] ∧ σ.script = .done a := by
  rw [result?]
  constructor
  · intro h
    split at h
    · next hp hs =>
      cases h
      exact ⟨hp, hs⟩
    · cases h
  · rintro ⟨hp, hs⟩
    rw [hp, hs]

theorem result?_of_take {step : Step} {next : step.Yield → Script α}
    (hs : σ.script = .take step next) : σ.result? = none := by
  refine Option.eq_none_iff_forall_ne_some.2 fun a ha => ?_
  have hdone := (result?_eq_some.1 ha).2
  rw [hs] at hdone
  cases hdone

theorem result?_of_pause {ms : Nat} {next : Unit → Script α} (hs : σ.script = .pause ms next) :
    σ.result? = none := by
  refine Option.eq_none_iff_forall_ne_some.2 fun a ha => ?_
  have hdone := (result?_eq_some.1 ha).2
  rw [hs] at hdone
  cases hdone

theorem go_pending {d : Deed} {rest : List Deed} (h : σ.pending = d :: rest) :
    σ.go s order = (some d, { σ with pending := rest }, (s.perform d).2) := by
  simp only [go, h]

theorem go_done {a : α} (h : σ.pending = []) (hs : σ.script = .done a) :
    σ.go s order = (none, σ, s) := by
  simp only [go, h, hs]

theorem go_pause {ms : Nat} {next : Unit → Script α} (h : σ.pending = [])
    (hs : σ.script = .pause ms next) :
    σ.go s order =
      (none, { σ with due := s.clock + min ms Session.longestPause, script := next () }, s) := by
  simp only [go, h, hs]

theorem go_sweep {step : Step} {next : step.Yield → Script α} {deeds : List Deed}
    (h : σ.pending = []) (hs : σ.script = .take step next)
    (hdeeds : s.deeds? order step = some deeds) :
    σ.go s order = (none, { σ with pending := deeds, script := next (s.take step).1 }, s) := by
  simp only [go, h, hs, hdeeds]

theorem go_step {step : Step} {next : step.Yield → Script α} (h : σ.pending = [])
    (hs : σ.script = .take step next) (hdeeds : s.deeds? order step = none) :
    σ.go s order =
      (step.deed?, { σ with script := next (s.take step).1 }, (s.take step).2) := by
  simp only [go, h, hs, hdeeds]

/-- A strand that goes on changes the tables by its deed. -/
theorem tables_go (σ : Strand ι α) (s : Session) (order : List String) :
    (σ.go s order).2.2.tables =
      ((σ.go s order).1.elim s fun d => (s.perform d).2).tables := by
  rw [go]
  split
  · rfl
  · split
    · rfl
    · rfl
    · split
      · rfl
      · next h => exact Session.tables_take h

theorem clock_go (σ : Strand ι α) (s : Session) (order : List String) :
    (σ.go s order).2.2.clock = s.clock := by
  rw [go]
  split
  · rfl
  · split
    · rfl
    · rfl
    · split
      · rfl
      · exact Session.clock_take _ _

/-- What a strand was started as, and when, does not change. -/
theorem frame_go (σ : Strand ι α) (s : Session) (order : List String) :
    (σ.go s order).2.1.origin = σ.origin ∧ (σ.go s order).2.1.begun = σ.begun ∧
      (σ.go s order).2.1.since = σ.since := by
  rw [go]
  split
  · exact ⟨rfl, rfl, rfl⟩
  · split
    · exact ⟨rfl, rfl, rfl⟩
    · exact ⟨rfl, rfl, rfl⟩
    · split <;> exact ⟨rfl, rfl, rfl⟩

theorem due_go (σ : Strand ι α) (s : Session) (order : List String) :
    (σ.go s order).2.1.due = σ.due ∨ s.clock ≤ (σ.go s order).2.1.due := by
  rw [go]
  split
  · exact .inl rfl
  · split
    · exact .inl rfl
    · exact .inr (Nat.le_add_right _ _)
    · split <;> exact .inl rfl

end Strand

end Scenario
