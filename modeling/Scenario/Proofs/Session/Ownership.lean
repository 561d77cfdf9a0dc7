import Mathlib.Data.Set.Insert
import Scenario.Proofs.Json.Fields
import Scenario.Proofs.Session.Run
import Scenario.Proofs.Session.Script
import Scenario.Proofs.Session.Weave

/-!
# Whose variables a course writes

Every step names the scope that it works on, so a course could write any variables it likes.  A
course owns the scopes that it was given and those that it opens itself, and this file is about
courses that write only what they own.

The set of scopes that are owned grows with every scope that is opened.  It is part of the
statements, and not of the session: two branches work on the same session and yet own different
scopes.

## What is here

* `OnlyWrites` says it of steps that were taken, `Script.WritesOnly` of scripts and
  `Course.WritesOnly` of courses.  What a script ends with can depend on the scopes it has opened,
  so `Script.WritesOnly` has a postcondition for this.
* `Script.WritesOnly.bind`, `Course.WritesOnly.after`, `Course.WritesOnly.andThen` — what is put
  together from such parts is such itself.
* `Course.WritesOnly.does` and `Course.WritesOnly.woven` — what it means for the steps that such a
  course takes, whatever they yield, and for the variables of a session in which it runs.
-/

set_option autoImplicit false

namespace Scenario

variable {ρ α β : Type}

/-- The scope that a step writes to. -/
def Step.writes? : Step → Option Nat
  | write scope _ _ => some scope
  | _ => none

namespace Taken

/-- The scope that was opened by a step. -/
def opens? : Taken → Option Nat
  | ⟨.copy _, scope⟩ => some scope
  | _ => none

/-- The scopes that are owned after a step. -/
def owned (t : Taken) (own : Set Nat) : Set Nat := {scope | scope ∈ own ∨ t.opens? = some scope}

variable {t : Taken} {own own' : Set Nat}

theorem subset_owned : own ⊆ t.owned own := fun _ => .inl

theorem owned_mono (h : own ⊆ own') : t.owned own ⊆ t.owned own' := fun _ hscope =>
  hscope.imp_left (h ·)

end Taken

/-- Whether steps write only to some scopes and to those that were opened on the way. -/
def OnlyWrites : Set Nat → List Taken → Prop
  | _, [] => True
  | own, t :: rest =>
    (∀ scope, t.step.writes? = some scope → scope ∈ own) ∧ OnlyWrites (t.owned own) rest

/-! ## Scripts -/

/-- Whether a script writes only to some scopes and to those that it opens.  When it ends,
`Q` holds of the scopes that it owns then and of the value that it ends with. -/
def Script.WritesOnly (Q : Set Nat → α → Prop) : Set Nat → Script α → Prop
  | own, .done a => Q own a
  | own, .take step next =>
    (∀ scope, step.writes? = some scope → scope ∈ own) ∧
      ∀ y, (next y).WritesOnly Q (Taken.owned ⟨step, y⟩ own)
  | own, .pause _ next => (next ()).WritesOnly Q own

/-- Whether a script writes only to some scopes and to those that it opens. -/
abbrev Script.Minds (own : Set Nat) (x : Script α) : Prop := x.WritesOnly (fun _ _ => True) own

namespace Script.WritesOnly

variable {Q : Set Nat → α → Prop} {own own' : Set Nat} {x : Script α}

theorem mono {Q' : Set Nat → α → Prop} (hx : x.WritesOnly Q own) (hown : own ⊆ own')
    (hQ : ∀ o o' a, own ⊆ o → o ⊆ o' → Q o a → Q' o' a) : x.WritesOnly Q' own' := by
  induction x generalizing own own' with
  | done a => exact hQ own own' a le_rfl hown hx
  | take step next ih =>
    exact ⟨fun scope hscope => hown (hx.1 scope hscope), fun y =>
      ih y (hx.2 y) (Taken.owned_mono hown) fun o o' a ho =>
        hQ o o' a (Taken.subset_owned.trans ho)⟩
  | pause ms next ih => exact ih () hx hown hQ

theorem bind {Q' : Set Nat → β → Prop} {f : α → Script β} (hx : x.WritesOnly Q own)
    (hf : ∀ o a, own ⊆ o → Q o a → (f a).WritesOnly Q' o) : (x.bind f).WritesOnly Q' own := by
  induction x generalizing own with
  | done a => exact hf own a le_rfl hx
  | take step next ih =>
    exact ⟨hx.1, fun y => ih y (hx.2 y) fun o a ho => hf o a (Taken.subset_owned.trans ho)⟩
  | pause ms next ih => exact ih () hx hf

end Script.WritesOnly

namespace Script.Minds

variable {own own' : Set Nat} {x : Script α}

theorem mono (hx : x.Minds own) (hown : own ⊆ own') : x.Minds own' :=
  WritesOnly.mono hx hown fun _ _ _ _ _ _ => trivial

theorem bind {f : α → Script β} (hx : x.Minds own) (hf : ∀ a, (f a).Minds own) :
    (x.bind f).Minds own :=
  WritesOnly.bind hx fun _ a ho _ => (hf a).mono ho

/-- A single step that writes only what is owned. -/
theorem step {s : Step} (h : ∀ scope, s.writes? = some scope → scope ∈ own) :
    (Script.step s).Minds own :=
  ⟨h, fun _ => trivial⟩

end Script.Minds

/-! ## Activities -/

namespace Activity

variable {own : Set Nat}

theorem minds_ofExcept (e : Except Failure α) : (ofExcept e).run.Minds own := trivial

theorem writesOnly_lift {Q : Set Nat → α → Prop} {x : Script α} (hx : x.WritesOnly Q own) :
    (ExceptT.lift x : Activity α).run.WritesOnly (fun o e => ∀ a, e = .ok a → Q o a) own := by
  refine hx.bind fun o a _ ha => ?_
  rintro _ ⟨⟩
  exact ha

theorem minds_lift {x : Script α} (hx : x.Minds own) :
    (ExceptT.lift x : Activity α).run.Minds own :=
  hx.bind fun _ => trivial

/-- A step that writes only what is owned. -/
theorem minds_step {s : Step} (h : ∀ scope, s.writes? = some scope → scope ∈ own) :
    (step s).run.Minds own :=
  minds_lift (.step h)

theorem minds_sleep (ms : Nat) : (sleep ms).run.Minds own := minds_lift trivial

theorem writesOnly_bind {Q : Set Nat → Except Failure α → Prop}
    {Q' : Set Nat → Except Failure β → Prop} {x : Activity α} {f : α → Activity β}
    (hx : x.run.WritesOnly Q own) (he : ∀ o e, Q o (.error e) → Q' o (.error e))
    (hf : ∀ o a, own ⊆ o → Q o (.ok a) → (f a).run.WritesOnly Q' o) :
    (x >>= f).run.WritesOnly Q' own := by
  refine hx.bind fun o outcome ho houtcome => ?_
  cases outcome with
  | ok a => exact hf o a ho houtcome
  | error e => exact he o e houtcome

theorem minds_bind {x : Activity α} {f : α → Activity β} (hx : x.run.Minds own)
    (hf : ∀ a, (f a).run.Minds own) : (x >>= f).run.Minds own :=
  writesOnly_bind hx (fun _ _ _ => trivial) fun _ a ho _ => (hf a).mono ho

theorem minds_tryCatch {x : Activity α} {f : Failure → Activity α} (hx : x.run.Minds own)
    (hf : ∀ e, (f e).run.Minds own) : (tryCatch x f).run.Minds own := by
  refine hx.bind fun e => ?_
  cases e with
  | ok a => trivial
  | error e => exact hf e

end Activity

/-! ## Courses -/

/-- Whether a course writes only to some scopes and to those that it opens.  A branch may write to
what was opened before the branches started. -/
inductive Course.WritesOnly : Set Nat → Course ρ → Prop where
  | done {own : Set Nat} (r : ρ) : WritesOnly own (.done r)
  | take {own : Set Nat} {step : Step} {next : step.Yield → Course ρ}
    (hw : ∀ scope, step.writes? = some scope → scope ∈ own)
    (hn : ∀ y, WritesOnly (Taken.owned ⟨step, y⟩ own) (next y)) : WritesOnly own (.take step next)
  | pause {own : Set Nat} {ms : Nat} {next : Unit → Course ρ} (hn : WritesOnly own (next ())) :
    WritesOnly own (.pause ms next)
  | fork {own : Set Nat} {branches : List (Course ρ)} {join : List ρ → Course ρ}
    (hb : ∀ p ∈ branches, WritesOnly own p) (hj : ∀ rs, WritesOnly own (join rs)) :
    WritesOnly own (.fork branches join)

namespace Course.WritesOnly

variable {own own' : Set Nat} {p q : Course ρ}

theorem mono (hp : p.WritesOnly own) (hown : own ⊆ own') : p.WritesOnly own' := by
  induction hp generalizing own' with
  | done r => exact .done r
  | take hw _ ih =>
    exact .take (fun scope hscope => hown (hw scope hscope)) fun y => ih y (Taken.owned_mono hown)
  | pause _ ih => exact .pause (ih hown)
  | fork _ _ ihb ihj => exact .fork (fun p hp => ihb p hp hown) fun rs => ihj rs hown

theorem after {Q : Set Nat → α → Prop} {x : Script α} {f : α → Course ρ}
    (hx : x.WritesOnly Q own) (hf : ∀ o a, own ⊆ o → Q o a → (f a).WritesOnly o) :
    (Course.after x f).WritesOnly own := by
  induction x generalizing own with
  | done a => exact hf own a le_rfl hx
  | take step next ih =>
    exact .take hx.1 fun y => ih y (hx.2 y) fun o a ho => hf o a (Taken.subset_owned.trans ho)
  | pause ms next ih => exact .pause (ih () hx hf)

/-- What follows a script that opens nothing it would need to know of. -/
theorem after_minds {x : Script α} {f : α → Course ρ} (hx : x.Minds own)
    (hf : ∀ a, (f a).WritesOnly own) : (Course.after x f).WritesOnly own :=
  after hx fun _ a ho _ => (hf a).mono ho

theorem ofScript {x : Script ρ} (hx : x.Minds own) : (Course.ofScript x).WritesOnly own :=
  after_minds hx .done

theorem andThen {f : ρ → Course ρ} (hp : p.WritesOnly own) (hf : ∀ r, (f r).WritesOnly own) :
    (p.andThen f).WritesOnly own := by
  induction hp with
  | done r => exact hf r
  | take hw _ ih => exact .take hw fun y => ih y fun r => (hf r).mono Taken.subset_owned
  | pause _ ih => exact .pause (ih hf)
  | fork hb _ _ ihj => exact .fork hb fun rs => ihj rs hf

/-! ### What it means for a course that runs -/

/-- One thing that such a course does keeps to what it owns, and so does what is left of it. -/
theorem goes {t : Option Taken} (hp : p.WritesOnly own) (h : p.Goes t q) :
    (∀ t', t = some t' → ∀ scope, t'.step.writes? = some scope → scope ∈ own) ∧
      q.WritesOnly (t.elim own (·.owned own)) := by
  induction h with
  | take y =>
    cases hp with
    | take hw hn =>
      refine ⟨?_, hn y⟩
      rintro t' ⟨⟩
      exact hw
  | pause =>
    cases hp with
    | pause hn => exact ⟨nofun, hn⟩
  | @branch before after join p q t h ih =>
    cases hp with
    | fork hb hj =>
      obtain ⟨hwrites, hq⟩ := ih (hb p (by simp))
      have hgrows : own ⊆ t.elim own (·.owned own) := by
        cases t with
        | none => exact le_rfl
        | some t => exact Taken.subset_owned
      refine ⟨hwrites, .fork (fun r hr => ?_) fun rs => (hj rs).mono hgrows⟩
      rcases List.mem_append.1 hr with hr | hr
      · exact (hb r (List.mem_append_left _ hr)).mono hgrows
      · rcases List.mem_cons.1 hr with rfl | hr
        · exact hq
        · exact (hb r (List.mem_append_right _ (List.mem_cons_of_mem _ hr))).mono hgrows
  | join =>
    cases hp with
    | fork hb hj => exact ⟨nofun, hj _⟩

/-- **The steps that such a course takes write only what it owns**, whatever they yield and in
whatever order its branches go on. -/
theorem does {taken : List Taken} (hp : p.WritesOnly own) (h : p.Does taken q) :
    OnlyWrites own taken := by
  induction h generalizing own with
  | refl => trivial
  | @step _ _ _ t _ h _ ih =>
    obtain ⟨hwrites, hq⟩ := hp.goes h
    cases t with
    | none => exact ih hq
    | some t => exact ⟨hwrites t rfl, ih hq⟩

end Course.WritesOnly

/-! ## Sessions -/

namespace Session

/-- Of the scopes that are there a step changes only the one that it writes to. -/
theorem store_take {s : Session} {step : Step} {scope : Nat} (hscope : scope < s.scopes.length)
    (h : step.writes? ≠ some scope) : (s.take step).2.store scope = s.store scope := by
  cases step with
  | write target name value =>
    have hne : target ≠ scope := fun heq => h (congrArg some heq)
    show (s.scopes.modify target _).getD scope _ = s.scopes.getD scope _
    rw [List.getD_eq_getElem?_getD, List.getD_eq_getElem?_getD, List.getElem?_modify]
    simp only [if_neg hne, id_map']
  | copy source =>
    show (s.scopes ++ [_]).getD scope _ = s.scopes.getD scope _
    rw [List.getD_eq_getElem?_getD, List.getD_eq_getElem?_getD, List.getElem?_append_left hscope]
  | _ => rfl

theorem store_changeStore {s : Session} {scope : Nat} (h : scope < s.scopes.length)
    (change : Store → Store) :
    (s.changeStore scope change).store scope = change (s.store scope) := by
  show (s.scopes.modify scope _).getD scope _ = _
  rw [List.getD_eq_getElem?_getD, List.getElem?_modify_eq, List.getElem?_eq_getElem h]
  rw [store, List.getD_eq_getElem?_getD, List.getElem?_eq_getElem h]
  rfl

theorem store_changeStore_of_ne {s : Session} {scope other : Nat} (h : other ≠ scope)
    (change : Store → Store) : (s.changeStore scope change).store other = s.store other := by
  show (s.scopes.modify scope change).getD other _ = s.scopes.getD other _
  rw [List.getD_eq_getElem?_getD, List.getD_eq_getElem?_getD, List.getElem?_modify]
  simp only [if_neg h.symm, id_map']

theorem get?_store_changeStore {s : Session} {scope : Nat} (h : scope < s.scopes.length)
    (name : String) (value : Json) (k : String) :
    ((s.changeStore scope (·.set name value)).store scope).get? k =
      if k = name then some value else (s.store scope).get? k := by
  rw [store_changeStore h]
  exact Fields.get?_set ..

/-- A variable is as it was if a step does not write to it. -/
theorem get?_take {s : Session} {step : Step} {scope : Nat} {name : String}
    (hscope : scope < s.scopes.length) (h : ∀ value, step ≠ .write scope name value) :
    ((s.take step).2.store scope).get? name = (s.store scope).get? name := by
  by_cases hw : step.writes? = some scope
  · cases step with
    | write target other value =>
      cases hw
      have hne : name ≠ other := fun heq => h value (heq ▸ rfl)
      exact (get?_store_changeStore hscope other value name).trans (if_neg hne)
    | _ => cases hw
  · rw [store_take hscope hw]

theorem length_scopes_take (s : Session) (step : Step) :
    s.scopes.length ≤ (s.take step).2.scopes.length := by
  cases step with
  | write => exact Nat.le_of_eq (List.length_modify ..).symm
  | copy =>
    show _ ≤ (s.scopes ++ [_]).length
    rw [List.length_append]
    exact Nat.le_add_right _ _
  | _ => exact Nat.le_refl _

/-- What was just opened has the variables it was opened with. -/
theorem store_openScope (s : Session) (store : Store) :
    (s.openScope store).2.store s.scopes.length = store := by
  show (s.scopes ++ [store]).getD s.scopes.length _ = store
  rw [List.getD_eq_getElem?_getD, List.getElem?_concat_length, Option.getD_some]

/-- The variables of a scope are as they were when they were copied. -/
theorem store_copy (s : Session) (scope : Nat) :
    (s.take (.copy scope)).2.store scope = s.store scope := by
  rcases Nat.lt_trichotomy scope s.scopes.length with hlt | rfl | hgt
  · exact store_take hlt nofun
  · exact s.store_openScope _
  · have hnew : s.scopes.length + 1 ≤ scope := hgt
    have hcopied : (s.take (.copy scope)).2.scopes = s.scopes ++ [s.store scope] := rfl
    rw [store, store, hcopied, List.getD_eq_getElem?_getD,
      List.getD_eq_getElem?_getD, List.getElem?_eq_none (by simpa using hnew),
      List.getElem?_eq_none (Nat.le_of_lt hgt)]

/-- A scope that is opened has not been there before. -/
theorem opens?_take {s : Session} {step : Step} {scope : Nat}
    (h : Taken.opens? ⟨step, (s.take step).1⟩ = some scope) : scope = s.scopes.length := by
  cases step with
  | copy =>
    cases h
    rfl
  | _ => cases h

/-- Neither time nor replies change variables. -/
@[simp] theorem scopes_advance (s : Session) (time : Nat) (first : Delivery → Bool) :
    (s.advance time first).scopes = s.scopes :=
  advance_eq (·.scopes) (fun _ _ => rfl) (fun _ _ _ _ => rfl) (fun _ _ => rfl) s time first

end Session

/-- **A course that writes only what it owns leaves all other variables of a session as they
are**, at every moment of every way in which it can run. -/
theorem Course.WritesOnly.woven {own : Set Nat} {p q : Course ρ} {s s' : Session}
    (hp : p.WritesOnly own) (h : Woven (p, s) (q, s')) {scope : Nat}
    (hscope : scope < s.scopes.length) (hown : scope ∉ own) : s'.store scope = s.store scope := by
  -- what the course comes to own on the way was not there when it started
  have hinv : ∀ b, Woven (p, s) b → ∃ own' : Set Nat, b.1.WritesOnly own' ∧
      (∀ n ∈ own', n ∈ own ∨ s.scopes.length ≤ n) ∧ s.scopes.length ≤ b.2.scopes.length ∧
      b.2.store scope = s.store scope := by
    intro b hb
    induction hb with
    | refl => exact ⟨own, hp, fun n hn => .inl hn, Nat.le_refl _, rfl⟩
    | tail _ hstep ih =>
      obtain ⟨own', hp', hnew, hlength, hstore⟩ := ih
      cases hstep with
      | @goes _ q t step hgoes =>
        obtain ⟨hwrites, hq⟩ := hp'.goes hgoes
        refine ⟨_, hq, fun n hn => ?_, Nat.le_trans hlength (t.length_scopes_take step), ?_⟩
        · rcases hn with hn | hn
          · exact hnew n hn
          · exact .inr (Session.opens?_take hn ▸ hlength)
        · rw [Session.store_take (Nat.lt_of_lt_of_le hscope hlength) fun hw => ?_, hstore]
          rcases hnew scope (hwrites _ rfl scope hw) with hn | hn
          · exact hown hn
          · exact Nat.not_le.2 hscope hn
      | idles hgoes => exact ⟨own', (hp'.goes hgoes).2, hnew, hlength, hstore⟩
      | passes time first =>
        refine ⟨own', hp', hnew, ?_, ?_⟩
        · rwa [Session.scopes_advance]
        · rwa [Session.store, Session.scopes_advance]
  obtain ⟨_, _, _, _, hstore⟩ := hinv _ h
  exact hstore

/-- A course leaves all variables as they are but those of some scopes and of scopes that it opens:
in no order of its branches does it write to others, whatever its steps yield, and at no moment of
a run have others changed. -/
structure Course.LeavesOthers (own : Set Nat) (p : Course ρ) : Prop where
  writes : ∀ {taken q}, p.Does taken q → OnlyWrites own taken
  keeps : ∀ {s q s'}, Woven (p, s) (q, s') → ∀ {scope}, scope < s.scopes.length → scope ∉ own →
    s'.store scope = s.store scope

theorem Course.WritesOnly.leavesOthers {own : Set Nat} {p : Course ρ} (hp : p.WritesOnly own) :
    p.LeavesOthers own :=
  ⟨hp.does, hp.woven⟩

end Scenario
