import Mathlib.Data.List.Forall2
import Mathlib.Order.Basic
import Scenario.Proofs.Session.Ownership

/-!
# Courses that differ in the numbers of their scopes

A scope has the number that is next when it is opened, so what a course does to a session depends
on who else has opened scopes there.  But no course can tell: it only hands the number on to later
steps.  Two courses are alike if they differ in the numbers of scopes alone, and run in sessions
that agree on the variables of these scopes they do the same at the same times.

Being alike is a relation under a pairing of scopes, which grows as scopes are opened.  What
follows a step has to be alike under each larger pairing: so a pairing never has to be guessed,
and larger ones keep what smaller ones have (`Course.Alike.mono`).

Only steps that have to do with variables, reports and the clock are alike.  Identifiers, channels
and correlation tables are numbered or shared by all, and what depends on them does depend on
others.

## What is here

* `Pairing`, `Script.Alike`, `Course.Alike` — the relation, and that courses that are put together
  from parts that are alike are so themselves.
* `Session.Agree` — two sessions have the same variables where scopes are paired.
* `Session.Shows` — what is to be seen of a session from outside, which is what was reported and
  recorded.
* `Tandem` — two sessions in which the same was done, and `Session.Agree.take` — that a step does
  so.
-/

set_option autoImplicit false

namespace Scenario

variable {ρ α β γ δ : Type}

/-- Which scope of one session stands for which scope of another one. -/
abbrev Pairing := Nat → Nat → Prop

/-- A pairing with one more pair. -/
def Pairing.add (R : Pairing) (m n : Nat) : Pairing := fun i j => R i j ∨ i = m ∧ j = n

/-! ## Steps, scripts and courses -/

/-- Whether a step has to do with reports and the clock alone. -/
def Step.isPlain : Step → Bool
  | now => true
  | report _ _ _ => true
  | record _ _ => true
  | _ => false

/-- Whether two steps differ in the numbers of scopes alone.  It comes with what is so of that which
they yield, given the pairing after them. -/
inductive Step.Alike (R : Pairing) :
    (step step' : Step) → (Pairing → step.Yield → step'.Yield → Prop) → Prop where
  | plain {step : Step} (h : step.isPlain) : Alike R step step fun _ y y' => y = y'
  | read {m n : Nat} (h : R m n) : Alike R (.read m) (.read n) fun _ y y' => y = y'
  | write {m n : Nat} {name : String} {value : Json} (h : R m n) :
    Alike R (.write m name value) (.write n name value) fun _ _ _ => True
  | copy {m n : Nat} (h : R m n) : Alike R (.copy m) (.copy n) fun R' y y' => R' y y'

theorem Step.Alike.mono {R R' : Pairing} {step step' : Step}
    {Y : Pairing → step.Yield → step'.Yield → Prop} (h : step.Alike R step' Y) (hR : R ≤ R') :
    step.Alike R' step' Y := by
  cases h with
  | plain h => exact .plain h
  | read h => exact .read (hR _ _ h)
  | write h => exact .write (hR _ _ h)
  | copy h => exact .copy (hR _ _ h)

/-- Whether two scripts differ in the numbers of scopes alone and end with values that are alike. -/
inductive Script.Alike (Q : Pairing → α → β → Prop) : Pairing → Script α → Script β → Prop where
  | done {R : Pairing} {a : α} {b : β} (h : Q R a b) : Alike Q R (.done a) (.done b)
  | take {R : Pairing} {step step' : Step} {Y : Pairing → step.Yield → step'.Yield → Prop}
    {next : step.Yield → Script α} {next' : step'.Yield → Script β} (h : step.Alike R step' Y)
    (hn : ∀ R' y y', R ≤ R' → Y R' y y' → Alike Q R' (next y) (next' y')) :
    Alike Q R (.take step next) (.take step' next')
  | pause {R : Pairing} {ms : Nat} {next : Unit → Script α} {next' : Unit → Script β}
    (hn : Alike Q R (next ()) (next' ())) : Alike Q R (.pause ms next) (.pause ms next')

/-- Whether two courses differ in the numbers of scopes alone. -/
inductive Course.Alike : Pairing → Course ρ → Course ρ → Prop where
  | done {R : Pairing} (r : ρ) : Alike R (.done r) (.done r)
  | take {R : Pairing} {step step' : Step} {Y : Pairing → step.Yield → step'.Yield → Prop}
    {next : step.Yield → Course ρ} {next' : step'.Yield → Course ρ} (h : step.Alike R step' Y)
    (hn : ∀ R' y y', R ≤ R' → Y R' y y' → Alike R' (next y) (next' y')) :
    Alike R (.take step next) (.take step' next')
  | pause {R : Pairing} {ms : Nat} {next next' : Unit → Course ρ}
    (hn : Alike R (next ()) (next' ())) : Alike R (.pause ms next) (.pause ms next')
  | fork {R : Pairing} {branches branches' : List (Course ρ)} {join join' : List ρ → Course ρ}
    (hlength : branches.length = branches'.length)
    (hb : ∀ i h h', Alike R (branches.get ⟨i, h⟩) (branches'.get ⟨i, h'⟩))
    (hj : ∀ rs, Alike R (join rs) (join' rs)) :
      Alike R (.fork branches join) (.fork branches' join')

/-! ### What is put together from parts -/

theorem Script.Alike.bind {R : Pairing} {Q : Pairing → α → β → Prop} {Q' : Pairing → γ → δ → Prop}
    {x : Script α} {x' : Script β} {f : α → Script γ} {f' : β → Script δ} (hx : x.Alike Q R x')
    (hf : ∀ R' a b, R ≤ R' → Q R' a b → (f a).Alike Q' R' (f' b)) :
    (x.bind f).Alike Q' R (x'.bind f') := by
  induction hx with
  | done h => exact hf _ _ _ le_rfl h
  | take h _ ih =>
    exact .take h fun R' y y' hR hy => ih R' y y' hR hy fun R'' a b hR' => hf R'' a b (hR.trans hR')
  | pause _ ih => exact .pause (ih hf)

/-- A single step. -/
theorem Script.Alike.step {R : Pairing} {s s' : Step} {Y : Pairing → s.Yield → s'.Yield → Prop}
    (h : s.Alike R s' Y) : (Script.step s).Alike Y R (Script.step s') :=
  .take h fun _ _ _ _ hy => .done hy

/-- A single step that has nothing to do with scopes. -/
theorem Script.alike_of_isPlain {R : Pairing} (s : Step) (h : s.isPlain) :
    (Script.step s).Alike (fun _ y y' => y = y') R (Script.step s) :=
  .step (.plain h)

/-- Whether two activities differ in the numbers of scopes alone and end with the same. -/
abbrev Activity.Alike (R : Pairing) (x x' : Activity α) : Prop :=
  Script.Alike (fun _ r r' => r = r') R x.run x'.run

namespace Activity

variable {R : Pairing}

/-- What follows an activity, if failures are passed on as they are. -/
theorem alike_bind_of {Q : Pairing → Except Failure β → Except Failure γ → Prop} {x x' : Activity α}
    {f : α → Activity β} {f' : α → Activity γ} (hx : x.Alike R x')
    (he : ∀ R' e, Q R' (.error e) (.error e))
    (hf : ∀ R' a, R ≤ R' → (f a).run.Alike Q R' (f' a).run) :
    (x >>= f).run.Alike Q R (x' >>= f').run := by
  refine Script.Alike.bind hx ?_
  rintro R' (e | a) _ hR rfl
  · exact .done (he R' e)
  · exact hf R' a hR

theorem alike_bind {x x' : Activity α} {f f' : α → Activity β} (hx : x.Alike R x')
    (hf : ∀ R' a, R ≤ R' → (f a).Alike R' (f' a)) : (x >>= f).Alike R (x' >>= f') :=
  alike_bind_of hx (fun _ _ => rfl) hf

theorem alike_ofExcept (e : Except Failure α) : (ofExcept e).Alike R (ofExcept e) := .done rfl

/-- What follows an activity that has a value already. -/
theorem alike_ok_bind {Q : Pairing → Except Failure β → Except Failure γ → Prop}
    {f : α → Activity β} {f' : α → Activity γ} (a : α) (h : (f a).run.Alike Q R (f' a).run) :
    (ofExcept (.ok a) >>= f).run.Alike Q R (ofExcept (.ok a) >>= f').run :=
  h

theorem alike_lift_of {Q : Pairing → α → β → Prop} {x : Script α} {x' : Script β}
    (hx : x.Alike Q R x') :
    (ExceptT.lift x : Activity α).run.Alike
      (fun R' r r' => ∃ a b, r = .ok a ∧ r' = .ok b ∧ Q R' a b)
      R (ExceptT.lift x' : Activity β).run :=
  Script.Alike.bind hx fun _ a b _ hab => .done ⟨a, b, rfl, rfl, hab⟩

theorem alike_lift {x x' : Script α} (hx : x.Alike (fun _ a a' => a = a') R x') :
    Activity.Alike R (ExceptT.lift x) (ExceptT.lift x') := by
  refine Script.Alike.bind hx ?_
  rintro R' a _ _ rfl
  exact .done rfl

theorem alike_sleep (ms : Nat) : (Activity.sleep ms).Alike R (Activity.sleep ms) :=
  .pause (.done rfl)

end Activity

namespace Course.Alike

variable {R R' : Pairing} {p p' : Course ρ}

/-- **A larger pairing keeps what a smaller one has.** -/
theorem mono (h : p.Alike R p') (hR : R ≤ R') : p.Alike R' p' := by
  induction h generalizing R' with
  | done r => exact .done r
  | take h hn _ => exact .take (h.mono hR) fun R'' y y' hR' => hn R'' y y' (hR.trans hR')
  | pause _ ih => exact .pause (ih hR)
  | fork hlength _ _ ihb ihj =>
    exact .fork hlength (fun i h h' => ihb i h h' hR) fun rs => ihj rs hR

theorem after {Q : Pairing → α → β → Prop} {x : Script α} {x' : Script β} {f : α → Course ρ}
    {f' : β → Course ρ} (hx : x.Alike Q R x')
    (hf : ∀ R' a b, R ≤ R' → Q R' a b → (f a).Alike R' (f' b)) :
    (Course.after x f).Alike R (Course.after x' f') := by
  induction hx with
  | done h => exact hf _ _ _ le_rfl h
  | take h _ ih =>
    exact .take h fun R' y y' hR hy => ih R' y y' hR hy fun R'' a b hR' => hf R'' a b (hR.trans hR')
  | pause _ ih => exact .pause (ih hf)

theorem ofScript {x x' : Script ρ} (hx : x.Alike (fun _ r r' => r = r') R x') :
    (Course.ofScript x).Alike R (Course.ofScript x') := by
  refine after hx ?_
  rintro R' r _ _ rfl
  exact .done r

theorem andThen {f f' : ρ → Course ρ} (hp : p.Alike R p')
    (hf : ∀ R' r, R ≤ R' → (f r).Alike R' (f' r)) : (p.andThen f).Alike R (p'.andThen f') := by
  induction hp with
  | done r => exact hf _ r le_rfl
  | take h _ ih =>
    exact .take h fun R' y y' hR hy => ih R' y y' hR hy fun R'' r hR' => hf R'' r (hR.trans hR')
  | pause _ ih => exact .pause (ih hf)
  | fork hlength hb _ _ ihj => exact .fork hlength hb fun rs => ihj rs hf

theorem forks {branches branches' : List (Course ρ)} {join join' : List ρ → Course ρ}
    (hb : List.Forall₂ (Course.Alike R) branches branches')
    (hj : ∀ rs, (join rs).Alike R (join' rs)) :
    (Course.fork branches join).Alike R (.fork branches' join') :=
  .fork hb.length_eq (List.forall₂_iff_get.1 hb).2 hj

end Course.Alike

/-! ## Sessions -/

/-- Whether two sessions have the same variables where scopes are paired. -/
structure Session.Agree (R : Pairing) (s a : Session) : Prop where
  /-- Paired scopes are there. -/
  left : ∀ {m n}, R m n → m < s.scopes.length
  right : ∀ {m n}, R m n → n < a.scopes.length
  /-- No scope stands for two. -/
  one : ∀ {m n m' n'}, R m n → R m' n' → (m = m' ↔ n = n')
  store : ∀ {m n}, R m n → s.store m = a.store n

/-! ### What is to be seen -/

/-- What is to be seen of a session from outside. -/
structure View where
  events : Array Event
  recordings : List Recording

/-- What is to be seen of a session. -/
def Session.view (s : Session) : View := ⟨s.events, s.recordings⟩

/-- Something that was reported or recorded. -/
inductive Mark where
  | event (e : Event)
  /-- An execution of an action for recording. -/
  | execution (recording : Nat) (captured : Option String)

/-- What is to be seen after a mark. -/
def View.mark (v : View) : Mark → View
  | .event e => { v with events := v.events.push e }
  | .execution number captured =>
    { v with recordings := v.recordings.modify number fun r =>
        ⟨r.executions + 1, r.captured ++ captured.toList⟩ }

/-- Whether what is to be seen of a session is that of an earlier one with some more marks. -/
def Session.Shows (s : Session) (marks : List Mark) (s' : Session) : Prop :=
  s'.view = marks.foldl View.mark s.view

theorem Session.Shows.none {s s' : Session} (h : s'.view = s.view) : s.Shows [] s' := h

theorem Session.Shows.trans {s s' s'' : Session} {marks marks' : List Mark} (h : s.Shows marks s')
    (h' : s'.Shows marks' s'') : s.Shows (marks ++ marks') s'' := by
  rw [Shows, List.foldl_append, ← h]
  exact h'

/-! ### In tandem -/

/-- Whether the same was done in two sessions that have agreed, in the first of them beside others:
what is not paired there stays as it is. -/
structure Tandem (R : Pairing) (s a : Session) (R' : Pairing) (s' a' : Session)
    (marks : List Mark) : Prop where
  grows : R ≤ R'
  agree : s'.Agree R' a'
  clock : s'.clock = a'.clock
  /-- New pairs are of scopes that were opened. -/
  fresh : ∀ {m n}, R' m n → R m n ∨ s.scopes.length ≤ m
  opened : s.scopes.length ≤ s'.scopes.length
  others : ∀ {m}, m < s.scopes.length → (∀ n, ¬ R m n) → s'.store m = s.store m
  shows : s.Shows marks s'
  shows_alone : a.Shows marks a'

namespace Tandem

variable {R R' R'' : Pairing} {s a s' a' s'' a'' : Session} {marks marks' : List Mark}

theorem refl (hagree : s.Agree R a) (hclock : s.clock = a.clock) : Tandem R s a R s a [] where
  grows := le_rfl
  agree := hagree
  clock := hclock
  fresh := .inl
  opened := le_rfl
  others _ _ := rfl
  shows := .none rfl
  shows_alone := .none rfl

theorem trans (h : Tandem R s a R' s' a' marks) (h' : Tandem R' s' a' R'' s'' a'' marks') :
    Tandem R s a R'' s'' a'' (marks ++ marks') where
  grows := h.grows.trans h'.grows
  agree := h'.agree
  clock := h'.clock
  fresh hmn := (h'.fresh hmn).elim h.fresh fun hm => .inr (h.opened.trans hm)
  opened := h.opened.trans h'.opened
  others {m} hm hR := by
    have hR' : ∀ n, ¬ R' m n := fun n hmn => (h.fresh hmn).elim (hR n) hm.not_ge
    rw [h'.others (hm.trans_le h.opened) hR', h.others hm hR]
  shows := h.shows.trans h'.shows
  shows_alone := h.shows_alone.trans h'.shows_alone

end Tandem

/-! ### Steps in tandem -/

namespace Session

variable {R : Pairing} {s a : Session}

/-- A step that is plain yields the same wherever the clock shows the same, and leaves the same
mark. -/
theorem take_of_isPlain {step : Step} (h : step.isPlain) (hclock : s.clock = a.clock) :
    (s.take step).1 = (a.take step).1 ∧ (s.take step).2.scopes = s.scopes ∧
      (s.take step).2.clock = s.clock ∧ ∃ marks : List Mark,
        ∀ b : Session, b.clock = s.clock → b.Shows marks (b.take step).2 := by
  cases step with
  | now => exact ⟨hclock, rfl, rfl, [], fun _ _ => rfl⟩
  | report run test what =>
    refine ⟨rfl, rfl, rfl, [.event ⟨what, run, test, s.clock⟩], fun b hb => ?_⟩
    rw [← hb]
    rfl
  | record number captured => exact ⟨rfl, rfl, rfl, [.execution number captured], fun _ _ => rfl⟩
  | _ => cases h

end Session

namespace Session.Agree

variable {R : Pairing} {s a : Session}

/-- Scopes alone matter. -/
theorem congr {s' a' : Session} (h : s.Agree R a) (hs : s'.scopes = s.scopes)
    (ha : a'.scopes = a.scopes) : s'.Agree R a' where
  left hmn := hs ▸ h.left hmn
  right hmn := ha ▸ h.right hmn
  one := h.one
  store hmn := by
    rw [Session.store, Session.store, hs, ha]
    exact h.store hmn

/-- A write to two scopes that are paired. -/
theorem write {m n : Nat} (h : s.Agree R a) (hmn : R m n) (name : String) (value : Json) :
    (s.take (.write m name value)).2.Agree R (a.take (.write n name value)).2 where
  left hmn' := (h.left hmn').trans_le (s.length_scopes_take _)
  right hmn' := (h.right hmn').trans_le (a.length_scopes_take _)
  one := h.one
  store {m' n'} hmn' := by
    by_cases hm : m = m'
    · obtain rfl := (h.one hmn hmn').1 hm
      subst hm
      show (s.changeStore m _).store m = (a.changeStore n _).store n
      rw [Session.store_changeStore (h.left hmn), Session.store_changeStore (h.right hmn),
        h.store hmn]
    · have hn : n ≠ n' := fun heq => hm ((h.one hmn hmn').2 heq)
      have hwrite : ∀ {i j : Nat}, i ≠ j → (Step.write i name value).writes? ≠ some j :=
        fun hne heq => hne (Option.some.inj heq)
      rw [Session.store_take (h.left hmn') (hwrite hm),
        Session.store_take (h.right hmn') (hwrite hn),
        h.store hmn']

/-- Copies of two scopes that are paired are so too. -/
theorem copy {i j : Nat} (h : s.Agree R a) (hij : R i j) :
    (s.take (.copy i)).2.Agree (R.add s.scopes.length a.scopes.length) (a.take (.copy j)).2 where
  left {m n} hmn := by
    show m < (s.scopes ++ [_]).length
    rw [List.length_append, List.length_singleton]
    rcases hmn with hmn | ⟨rfl, -⟩
    · exact Nat.lt_succ_of_lt (h.left hmn)
    · exact Nat.lt_succ_self _
  right {m n} hmn := by
    show n < (a.scopes ++ [_]).length
    rw [List.length_append, List.length_singleton]
    rcases hmn with hmn | ⟨-, rfl⟩
    · exact Nat.lt_succ_of_lt (h.right hmn)
    · exact Nat.lt_succ_self _
  one {m n m' n'} hmn hmn' := by
    rcases hmn with hmn | ⟨rfl, rfl⟩ <;> rcases hmn' with hmn' | ⟨rfl, rfl⟩
    · exact h.one hmn hmn'
    · exact iff_of_false (h.left hmn).ne (h.right hmn).ne
    · exact iff_of_false (h.left hmn').ne' (h.right hmn').ne'
    · exact iff_of_true rfl rfl
  store {m n} hmn := by
    rcases hmn with hmn | ⟨rfl, rfl⟩
    · have hcopy : ∀ i k, (Step.copy i).writes? ≠ some k := nofun
      rw [Session.store_take (h.left hmn) (hcopy _ _), Session.store_take (h.right hmn) (hcopy _ _),
        h.store hmn]
    · exact (s.store_openScope _).trans ((h.store hij).trans (a.store_openScope _).symm)

/-- **Steps that are alike are taken in tandem.** -/
theorem take {step step' : Step} {Y : Pairing → step.Yield → step'.Yield → Prop}
    (h : s.Agree R a) (hclock : s.clock = a.clock) (hstep : step.Alike R step' Y) :
    ∃ R' marks, Y R' (s.take step).1 (a.take step').1 ∧
      Tandem R s a R' (s.take step).2 (a.take step').2 marks := by
  cases hstep with
  | plain hplain =>
    obtain ⟨hyield, hscopes, hsame, marks, hmarks⟩ := Session.take_of_isPlain hplain hclock
    obtain ⟨-, hscopes', hsame', -⟩ := Session.take_of_isPlain hplain (s := a) rfl
    refine ⟨R, marks, hyield, ⟨le_rfl, h.congr hscopes hscopes', ?_, .inl, ?_, fun _ _ => ?_,
      hmarks s rfl, hmarks a hclock.symm⟩⟩
    · rw [hsame, hsame', hclock]
    · rw [hscopes]
    · rw [Session.store, hscopes, Session.store]
  | read hmn => exact ⟨R, [], h.store hmn, .refl h hclock⟩
  | @write m n name value hmn =>
    refine ⟨R, [], trivial, ⟨le_rfl, h.write hmn name value, hclock, .inl,
      s.length_scopes_take _, fun hm hR => Session.store_take hm ?_, .none rfl, .none rfl⟩⟩
    rintro ⟨⟩
    exact hR n hmn
  | copy hmn =>
    exact ⟨R.add _ _, [], Or.inr ⟨rfl, rfl⟩, ⟨fun _ _ => Or.inl, h.copy hmn, hclock,
      fun hmn' => hmn'.imp_right fun hm => hm.1.ge, s.length_scopes_take _,
      fun hm _ => Session.store_take hm (Option.some_ne_none _).symm, .none rfl, .none rfl⟩⟩

end Session.Agree

end Scenario
