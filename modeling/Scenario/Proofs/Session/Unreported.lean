import Scenario.Proofs.Session.Tandem
import Scenario.Proofs.Session.Trace

/-!
# Sessions but for the lives of actions

Actions report their lives, and nobody reads these reports: no step yields anything that depends on
what was reported.  So sessions that differ in such reports alone stay so, whatever runs in them,
and a course has the same result in both.

One more thing is compared here.  Where a course is given what it can do only up to some point, it
marks the point instead of passing it, and nothing is asked of what is done after the mark.  The
mark is a report that belongs to no run, so it is seen in the session that is left.

## What is here

* `Session.unreported` — a session without the reports of the lives of actions, and
  `Session.Resembles` — two sessions differ in these alone.
* `Course.UpToMark` — a course does what another one does until it marks that it does not, and
  `Course.UpToMark.run` — such courses have the same result wherever sessions resemble each other,
  if there is no mark in the end.
-/

set_option autoImplicit false

namespace Scenario

variable {ρ α : Type}

/-! ## Reports of the lives of actions -/

namespace Session

/-- A session without the reports of the lives of actions. -/
def unreported (s : Session) : Session :=
  { s with events := s.events.filter fun e => !e.what.isLifecycle }

/-- Whether two sessions differ in the reports of the lives of actions alone. -/
def Resembles (s t : Session) : Prop := s.unreported = t.unreported

variable {s t : Session}

namespace Resembles

theorem refl (s : Session) : s.Resembles s := Eq.refl s.unreported

theorem symm (h : s.Resembles t) : t.Resembles s := Eq.symm h

theorem trans {u : Session} (h : s.Resembles t) (h' : t.Resembles u) : s.Resembles u :=
  Eq.trans h h'

/-- Sessions that resemble each other have the same but for reports. -/
theorem exists_eq (h : s.Resembles t) : ∃ events : Array Event, t = { s with events := events } ∧
    (events.filter fun e => !e.what.isLifecycle) =
      s.events.filter fun e => !e.what.isLifecycle := by
  have hrest := congrArg (fun u : Session => { u with events := t.events }) h
  exact ⟨t.events, hrest.symm, (congrArg Session.events h).symm⟩

theorem clock_eq (h : s.Resembles t) : s.clock = t.clock := by
  obtain ⟨events, rfl, -⟩ := h.exists_eq
  rfl

/-- What was reported of something else than the life of an action was reported in both. -/
theorem of_events {events : Array Event} (h : (events.filter fun e => !e.what.isLifecycle) =
    s.events.filter fun e => !e.what.isLifecycle) : s.Resembles { s with events := events } :=
  congrArg (fun events : Array Event => ({ s with events := events } : Session)) h.symm

/-- **No step reads reports**, and a step reports the same in both. -/
theorem take (h : s.Resembles t) (step : Step) :
    (s.take step).1 = (t.take step).1 ∧ (s.take step).2.Resembles (t.take step).2 := by
  obtain ⟨events, rfl, hevents⟩ := h.exists_eq
  cases step with
  | report run test what =>
    refine ⟨rfl, of_events ?_⟩
    show (events.push _).filter _ = (s.events.push _).filter _
    rw [Array.filter_push, Array.filter_push, hevents]
  | _ => exact ⟨rfl, of_events hevents⟩

/-- The life of an action does not matter. -/
theorem of_report {what : Occurrence} (hwhat : what.isLifecycle) (run test : Option String)
    (h : s.Resembles t) : (s.take (.report run test what)).2.Resembles t := by
  refine trans (symm (of_events ?_)) h
  show (s.events.push _).filter _ = _
  rw [Array.filter_push]
  simp [hwhat]

theorem passTo (h : s.Resembles t) (time : Nat) : (s.passTo time).Resembles (t.passTo time) := by
  obtain ⟨events, rfl, hevents⟩ := h.exists_eq
  exact of_events (s := s.passTo time) hevents

theorem foldl_deliver (h : s.Resembles t) (ds : List Delivery) :
    (ds.foldl deliver s).Resembles (ds.foldl deliver t) := by
  induction ds generalizing s t with
  | nil => exact h
  | cons d ds ih =>
    obtain ⟨events, rfl, hevents⟩ := h.exists_eq
    exact ih (of_events (s := s.deliver d) hevents)

/-- Neither time nor replies read reports. -/
theorem advance (h : s.Resembles t) (time : Nat) (first : Delivery → Bool) :
    (s.advance time first).Resembles (t.advance time first) := by
  obtain ⟨events, rfl, hevents⟩ := h.exists_eq
  have hkept : Resembles { s with deliveries := s.deliveries.dropWhile first }
      { s with deliveries := s.deliveries.dropWhile first, events := events } := of_events hevents
  exact (hkept.foldl_deliver _).passTo time

end Resembles

/-! ## Marks -/

/-- How many reports of a session belong to no run. -/
def marks (s : Session) : Nat := s.events.countP fun e => e.run.isNone

theorem marks_le_take (s : Session) (step : Step) : s.marks ≤ (s.take step).2.marks := by
  cases step with
  | report run test what =>
    show _ ≤ (s.events.push _).countP _
    rw [Array.countP_push]
    exact Nat.le_add_right ..
  | _ => exact Nat.le_refl _

theorem marks_advance (s : Session) (time : Nat) (first : Delivery → Bool) :
    (s.advance time first).marks = s.marks :=
  advance_eq marks (fun _ _ => rfl) (fun _ _ _ _ => rfl) (fun _ _ => rfl) s time first

/-- A report that belongs to a run is no mark. -/
theorem marks_report (s : Session) (run : String) (test : Option String) (what : Occurrence) :
    (s.report (some run) test what).marks = s.marks := by
  show (s.events.push _).countP _ = _
  rw [Array.countP_push]
  rfl

end Session

/-- Nothing that is done takes a mark back. -/
theorem Woven.marks_le {a b : Course ρ × Session} (h : Woven a b) : a.2.marks ≤ b.2.marks := by
  induction h with
  | refl => exact Nat.le_refl _
  | tail _ hlast ih =>
    refine ih.trans ?_
    cases hlast with
    | goes h => exact Session.marks_le_take _ _
    | idles h => exact Nat.le_refl _
    | passes time first => rw [Session.marks_advance]

/-! ## Courses -/

/-- The step that marks a session. -/
def Step.mark : Step := .report none none (.custom "" [])

theorem Session.marks_lt_mark (s : Session) : s.marks < (s.take .mark).2.marks := by
  show _ < (s.events.push _).countP _
  rw [Array.countP_push]
  exact Nat.lt_succ_self _

/-- Whether a course does what another one does, until it marks the session. -/
inductive Course.UpToMark : Course ρ → Course ρ → Prop where
  | done (r : ρ) : UpToMark (.done r) (.done r)
  | take {step : Step} {next next' : step.Yield → Course ρ}
    (hn : ∀ y, UpToMark (next y) (next' y)) :
    UpToMark (.take step next) (.take step next')
  | pause {ms : Nat} {next next' : Unit → Course ρ} (hn : UpToMark (next ()) (next' ())) :
    UpToMark (.pause ms next) (.pause ms next')
  | fork {branches branches' : List (Course ρ)} {join join' : List ρ → Course ρ}
    (hlength : branches.length = branches'.length)
    (hb : ∀ i h h', UpToMark (branches.get ⟨i, h⟩) (branches'.get ⟨i, h'⟩))
    (hj : ∀ rs, UpToMark (join rs) (join' rs)) :
    UpToMark (.fork branches join) (.fork branches' join')
  | mark {next : Step.mark.Yield → Course ρ} {q : Course ρ} : UpToMark (.take .mark next) q

namespace Course.UpToMark

variable {p p' : Course ρ}

theorem forks {branches branches' : List (Course ρ)} {join join' : List ρ → Course ρ}
    (hb : List.Forall₂ UpToMark branches branches') (hj : ∀ rs, (join rs).UpToMark (join' rs)) :
    (Course.fork branches join).UpToMark (.fork branches' join') :=
  .fork hb.length_eq (List.forall₂_iff_get.1 hb).2 hj

mutual

theorem refl (p : Course ρ) : p.UpToMark p := by
  cases p with
  | done r => exact .done r
  | take step next => exact .take fun y => refl (next y)
  | pause ms next => exact .pause (refl (next ()))
  | fork branches join => exact .forks (refl_all branches) fun rs => refl (join rs)

theorem refl_all : (ps : List (Course ρ)) → List.Forall₂ UpToMark ps ps
  | [] => .nil
  | p :: rest => .cons (refl p) (refl_all rest)

end

theorem after {x : Script α} {f f' : α → Course ρ}
    (hf : ∀ taken a, x.Does taken a → (f a).UpToMark (f' a)) :
    (Course.after x f).UpToMark (Course.after x f') := by
  induction x with
  | done a => exact hf [] a (.done a)
  | take step next ih => exact .take fun y => ih y fun _ a ha => hf _ a (.take y ha)
  | pause ms next ih => exact .pause (ih () fun _ a ha => hf _ a (.pause ha))

theorem andThen {f f' : ρ → Course ρ} (hp : p.UpToMark p') (hf : ∀ r, (f r).UpToMark (f' r)) :
    (p.andThen f).UpToMark (p'.andThen f') := by
  induction hp with
  | done r => exact hf r
  | take _ ih => exact .take ih
  | pause _ ih => exact .pause ih
  | fork hlength hb _ _ ihj => exact .fork hlength hb ihj
  | mark => exact .mark

end Course.UpToMark

/-! ## Tasks -/

/-- Whether a task does what another one does, until it marks the session. -/
inductive Task.UpToMark : Task ρ → Task ρ → Prop where
  | finished (r : ρ) : UpToMark (.finished r) (.finished r)
  | waiting {since due : Nat} {next next' : Unit → Course ρ} (hn : (next ()).UpToMark (next' ())) :
    UpToMark (.waiting since due next) (.waiting since due next')
  | joining {branches branches' : List (Task ρ)} {join join' : List ρ → Course ρ}
    (hlength : branches.length = branches'.length)
    (hb : ∀ i h h', UpToMark (branches.get ⟨i, h⟩) (branches'.get ⟨i, h'⟩))
    (hj : ∀ rs, (join rs).UpToMark (join' rs)) :
    UpToMark (.joining branches join) (.joining branches' join')

namespace Task

variable {t t' : Task ρ} {ts ts' : List (Task ρ)} {join join' : List ρ → Course ρ}

theorem UpToMark.joins (hb : List.Forall₂ UpToMark ts ts')
    (hj : ∀ rs, (join rs).UpToMark (join' rs)) :
    (Task.joining ts join).UpToMark (.joining ts' join') :=
  .joining hb.length_eq (List.forall₂_iff_get.1 hb).2 hj

theorem UpToMark.result?_eq (h : t.UpToMark t') : t.result? = t'.result? := by
  cases h <;> rfl

theorem results?_eq_of_upToMark (h : List.Forall₂ UpToMark ts ts') :
    results? ts = results? ts' := by
  induction h with
  | nil => rfl
  | cons ht _ ih => rw [results?, results?, ht.result?_eq, ih]

theorem UpToMark.timer?_eq (h : t.UpToMark t') : t.timer? = t'.timer? := by
  induction h with
  | finished _ => rfl
  | waiting _ => rfl
  | joining hlength _ _ ih =>
    rw [timer?, timer?, firstTimer?_congr (List.forall₂_iff_get.2 ⟨hlength, ih⟩)]

theorem firstTimer?_eq_of_upToMark (h : List.Forall₂ UpToMark ts ts') :
    firstTimer? ts = firstTimer? ts' :=
  firstTimer?_congr (h.imp fun _ _ ht => ht.timer?_eq)

end Task

/-! ## The scheduler -/

section Marks

variable {join : List ρ → Course ρ}

theorem Course.marks_start (p : Course ρ) (s : Session) : s.marks ≤ (p.start s).2.marks :=
  (Woven.of_start p s).marks_le

theorem marks_startAll (ps : List (Course ρ)) (s : Session) :
    s.marks ≤ (startAll ps s).2.marks := by
  induction ps generalizing s with
  | nil => exact Nat.le_refl _
  | cons p rest ih => exact (p.marks_start s).trans (ih _)

theorem Task.marks_joined (ts : List (Task ρ)) (s : Session) :
    s.marks ≤ (joined ts join s).2.marks := by
  rw [joined]
  split
  · exact Course.marks_start _ s
  · exact Nat.le_refl _

theorem Task.marks_fire (t : Task ρ) (s : Session) : s.marks ≤ (t.fire s).2.marks :=
  (Woven.of_fire t s).marks_le

theorem Task.marks_fireFirst (τ : Timer) (ts : List (Task ρ)) (s : Session) :
    s.marks ≤ (fireFirst τ ts s).2.marks := by
  induction ts generalizing s with
  | nil => exact Nat.le_refl _
  | cons t rest ih =>
    rw [fireFirst]
    split
    · exact t.marks_fire s
    · exact ih s

end Marks

/-- Whether what is done in sessions that resemble each other comes to results that are related, and
the sessions still resemble each other, unless the first one was marked. -/
def Matches {β : Type} (Q : α → β → Prop) (f : Session → α × Session) (g : Session → β × Session) :
    Prop :=
  ∀ s t, s.Resembles t →
    s.marks < (f s).2.marks ∨ Q (f s).1 (g t).1 ∧ (f s).2.Resembles (g t).2

namespace Matches

variable {β γ δ : Type} {Q : α → β → Prop} {Q' : γ → δ → Prop}

theorem pure {x : α} {y : β} (h : Q x y) : Matches Q (fun s => (x, s)) fun t => (y, t) :=
  fun _ _ hs => .inr ⟨h, hs⟩

/-- What is done one after the other. -/
theorem bind {f : Session → α × Session} {g : Session → β × Session} {k : α → Session → γ × Session}
    {l : β → Session → δ × Session} (hf : Matches Q f g)
    (hk : ∀ x y, Q x y → Matches Q' (k x) (l y)) (hgrows : ∀ s, s.marks ≤ (f s).2.marks)
    (hmore : ∀ x s, s.marks ≤ (k x s).2.marks) :
    Matches Q' (fun s => k (f s).1 (f s).2) fun t => l (g t).1 (g t).2 := by
  intro s t hs
  rcases hf s t hs with hmarked | ⟨hq, hresembles⟩
  · exact .inl (hmarked.trans_le (hmore _ _))
  · rcases hk _ _ hq _ _ hresembles with hmarked | hend
    · exact .inl ((hgrows s).trans_lt hmarked)
    · exact .inr hend

end Matches

section Scheduler

variable {ts ts' : List (Task ρ)} {join join' : List ρ → Course ρ}

theorem Task.matches_joined (hts : List.Forall₂ Task.UpToMark ts ts')
    (hj : ∀ rs, (join rs).UpToMark (join' rs))
    (hstart : ∀ rs, Matches Task.UpToMark (join rs).start (join' rs).start) :
    Matches Task.UpToMark (Task.joined ts join) (Task.joined ts' join') := by
  intro s t hs
  rw [Task.joined, Task.joined, ← Task.results?_eq_of_upToMark hts]
  cases Task.results? ts with
  | some rs => exact hstart rs s t hs
  | none => exact .inr ⟨.joins hts hj, hs⟩

theorem matches_startAll {ps ps' : List (Course ρ)}
    (h : List.Forall₂ (fun p p' => Matches Task.UpToMark p.start p'.start) ps ps') :
    Matches (List.Forall₂ Task.UpToMark) (startAll ps) (startAll ps') := by
  induction h with
  | nil => exact .pure .nil
  | @cons p p' rest rest' hp _ ih =>
    refine Matches.bind (k := fun t s => (t :: (startAll rest s).1, (startAll rest s).2))
      (l := fun t s => (t :: (startAll rest' s).1, (startAll rest' s).2)) hp (fun t t' ht => ?_)
      p.marks_start fun _ => marks_startAll rest
    exact Matches.bind (k := fun us s => (t :: us, s)) (l := fun us s => (t' :: us, s)) ih
      (fun _ _ hus => .pure (.cons ht hus)) (marks_startAll rest) fun _ _ => Nat.le_refl _

/-- **Courses are started in step**, up to a mark. -/
theorem Course.UpToMark.matches_start {p p' : Course ρ} (h : p.UpToMark p') :
    Matches Task.UpToMark p.start p'.start := by
  induction h with
  | done r => exact .pure (.finished r)
  | @take step next next' _ ih =>
    intro s t hs
    obtain ⟨hyield, hresembles⟩ := hs.take step
    rw [Course.start, Course.start, ← hyield]
    rcases ih _ _ _ hresembles with hmarked | hend
    · exact .inl ((s.marks_le_take step).trans_lt hmarked)
    · exact .inr hend
  | @pause ms next next' hn ih =>
    cases ms with
    | zero => exact ih
    | succ ms =>
      intro s t hs
      refine .inr ⟨?_, hs⟩
      rw [Course.start, Course.start, hs.clock_eq]
      exact .waiting hn
  | @fork branches branches' join join' hlength _ hj ihb ihj =>
    intro s t hs
    rw [Course.start_fork, Course.start_fork]
    exact Matches.bind (matches_startAll (List.forall₂_iff_get.2 ⟨hlength, ihb⟩))
      (fun _ _ hts => Task.matches_joined hts hj ihj) (marks_startAll branches) Task.marks_joined
      s t hs
  | mark =>
    intro s t _
    rw [Course.start]
    exact .inl (s.marks_lt_mark.trans_le (Course.marks_start _ _))

theorem Task.matches_fireFirst (τ : Timer) (h : List.Forall₂
    (fun t t' => t.UpToMark t' ∧ Matches Task.UpToMark t.fire t'.fire) ts ts') :
    Matches (List.Forall₂ Task.UpToMark) (Task.fireFirst τ ts) (Task.fireFirst τ ts') := by
  induction h with
  | nil => exact .pure .nil
  | @cons t t' us us' ht hrest ih =>
    obtain ⟨hupto, hfire⟩ := ht
    intro r r' hr
    rw [Task.fireFirst, Task.fireFirst, ← hupto.timer?_eq]
    split
    · exact Matches.bind (k := fun u s => (u :: us, s)) (l := fun u s => (u :: us', s)) hfire
        (fun _ _ hu => .pure (.cons hu (hrest.imp fun _ _ h => h.1))) t.marks_fire
        (fun _ _ => Nat.le_refl _) r r' hr
    · exact Matches.bind (k := fun vs s => (t :: vs, s)) (l := fun vs s => (t' :: vs, s)) ih
        (fun _ _ hvs => .pure (.cons hupto hvs)) (Task.marks_fireFirst τ us)
        (fun _ _ => Nat.le_refl _) r r' hr

/-- **Tasks go on in step**, up to a mark. -/
theorem Task.UpToMark.matches_fire {t t' : Task ρ} (h : t.UpToMark t') :
    Matches Task.UpToMark t.fire t'.fire := by
  induction h with
  | finished r => exact .pure (.finished r)
  | waiting hn => exact hn.matches_start
  | @joining branches branches' join join' hlength hb hj ih =>
    have hall : List.Forall₂ Task.UpToMark branches branches' :=
      List.forall₂_iff_get.2 ⟨hlength, hb⟩
    have hfires : List.Forall₂ (fun t t' => t.UpToMark t' ∧ Matches Task.UpToMark t.fire t'.fire)
        branches branches' :=
      List.forall₂_iff_get.2 ⟨hlength, fun i h h' => ⟨hb i h h', ih i h h'⟩⟩
    have hjoined : ∀ us us', List.Forall₂ Task.UpToMark us us' →
        Matches Task.UpToMark (Task.joined us join) (Task.joined us' join') := fun us us' hus =>
      Task.matches_joined hus hj fun rs => (hj rs).matches_start
    intro s t hs
    rw [Task.fire, Task.fire, ← Task.firstTimer?_eq_of_upToMark hall]
    cases Task.firstTimer? branches with
    | some τ =>
      exact Matches.bind (Task.matches_fireFirst τ hfires) hjoined (Task.marks_fireFirst τ branches)
        Task.marks_joined s t hs
    | none => exact hjoined _ _ hall s t hs

theorem Task.UpToMark.resembles_await {t t' : Task ρ} (h : t.UpToMark t') {s s' : Session}
    (hs : s.Resembles s') : (t.await s).Resembles (t'.await s') := by
  have htimer := h.timer?_eq
  cases h with
  | finished r => exact hs
  | waiting hn => exact hs.advance _ _
  | joining hlength hb hj =>
    rw [Task.timer?, Task.timer?, Option.some.injEq] at htimer
    simp only [Task.await, Task.timer?, htimer]
    exact hs.advance _ _

theorem Task.marks_run (t : Task ρ) (s : Session) : s.marks ≤ (t.run s).2.marks :=
  (Woven.of_run t s).marks_le

/-- **Tasks run in step**, up to a mark. -/
theorem Task.UpToMark.matches_run {t t' : Task ρ} (h : t.UpToMark t') :
    Matches Eq t.run t'.run := by
  induction t using Task.fires_wf.induction generalizing t' with
  | h t ih =>
    intro s s' hs
    cases hresult : t.result? with
    | some r =>
      have hresult' : t'.result? = some r := h.result?_eq.symm.trans hresult
      rw [Task.run_of_result? hresult, Task.run_of_result? hresult']
      exact .inr ⟨rfl, hs⟩
    | none =>
      have hresult' : t'.result? = none := h.result?_eq.symm.trans hresult
      rw [Task.run_of_result?_eq_none hresult, Task.run_of_result?_eq_none hresult']
      have hawait : s.marks ≤ (t.await s).marks := (Woven.of_await t s t.rest).marks_le
      rcases h.matches_fire _ _ (h.resembles_await hs) with hmarked | ⟨hfired, hresembles⟩
      · exact .inl ((hawait.trans_lt hmarked).trans_le (Task.marks_run _ _))
      · rcases ih _ ⟨hresult, t.await s, rfl⟩ hfired _ _ hresembles with hmarked | hend
        · exact .inl ((hawait.trans (t.marks_fire _)).trans_lt hmarked)
        · exact .inr hend

end Scheduler

/-- **A course has the same result as another one in sessions that resemble each other**, up to a
mark, and they still resemble each other afterwards. -/
theorem Course.UpToMark.run {p p' : Course ρ} (h : p.UpToMark p') {s t : Session}
    (hs : s.Resembles t) : s.marks < (s.run p).2.marks ∨
      (s.run p).1 = (t.run p').1 ∧ (s.run p).2.Resembles (t.run p').2 :=
  Matches.bind h.matches_start (fun _ _ ht => ht.matches_run) p.marks_start Task.marks_run s t hs

theorem Session.marks_run (s : Session) (p : Course ρ) : s.marks ≤ (s.run p).2.marks :=
  (s.woven_run p).marks_le

end Scenario
