import Mathlib
import Scenario.Action.Execution
import Scenario.Proofs.Session.Sequel

/-!
# Loops, pass by pass

A loop keeps account of its passes beside the variable for the index.  Its body is any list of
actions, which may set that variable, and for a loop with a condition it is the body that decides
how many passes there are.  So nothing can be said of a loop by looking at its body; but it can be
said what comes before a pass and what comes after it, and this is enough to say how a loop ends.

Passes are counted from 0.  Pass `k` begins when the variable for the index has been set to
`start + k * step`, as far as this is a number of 64 bits, and then the loop either stops without it
or makes it.

## What is here

* `Loop.indexAt` — the index of pass `k`, also where it has left the range of its numbers.
* `Loop.begun` — the session in which pass `k` begins; `Loop.Goes` says that the pass is made there,
  and `Loop.Stops` that it is not and what the loop ends with.
* `Loop.Passes` — some number of passes that all succeed, one after the other.
* `Loop.woven_resumed_iff` is what a loop does next, and `Loop.woven_repeated_iff` what it comes to:
  after some complete passes it stops, or the body fails.
* `Loop.iterate_count` — a loop with a count is its unrolling — and `Loop.iterate_condition` — the
  guard of a loop with a condition is exact.
-/

set_option autoImplicit false

namespace Scenario

open Text

/-! ## After a success -/

/-- What comes after a success runs just if there is a success. -/
theorem Woven.onSuccess_iff {p : Course Outcome} {next : Unit → Course Outcome} {r : Outcome}
    {s s' : Session} : Woven (p.onSuccess next, s) (.done r, s') ↔
      (∃ t, Woven (p, s) (.done (.ok ()), t) ∧ Woven (next (), t) (.done r, s')) ∨
        ∃ f, r = .error f ∧ Woven (p, s) (.done (.error f), s') := by
  rw [Course.onSuccess, andThen_iff]
  constructor
  · rintro ⟨_ | _, t, hp, hnext⟩
    · obtain ⟨rfl, ht⟩ := done_iff.1 hnext
      exact .inr ⟨_, rfl, hp.trans (ht.woven _)⟩
    · exact .inl ⟨t, hp, hnext⟩
  · rintro (⟨t, hp, hnext⟩ | ⟨f, rfl, hp⟩)
    · exact ⟨_, t, hp, hnext⟩
    · exact ⟨_, s', hp, .refl⟩

namespace Loop

variable (l : Loop) (ctx : Context) (body : Course Outcome)

/-- The index of a pass.  It is a number of 64 bits, so one that leaves their range goes on at the
other end. -/
def indexAt (k : Nat) : Int64 := .ofInt (l.start.toInt + k * l.step.toInt)

theorem indexAt_zero : l.indexAt 0 = l.start := by
  rw [indexAt, Int.natCast_zero, Int.zero_mul, Int.add_zero, Int64.ofInt_toInt]

theorem indexAt_succ (k : Nat) : l.indexAt (k + 1) = l.indexAt k + l.step := by
  rw [indexAt, indexAt, Int.natCast_succ, Int.add_mul, Int.one_mul, ← Int.add_assoc,
    Int64.ofInt_add, Int64.ofInt_toInt]

/-- As long as the range is not left, the index is what the start and the steps add up to. -/
theorem toInt_indexAt {k : Nat} (hmin : Int64.minValue.toInt ≤ l.start.toInt + k * l.step.toInt)
    (hmax : l.start.toInt + k * l.step.toInt ≤ Int64.maxValue.toInt) :
    (l.indexAt k).toInt = l.start.toInt + k * l.step.toInt :=
  Int64.toInt_ofInt_of_le hmin (Int.lt_add_one_of_le hmax)

example : ({ bound := .count 2, start := Int64.maxValue } : Loop).indexAt 1 = Int64.minValue := by
  decide

/-- The session in which a pass begins, if that is made: the index is set. -/
def begun (k : Nat) (s : Session) : Session :=
  s.changeStore ctx.scope (·.set l.index (Json.ofInt (l.indexAt k).toInt))

/-- The number of passes that a loop makes at most. -/
def most : Nat :=
  match l.bound with
  | .count n => n
  | .condition _ => l.limit

/-- Whether the loop makes pass `k`, which begins in some session.  A condition is resolved and
evaluated there. -/
def Goes (k : Nat) (t : Session) : Prop :=
  match l.bound with
  | .count n => k < n
  | .condition text =>
    k < l.limit ∧ l.holds text (l.indexAt k) ctx.library (t.store ctx.scope) = .ok true

/-- Whether the loop stops where pass `k` would begin, with some outcome. -/
def Stops (k : Nat) (t : Session) (r : Outcome) : Prop :=
  match l.bound with
  | .count n => k = n ∧ r = .ok ()
  | .condition text =>
    match l.holds text (l.indexAt k) ctx.library (t.store ctx.scope) with
    | .error f => r = .error f
    | .ok false => r = .ok ()
    | .ok true => k = l.limit ∧ r = .error (.iterationLimit l.limit)

/-- Some number of passes that all succeed, from one session to another. -/
inductive Passes (s : Session) : Nat → Session → Prop
  | none {t : Session} (h : s.Elapses t) : Passes s 0 t
  | more {k : Nat} {t u : Session} (h : Passes s k t) (hgoes : l.Goes ctx k (l.begun ctx k t))
      (hbody : Woven (body, l.begun ctx k t) (.done (.ok ()), u)) : Passes s (k + 1) u

/-- What is left of a loop before pass `k`. -/
def resumed (k : Nat) : Course Outcome :=
  match l.bound with
  | .count n => l.repeatCount ctx body (n - k) (l.indexAt k)
  | .condition text => l.repeatWhile ctx text body (l.limit - k) (l.indexAt k)

variable {l ctx body} {k : Nat} {s s' t : Session} {r : Outcome}

theorem resumed_zero : l.resumed ctx body 0 = l.repeated ctx body := by
  rw [resumed, repeated, indexAt_zero]
  rfl

theorem Goes.lt_most (h : l.Goes ctx k t) : k < l.most := by
  cases hbound : l.bound with
  | count n =>
    simp only [Goes, hbound] at h
    simpa only [most, hbound] using h
  | condition text =>
    simp only [Goes, hbound] at h
    simpa only [most, hbound] using h.1

/-! ## The next pass -/

/-- A check sets the index and then looks at the condition.  Time that passes in between does not
change the variables. -/
theorem woven_whenHolds_iff {text : String} {index : Int64} {next : Unit → Course Outcome} :
    Woven (l.whenHolds ctx text index next, s) (.done r, s') ↔
      ∃ t, s.Elapses t ∧
        let b := t.changeStore ctx.scope (·.set l.index (Json.ofInt index.toInt))
        match l.holds text index ctx.library (b.store ctx.scope) with
        | .error f => r = .error f ∧ b.Elapses s'
        | .ok false => r = .ok () ∧ b.Elapses s'
        | .ok true => Woven (next (), b) (.done r, s') := by
  rw [show l.whenHolds ctx text index next =
    .take (.write ctx.scope l.index (Json.ofInt index.toInt))
      (fun _ => .take (.read ctx.scope) fun store =>
        match l.holds text index ctx.library store with
        | .error f => .done (.error f)
        | .ok false => .done (.ok ())
        | .ok true => next ()) from rfl, Woven.take_iff]
  refine exists_congr fun t => and_congr_right fun _ => Woven.read_iff.trans ?_
  dsimp only [Session.take]
  generalize t.changeStore ctx.scope _ = b
  cases l.holds text index ctx.library (b.store ctx.scope) with
  | error f => exact Woven.done_iff
  | ok verdict =>
    cases verdict with
    | false => exact Woven.done_iff
    | true => rfl

/-- **What a loop does next**: it stops, or makes a pass and goes on if that succeeds. -/
theorem woven_resumed_iff (hk : k ≤ l.most) :
    Woven (l.resumed ctx body k, s) (.done r, s') ↔
      ∃ t, s.Elapses t ∧
        ((l.Stops ctx k (l.begun ctx k t) r ∧ (l.begun ctx k t).Elapses s') ∨
          (l.Goes ctx k (l.begun ctx k t) ∧
            Woven (body.onSuccess fun _ => l.resumed ctx body (k + 1), l.begun ctx k t)
              (.done r, s'))) := by
  cases hbound : l.bound with
  | count n =>
    simp only [most, hbound] at hk
    simp only [resumed, Goes, Stops, hbound]
    obtain rfl | hlt := Nat.eq_or_lt_of_le hk
    · rw [Nat.sub_self, repeatCount]
      refine Woven.take_iff.trans (exists_congr fun t => and_congr_right fun _ => ?_)
      simp only [true_and, Nat.lt_irrefl, false_and, or_false]
      exact Woven.done_iff
    · have hleft : n - k = n - (k + 1) + 1 := by omega
      rw [hleft, repeatCount, l.indexAt_succ]
      refine Woven.take_iff.trans (exists_congr fun t => and_congr_right fun _ => ?_)
      simp only [hlt.ne, hlt, false_and, true_and, false_or]
      rfl
  | condition text =>
    simp only [most, hbound] at hk
    simp only [resumed, Goes, Stops, hbound]
    obtain rfl | hlt := Nat.eq_or_lt_of_le hk
    · rw [Nat.sub_self, repeatWhile, woven_whenHolds_iff]
      refine exists_congr fun t => and_congr_right fun _ => ?_
      simp only [true_and, Nat.lt_irrefl, false_and, or_false, begun]
      generalize t.changeStore ctx.scope _ = b
      cases l.holds text (l.indexAt l.limit) ctx.library (b.store ctx.scope) with
      | error f => rfl
      | ok verdict =>
        cases verdict with
        | false => rfl
        | true => exact Woven.done_iff
    · have hleft : l.limit - k = l.limit - (k + 1) + 1 := by omega
      rw [hleft, repeatWhile, woven_whenHolds_iff, l.indexAt_succ]
      refine exists_congr fun t => and_congr_right fun _ => ?_
      simp only [hlt.ne, hlt, false_and, true_and, begun]
      generalize t.changeStore ctx.scope _ = b
      cases l.holds text (l.indexAt k) ctx.library (b.store ctx.scope) with
      | error f => simp
      | ok verdict =>
        cases verdict with
        | false => simp
        | true => simp

/-! ## All passes -/

namespace Passes

variable {u : Session}

/-- Time can pass after the last pass. -/
theorem elapses (h : l.Passes ctx body s k t) (ht : t.Elapses u) : l.Passes ctx body s k u := by
  cases h with
  | none h => exact .none (h.trans ht)
  | more h hgoes hbody => exact .more h hgoes (hbody.trans (ht.woven _))

theorem le_most (h : l.Passes ctx body s k t) : k ≤ l.most := by
  cases h with
  | none => exact Nat.zero_le _
  | more _ hgoes _ => exact hgoes.lt_most

/-- The scope of the loop is there before each pass. -/
theorem scope_lt (h : l.Passes ctx body s k t) (hscope : ctx.scope < s.scopes.length) :
    ctx.scope < t.scopes.length := by
  induction h with
  | none h => rwa [h.scopes_eq]
  | @more k t u _ _ hbody ih =>
    have hbegun : ctx.scope < (l.begun ctx k t).scopes.length := by
      simpa [begun, Session.changeStore] using ih
    exact hbegun.trans_le hbody.length_scopes_le

/-- **Each pass begins with its index**, whatever the passes before it have written. -/
theorem get?_begun (h : l.Passes ctx body s k t) (hscope : ctx.scope < s.scopes.length) :
    ((l.begun ctx k t).store ctx.scope).get? l.index =
      some (Json.ofInt (l.indexAt k).toInt) := by
  rw [begun, Session.get?_store_changeStore (h.scope_lt hscope), if_pos rfl]

/-- What is left of a loop after some passes can be run after them. -/
theorem woven (h : l.Passes ctx body s k t)
    (hrest : Woven (l.resumed ctx body k, t) (.done r, s')) :
    Woven (l.resumed ctx body 0, s) (.done r, s') := by
  induction h with
  | none h => exact (h.woven _).trans hrest
  | @more k t u h hgoes hbody ih =>
    refine ih ((woven_resumed_iff hgoes.lt_most.le).2 ⟨t, .refl t, .inr ⟨hgoes, ?_⟩⟩)
    exact Woven.onSuccess_iff.2 (.inl ⟨u, hbody, hrest⟩)

/-- After some passes a loop makes more, and then it stops or a pass fails.  The induction is on the
number of passes that may still be made. -/
theorem exists_of_woven (h : l.Passes ctx body s k t)
    (hrest : Woven (l.resumed ctx body k, t) (.done r, s')) :
    ∃ m u, l.Passes ctx body s m u ∧
      ((l.Stops ctx m (l.begun ctx m u) r ∧ (l.begun ctx m u).Elapses s') ∨
        (l.Goes ctx m (l.begun ctx m u) ∧ ∃ f, r = .error f ∧
          Woven (body, l.begun ctx m u) (.done (.error f), s'))) := by
  induction hleft : l.most - k generalizing k t with
  | zero =>
    obtain ⟨u, hu, hstops | ⟨hgoes, -⟩⟩ := (woven_resumed_iff h.le_most).1 hrest
    · exact ⟨k, u, h.elapses hu, .inl hstops⟩
    · exact absurd hgoes.lt_most (by omega)
  | succ left ih =>
    obtain ⟨u, hu, hstops | ⟨hgoes, hpass⟩⟩ := (woven_resumed_iff h.le_most).1 hrest
    · exact ⟨k, u, h.elapses hu, .inl hstops⟩
    · obtain ⟨v, hbody, hmore⟩ | hfails := Woven.onSuccess_iff.1 hpass
      · exact ih (.more (h.elapses hu) hgoes hbody) hmore (by omega)
      · exact ⟨k, u, h.elapses hu, .inr ⟨hgoes, hfails⟩⟩

end Passes

/-- **What a loop comes to**: after some complete passes it stops where the next one would begin, or
makes that one and its body fails. -/
theorem woven_repeated_iff :
    Woven (l.repeated ctx body, s) (.done r, s') ↔
      ∃ k t, l.Passes ctx body s k t ∧
        ((l.Stops ctx k (l.begun ctx k t) r ∧ (l.begun ctx k t).Elapses s') ∨
          (l.Goes ctx k (l.begun ctx k t) ∧ ∃ f, r = .error f ∧
            Woven (body, l.begun ctx k t) (.done (.error f), s'))) := by
  rw [← resumed_zero]
  constructor
  · exact fun h => Passes.exists_of_woven (.none (.refl s)) h
  · rintro ⟨k, t, hpasses, hend⟩
    refine hpasses.woven ((woven_resumed_iff hpasses.le_most).2 ⟨t, .refl t, ?_⟩)
    exact hend.imp_right fun ⟨hgoes, hfails⟩ => ⟨hgoes, Woven.onSuccess_iff.2 (.inr hfails)⟩

end Loop

/-! ## The context of a loop -/

/-- Whether something inside of a context can begin in a context and a session: time passes, and the
context is derived. -/
def Context.Derives (ctx : Context) (sharing : Sharing) (s : Session) (inner : Context)
    (opened : Session) : Prop :=
  ∃ t, s.Elapses t ∧ (ctx.derive sharing).alone t = (inner, opened)

theorem Context.Derives.scope_lt {ctx inner : Context} {sharing : Sharing} {s opened : Session}
    (h : ctx.Derives sharing s inner opened) (hscope : ctx.scope < s.scopes.length) :
    inner.scope < opened.scopes.length := by
  obtain ⟨t, ht, heq⟩ := h
  cases sharing with
  | shared =>
    cases heq
    rwa [ht.scopes_eq]
  | isolated =>
    cases heq
    show t.scopes.length < (t.scopes ++ [_]).length
    simp

theorem Woven.derive_iff {ctx : Context} {sharing : Sharing} {f : Context → Course Outcome}
    {s s' : Session} {r : Outcome} :
    Woven (.after (ctx.derive sharing) f, s) (.done r, s') ↔
      ∃ inner opened, ctx.Derives sharing s inner opened ∧
        Woven (f inner, opened) (.done r, s') := by
  cases sharing with
  | shared =>
    constructor
    · exact fun h => ⟨_, s, ⟨s, .refl s, rfl⟩, h⟩
    · rintro ⟨inner, opened, ⟨t, ht, heq⟩, h⟩
      cases heq
      exact (ht.woven _).trans h
  | isolated =>
    refine Woven.take_iff.trans ⟨?_, ?_⟩
    · rintro ⟨t, ht, h⟩
      exact ⟨_, _, ⟨t, ht, rfl⟩, h⟩
    · rintro ⟨inner, opened, ⟨t, ht, heq⟩, h⟩
      cases heq
      exact ⟨t, ht, h⟩

/-! ## Loops with a count -/

/-- Courses one after the other until one fails. -/
def Course.inOrder : List (Course Outcome) → Course Outcome
  | [] => .done (.ok ())
  | p :: rest => p.onSuccess fun _ => inOrder rest

namespace Loop

variable (l : Loop) (ctx : Context) (body : Course Outcome)

/-- Sets the variable for the index to the index of a pass. -/
def setting (k : Nat) : Course Outcome :=
  .ofActivity (ctx.set l.index (Json.ofInt (l.indexAt k).toInt))

/-- What a loop with a count stands for: the index is set and the body runs, so many times, and then
the index is set once more. -/
def unrolled (n : Nat) : List (Course Outcome) :=
  ((List.range n).flatMap fun k => [l.setting ctx k, body]) ++ [l.setting ctx n]

theorem repeatCount_eq (n k : Nat) :
    l.repeatCount ctx body n (l.indexAt k) =
      .inOrder (((List.range' k n).flatMap fun j => [l.setting ctx j, body]) ++
        [l.setting ctx (k + n)]) := by
  induction n generalizing k with
  | zero => rfl
  | succ n ih =>
    rw [repeatCount, ← indexAt_succ, ih, List.range'_succ, List.flatMap_cons,
      Nat.add_right_comm k 1 n]
    rfl

theorem repeatCount_eq_unrolled (n : Nat) :
    l.repeatCount ctx body n l.start = .inOrder (l.unrolled ctx body n) := by
  rw [← l.indexAt_zero, repeatCount_eq, unrolled, List.range_eq_range', Nat.zero_add]

variable {l ctx body}

/-- **A loop with a count is its unrolling.**  As a course it is the same as setting the index and
running the body so many times in one derived context, and setting the index once more.  In a
session, whichever way it runs:

* Each pass begins with its index in the variable, whatever the passes before it have written there.
  It is `start + k * step` wherever this is a number of 64 bits.
* Either all passes succeed, and then there are as many as the count says and the index after the
  last one is left in the variable; or the body of some pass fails after those before it have
  succeeded, and then its failure is that of the loop and the loop ends where the body has ended.
-/
theorem iterate_count {n : Nat} (hbound : l.bound = .count n) (call : Caller) (ctx : Context)
    (actions : List Action) :
    (Action.iterate l actions).execute call ctx =
      .after (ctx.derive l.sharing) (fun inner =>
        .inOrder (l.unrolled inner (executeAll call inner actions) n)) ∧
    (∀ k : Nat, Int64.minValue.toInt ≤ l.start.toInt + k * l.step.toInt →
      l.start.toInt + k * l.step.toInt ≤ Int64.maxValue.toInt →
        (l.indexAt k).toInt = l.start.toInt + k * l.step.toInt) ∧
    ∀ {s : Session}, ctx.scope < s.scopes.length →
      (∀ inner opened, ctx.Derives l.sharing s inner opened →
        ∀ k t, l.Passes inner (executeAll call inner actions) opened k t →
          ((l.begun inner k t).store inner.scope).get? l.index =
            some (Json.ofInt (l.indexAt k).toInt)) ∧
      ∀ r s', Woven ((Action.iterate l actions).execute call ctx, s) (.done r, s') ↔
        ∃ inner opened, ctx.Derives l.sharing s inner opened ∧
          ((r = .ok () ∧
            (s'.store inner.scope).get? l.index = some (Json.ofInt (l.indexAt n).toInt) ∧
            ∃ t, l.Passes inner (executeAll call inner actions) opened n t ∧
              (l.begun inner n t).Elapses s') ∨
          ∃ k < n, ∃ t f, l.Passes inner (executeAll call inner actions) opened k t ∧
            r = .error f ∧
            Woven (executeAll call inner actions, l.begun inner k t) (.done (.error f), s')) := by
  refine ⟨?_, fun _ => toInt_indexAt l,
    fun {s} hscope => ⟨fun inner opened hinner k t hpasses => ?_, fun r s' => ?_⟩⟩
  · rw [Action.execute]
    congr 1
    funext inner
    rw [repeated, hbound]
    exact l.repeatCount_eq_unrolled inner _ n
  · exact hpasses.get?_begun (hinner.scope_lt hscope)
  · rw [Action.execute, Woven.derive_iff]
    refine exists_congr fun inner => exists_congr fun opened => and_congr_right fun hinner => ?_
    rw [woven_repeated_iff]
    simp only [Stops, Goes, hbound]
    constructor
    · rintro ⟨k, t, hpasses, ⟨⟨rfl, rfl⟩, hend⟩ | ⟨hlt, f, rfl, hfails⟩⟩
      · refine .inl ⟨rfl, ?_, t, hpasses, hend⟩
        rw [hend.store_eq]
        exact hpasses.get?_begun (hinner.scope_lt hscope)
      · exact .inr ⟨k, hlt, t, f, hpasses, rfl, hfails⟩
    · rintro (⟨rfl, -, t, hpasses, hend⟩ | ⟨k, hlt, t, f, hpasses, rfl, hfails⟩)
      · exact ⟨n, t, hpasses, .inl ⟨⟨rfl, rfl⟩, hend⟩⟩
      · exact ⟨k, t, hpasses, .inr ⟨hlt, f, rfl, hfails⟩⟩

/-- Two passes whose body writes to the variable for the index, downwards from 5: the second one
begins with 3 nevertheless, and 1 is what is left at the end. -/
theorem iterate_count_twice :
    let l : Loop := { bound := .count 2, start := 5, step := -2 }
    let actions : List Action := [.createVariables [("i", .bool true)]]
    let ctx : Context := { scope := 0, library := .builtin, run := "r" }
    let s : Session := { scopes := [.empty] }
    ∃ s', Woven ((Action.iterate l actions).execute (Templates.call [] 1) ctx, s)
        (.done (.ok ()), s') ∧
      (s'.store 0).get? "i" = some (.ofInt 1) ∧
      ∀ t, l.Passes ctx (executeAll (Templates.call [] 1) ctx actions) s 1 t →
        ((l.begun ctx 1 t).store 0).get? "i" = some (.ofInt 3) := by
  intro l actions ctx s
  obtain ⟨-, -, hall⟩ := iterate_count (l := l) rfl (Templates.call [] 1) ctx actions
  obtain ⟨hindex, hends⟩ := hall (s := s) (by decide)
  have hrun := s.woven_run ((Action.iterate l actions).execute (Templates.call [] 1) ctx)
  rw [Session.run_of_result? (r := .ok ()) rfl] at hrun
  refine ⟨_, hrun, ?_, fun t ht => hindex ctx s ⟨s, .refl s, rfl⟩ 1 t ht⟩
  obtain ⟨inner, opened, ⟨u, -, hinner⟩, ⟨-, hlast, -⟩ | ⟨_, -, _, _, -, herror, -⟩⟩ :=
    (hends _ _).1 hrun
  · cases hinner
    exact hlast
  · cases herror

/-! ## Loops with a condition -/

/-- A condition is evaluated as it is resolved, with the index in place of its name. -/
theorem holds_of_resolve (l : Loop) {text resolved : String} {index : Int64} {lib : Library}
    {store : Store} (h : resolve lib store text = .ok resolved) :
    l.holds text index lib store = Condition.evaluate (String.ofList
      (substituteWord l.index.toList (Whole.writeInt index.toInt) resolved.toList)) := by
  simp only [holds, h, bind, Except.bind]

/-- What it takes to complete one more pass. -/
theorem passes_succ_iff {text : String} (hbound : l.bound = .condition text) {s u : Session}
    {k : Nat} :
    l.Passes ctx body s (k + 1) u ↔ ∃ t, l.Passes ctx body s k t ∧ k < l.limit ∧
      l.holds text (l.indexAt k) ctx.library ((l.begun ctx k t).store ctx.scope) =
        .ok true ∧
      Woven (body, l.begun ctx k t) (.done (.ok ()), u) := by
  constructor
  · rintro (_ | ⟨hpasses, hgoes, hbody⟩)
    simp only [Goes, hbound] at hgoes
    exact ⟨_, hpasses, hgoes.1, hgoes.2, hbody⟩
  · rintro ⟨t, hpasses, hlt, hholds, hbody⟩
    refine .more hpasses ?_ hbody
    simp only [Goes, hbound]
    exact ⟨hlt, hholds⟩

/-- The number of passes that a loop with a condition may make has no part in one with a count. -/
theorem repeated_limit {n : Nat} (hbound : l.bound = .count n) (limit : Nat) :
    ({ l with limit := limit } : Loop).repeated ctx body = l.repeated ctx body := by
  have hcount : ∀ (m : Nat) (index : Int64),
      ({ l with limit := limit } : Loop).repeatCount ctx body m index =
        l.repeatCount ctx body m index := by
    intro m
    induction m with
    | zero => exact fun _ => rfl
    | succ m ih =>
      intro index
      rw [repeatCount, repeatCount, ih]
      rfl
  obtain ⟨bound, index, start, step, limit', sharing⟩ := l
  obtain rfl : bound = .count n := hbound
  exact hcount n start

/-- **The guard of a loop with a condition is exact.**  The condition is resolved and evaluated
against the variables of the loop before each pass and after the index was set, and a loop ends
after `k` complete passes in one of four ways, where `k` is at most the limit:

* The condition does not hold then, also if the limit has just been reached: the loop succeeds.
* The condition still holds, and `k` is the limit: the loop fails for this.
* The condition cannot be resolved or evaluated: its failure is that of the loop.
* The condition holds, `k` is below the limit and the body fails: its failure is that of the loop.

A pass is complete just if the condition held before it, the limit was not reached and the body has
succeeded.  Loops with a count do not look at the limit. -/
theorem iterate_condition (l : Loop) (call : Caller) (ctx : Context) (actions : List Action) :
    (∀ text, l.bound = .condition text → ∀ s r s',
      Woven ((Action.iterate l actions).execute call ctx, s) (.done r, s') ↔
        ∃ inner opened, ctx.Derives l.sharing s inner opened ∧
          ∃ k ≤ l.limit, ∃ t, l.Passes inner (executeAll call inner actions) opened k t ∧
            let b := l.begun inner k t
            let verdict := l.holds text (l.indexAt k) inner.library (b.store inner.scope)
            (verdict = .ok false ∧ r = .ok () ∧ b.Elapses s') ∨
            (verdict = .ok true ∧ k = l.limit ∧ r = .error (.iterationLimit l.limit) ∧
              b.Elapses s') ∨
            (∃ f, verdict = .error f ∧ r = .error f ∧ b.Elapses s') ∨
            (verdict = .ok true ∧ k < l.limit ∧ ∃ f, r = .error f ∧
              Woven (executeAll call inner actions, b) (.done (.error f), s'))) ∧
    (∀ text, l.bound = .condition text → ∀ inner opened k u,
      l.Passes inner (executeAll call inner actions) opened (k + 1) u ↔
        ∃ t, l.Passes inner (executeAll call inner actions) opened k t ∧ k < l.limit ∧
          l.holds text (l.indexAt k) inner.library
            ((l.begun inner k t).store inner.scope) = .ok true ∧
          Woven (executeAll call inner actions, l.begun inner k t) (.done (.ok ()), u)) ∧
    ∀ n, l.bound = .count n → ∀ limit,
      (Action.iterate { l with limit := limit } actions).execute call ctx =
        (Action.iterate l actions).execute call ctx := by
  refine ⟨fun text hbound s r s' => ?_, fun text hbound inner opened k u => passes_succ_iff hbound,
    fun n hbound limit => ?_⟩
  · rw [Action.execute, Woven.derive_iff]
    refine exists_congr fun inner => exists_congr fun opened => and_congr_right fun hinner => ?_
    have hmost : l.most = l.limit := by simp only [most, hbound]
    rw [woven_repeated_iff]
    simp only [Stops, Goes, hbound]
    refine exists_congr fun k => ?_
    rw [← exists_and_left]
    refine exists_congr fun t => ?_
    rw [← and_assoc, and_iff_right_of_imp (a := k ≤ l.limit) fun h => hmost ▸ h.le_most]
    refine and_congr_right fun hpasses => ?_
    generalize l.begun inner k t = b
    cases l.holds text (l.indexAt k) inner.library (b.store inner.scope) with
    | error f => simp
    | ok verdict => cases verdict <;> simp [and_assoc]
  · rw [Action.execute, Action.execute]
    congr 1
    funext inner
    exact repeated_limit hbound limit

/-- A guard of one pass.  If the body does nothing, the condition still holds after it and the loop
fails; if the body makes the condition false, the loop succeeds after the same number of passes. -/
theorem iterate_condition_once :
    let l : Loop := { bound := .condition "$\x7bgo\x7d", limit := 1 }
    let ctx : Context := { scope := 0, library := .builtin, run := "r" }
    let s : Session := { scopes := [Store.ofFields [("go", .bool true)]] }
    let course : List Action → Course Outcome := fun actions =>
      (Action.iterate l actions).execute (Templates.call [] 1) ctx
    (∃ s', Woven (course [], s) (.done (.error (.iterationLimit 1)), s')) ∧
      ∃ s', Woven (course [.createVariables [("go", .bool false)]], s) (.done (.ok ()), s') := by
  intro l ctx s course
  let body (actions : List Action) : Course Outcome := executeAll (Templates.call [] 1) ctx actions
  have hderives : ctx.Derives l.sharing s ctx s := ⟨s, .refl s, rfl⟩
  let store (go : Bool) (i : Int64) : Store :=
    Store.ofFields [("go", .bool go), ("i", .ofInt i.toInt)]
  have hbefore : l.holds "$\x7bgo\x7d" 1 .builtin (store true 1) = .ok true := by cbv
  have hstill : l.holds "$\x7bgo\x7d" 2 .builtin (store true 2) = .ok true := by cbv
  have hafter : l.holds "$\x7bgo\x7d" 2 .builtin (store false 2) = .ok false := by
    have hresolve : resolve .builtin (store false 2) "$\x7bgo\x7d" = .ok "false" := by cbv
    have hword : substituteWord l.index.toList (Whole.writeInt (Int64.toInt 2)) "false".toList =
      "false".toList := by cbv
    have hevaluate : Condition.evaluate "false" = .ok false := rfl
    rw [l.holds_of_resolve hresolve, hword, String.ofList_toList, hevaluate]
  have hverdict : ∀ {k : Nat} {b : Session} {i : Int64} {st : Store}
      {verdict : Except Failure Bool},
      l.holds "$\x7bgo\x7d" i .builtin st = verdict → l.indexAt k = i → b.store 0 = st →
        l.holds "$\x7bgo\x7d" (l.indexAt k) .builtin (b.store 0) = verdict := by
    rintro k b _ _ verdict h rfl rfl
    exact h
  have hpasses : ∀ actions u, Woven (body actions, l.begun ctx 0 s) (.done (.ok ()), u) →
      l.Passes ctx (body actions) s 1 u := fun actions u hbody => (passes_succ_iff rfl).2
    ⟨s, .none (.refl s), by decide, hverdict hbefore (by decide) rfl, hbody⟩
  have hends := fun actions => (iterate_condition l (Templates.call [] 1) ctx actions).1 _ rfl s
  constructor
  · exact ⟨l.begun ctx 1 (l.begun ctx 0 s), (hends [] _ _).2 ⟨ctx, s, hderives, 1, le_rfl, _,
      hpasses [] _ .refl, .inr (.inl ⟨hverdict hstill (by decide) rfl, rfl, rfl, .refl _⟩)⟩⟩
  · have hbody := (l.begun ctx 0 s).woven_run (body [.createVariables [("go", .bool false)]])
    rw [Session.run_of_result? (r := .ok ()) rfl] at hbody
    exact ⟨l.begun ctx 1 _, (hends _ _ _).2 ⟨ctx, s, hderives, 1, le_rfl, _, hpasses _ _ hbody,
      .inl ⟨hverdict hafter (by decide) rfl, rfl, .refl _⟩⟩⟩

end Loop
end Scenario
