import Mathlib
import Scenario.Action.Execution
import Scenario.Proofs.Action.Bare
import Scenario.Proofs.Failure.InOrder
import Scenario.Proofs.Session.Ownership

/-!
# What a call binds

A call of a template may share the variables of its caller, and then it sets the very variables that
its arguments are resolved against.  Were an argument set before the next one is resolved, what a
call means would depend on the order of its arguments, and a failing argument would leave the first
ones behind.  Neither happens: a call looks at the variables once, finds all values or fails, and
sets variables only after that.

## What is here

* `Template.wanted` lists the values that a call needs, and `Template.argument` is what becomes of
  each.  `Template.bind_of_fails` and `Template.exists_bind` — the first one that fails decides,
  and if none does all are bound.
* `BoundAs` says what a value is bound as, and `Template.Binds` what the variables are after all
  values of a call were bound.
* `Templates.call_succ` takes a call apart: one look, then either a failure or the body.
* `Templates.run_call` — the main result, for a call in any session.
-/

set_option autoImplicit false

namespace Scenario

/-! ## Values of a call -/

/-- What a value is bound as: a text is resolved, and anything else stays as it is. -/
inductive BoundAs (lib : Library) (store : Store) : Json → Json → Prop
  | text {text resolved : String} (h : resolve lib store text = .ok resolved) :
    BoundAs lib store (.string text) (.string resolved)
  | asGiven {v : Json} (h : v.string? = none) : BoundAs lib store v v

theorem boundAs_string_iff {lib : Library} {store : Store} {text : String} {value : Json} :
    BoundAs lib store (.string text) value ↔
      ∃ resolved, resolve lib store text = .ok resolved ∧ value = .string resolved := by
  constructor
  · rintro (h | h)
    · exact ⟨_, h, rfl⟩
    · cases h
  · rintro ⟨resolved, h, rfl⟩
    exact .text h

namespace Template

variable (t : Template) (lib : Library) (store : Store) (arguments : Fields Json)

theorem boundAs_of_resolveArgument {v value : Json} (h : resolveArgument lib store v = .ok value) :
    BoundAs lib store v value := by
  cases v with
  | string text =>
    rw [resolveArgument] at h
    cases hr : resolve lib store text with
    | error f => rw [hr] at h; cases h
    | ok resolved =>
      rw [hr] at h
      cases h
      exact .text hr
  | _ =>
    cases h
    exact .asGiven rfl

/-- The values that a call needs, under the names that they are for: the defaults of parameters
that are left out, and then the arguments.  There is none where a default is missing. -/
def wanted : Fields (Option Json) :=
  (t.parameters.filter fun p => !arguments.has p.name).map (fun p => (p.name, p.default)) ++
    arguments.map fun (name, v) => (name, some v)

/-- What becomes of a value that a call needs. -/
def argument : String × Option Json → Except Failure Json
  | (name, none) => .error (.missingParameter t.name name)
  | (_, some v) => resolveArgument lib store v

/-- What becomes of it, under its name. -/
def named (w : String × Option Json) : Except Failure (String × Json) :=
  (t.argument lib store w).map fun value => (w.1, value)

variable {t lib store} in
theorem named_of_argument {w : String × Option Json} {v : Json}
    (h : t.argument lib store w = .ok v) : t.named lib store w = .ok (w.1, v) := by
  rw [named, h]
  rfl

theorem bindDefaults_eq (parameters : List Parameter) :
    bindDefaults lib store t.name arguments parameters =
      ((parameters.filter fun p => !arguments.has p.name).map fun p => (p.name, p.default)).mapM
        (t.named lib store) := by
  induction parameters with
  | nil => rfl
  | cons p rest ih =>
    rw [bindDefaults]
    split
    · next hhas => rw [List.filter_cons_of_neg (by simp [hhas]), ih]
    · next hhas =>
      rw [List.filter_cons_of_pos (by simp [hhas]), List.map_cons, List.mapM_cons]
      cases hdefault : p.default with
      | none => rfl
      | some default =>
        simp only [named, argument]
        cases resolveArgument lib store default with
        | error f => rfl
        | ok value =>
          rw [ih]
          rfl

theorem bindArguments_eq :
    bindArguments lib store arguments =
      (arguments.map fun (name, v) => (name, some v)).mapM (t.named lib store) := by
  induction arguments with
  | nil => rfl
  | cons p rest ih =>
    obtain ⟨name, v⟩ := p
    rw [bindArguments, List.map_cons, List.mapM_cons, named, argument, ih]
    cases resolveArgument lib store v <;> rfl

/-- **All values are found before any is bound**, against the same variables. -/
theorem bind_eq :
    t.bind lib store arguments =
      (t.wanted arguments).mapM (t.named lib store) >>=
        fun values => .ok (Fields.merge values) := by
  unfold Template.bind
  rw [bindDefaults_eq, bindArguments_eq t, wanted, List.mapM_append]
  simp only [bind_assoc, pure_bind]
  rfl

variable {t lib store arguments}

/-- The first value that cannot be found decides. -/
theorem bind_of_fails {before after : Fields (Option Json)} {w : String × Option Json} {f : Failure}
    (hwanted : t.wanted arguments = before ++ w :: after)
    (hbefore : ∀ u ∈ before, ∃ v, t.argument lib store u = .ok v)
    (hw : t.argument lib store w = .error f) : t.bind lib store arguments = .error f := by
  have hfails : (t.wanted arguments).mapM (t.named lib store) = .error f := by
    rw [hwanted]
    refine mapM_of_fails (fun u hu => ?_) (by rw [named, hw]; rfl)
    obtain ⟨v, hv⟩ := hbefore u hu
    exact ⟨(u.1, v), named_of_argument hv⟩
  rw [bind_eq, hfails]
  rfl

end Template

/-! ## Variables afterwards -/

theorem Store.entries_setAll (store : Store) (fields : Fields Json) :
    (store.setAll fields).entries =
      fields.foldl (fun acc (n, v) => acc.set n v) store.entries := by
  induction fields generalizing store with
  | nil => rfl
  | cons p rest ih => exact ih _

/-- Of variables that are set one after the other the last one of a name counts. -/
theorem Store.get?_setAll (store : Store) (fields : Fields Json) (k : String) :
    (store.setAll fields).get? k = (Fields.get? fields.reverse k).or (store.get? k) := by
  rw [get?, entries_setAll, Fields.get?_foldl_set, get?]

/-- What the variables are after a call has bound its values, which are resolved against the
variables in `store`.  Arguments win over defaults, and of two parameters of the same name the one
that is declared last counts. -/
structure Template.Binds (t : Template) (arguments : Fields Json) (lib : Library)
    (store bound : Store) : Prop where
  supplied : ∀ name v, arguments.get? name = some v →
    ∃ value, BoundAs lib store v value ∧ bound.get? name = some value
  leftOut : ∀ left p right, t.parameters = left ++ p :: right → (∀ q ∈ right, q.name ≠ p.name) →
    arguments.get? p.name = none →
      ∃ default value, p.default = some default ∧ BoundAs lib store default value ∧
        bound.get? p.name = some value
  others : ∀ name, arguments.get? name = none → (∀ p ∈ t.parameters, p.name ≠ name) →
    bound.get? name = store.get? name

namespace Template

variable {t : Template} {lib : Library} {store : Store} {arguments : Fields Json}

/-- What is wanted last under a name: the argument if there is one, and else a default. -/
theorem get?_wanted (hdistinct : arguments.Distinct) (k : String) :
    Fields.get? (t.wanted arguments).reverse k = ((arguments.get? k).map some).or
      (Fields.get? ((t.parameters.filter fun p => !arguments.has p.name).map
        fun p => (p.name, p.default)).reverse k) := by
  rw [wanted, List.reverse_append, Fields.get?_append, ← List.map_reverse,
    Fields.get?_map_value some, hdistinct.get?_reverse]

/-- The default that is wanted last under a name that is left out. -/
theorem get?_wanted_of_leftOut (hdistinct : arguments.Distinct) {left right : List Parameter}
    {p : Parameter} (hparameters : t.parameters = left ++ p :: right)
    (hlast : ∀ q ∈ right, q.name ≠ p.name) (hleft : arguments.get? p.name = none) :
    Fields.get? (t.wanted arguments).reverse p.name = some p.default := by
  have hnone : Fields.get? ((right.filter fun q => !arguments.has q.name).map
      fun q => (q.name, q.default)).reverse p.name = none := by
    refine Fields.get?_eq_none_of_forall fun w hw => ?_
    obtain ⟨q, hq, rfl⟩ := List.mem_map.1 (List.mem_reverse.1 hw)
    exact hlast q (List.mem_filter.1 hq).1
  have hhas : arguments.has p.name = false := by rw [Fields.has_eq_isSome, hleft]; rfl
  rw [get?_wanted hdistinct, hleft, hparameters, List.filter_append,
    List.filter_cons_of_pos (by simp [hhas]), List.map_append, List.map_cons, List.reverse_append,
    List.reverse_cons, List.append_assoc, Fields.get?_append, hnone, List.singleton_append,
    Fields.get?_cons, if_pos rfl]
  rfl

/-- Nothing is wanted under a name that is neither supplied nor declared. -/
theorem get?_wanted_of_other (hdistinct : arguments.Distinct) {name : String}
    (hleft : arguments.get? name = none) (hother : ∀ p ∈ t.parameters, p.name ≠ name) :
    Fields.get? (t.wanted arguments).reverse name = none := by
  rw [get?_wanted hdistinct, hleft]
  refine Fields.get?_eq_none_of_forall fun w hw => ?_
  obtain ⟨p, hp, rfl⟩ := List.mem_map.1 (List.mem_reverse.1 hw)
  exact hother p (List.mem_filter.1 hp).1

theorem eq_of_named {w : String × Option Json} {b : String × Json}
    (h : t.named lib store w = .ok b) :
    w.1 = b.1 ∧ ∃ given, w.2 = some given ∧ BoundAs lib store given b.2 := by
  obtain ⟨name, _ | given⟩ := w
  · cases h
  · rw [named, argument] at h
    cases hresolve : resolveArgument lib store given with
    | error f => rw [hresolve] at h; cases h
    | ok value =>
      rw [hresolve] at h
      cases h
      exact ⟨rfl, given, rfl, boundAs_of_resolveArgument lib store hresolve⟩

/-- If all values are found, what a call sets under a name is the one that is wanted last. -/
theorem exists_bindings (h : ∀ w ∈ t.wanted arguments, ∃ v, t.argument lib store w = .ok v) :
    ∃ bindings, t.bind lib store arguments = .ok bindings ∧ bindings.Distinct ∧
      ∀ k, Option.Rel (fun o v => ∃ given, o = some given ∧ BoundAs lib store given v)
        (Fields.get? (t.wanted arguments).reverse k) (bindings.get? k) := by
  obtain ⟨values, hvalues, hall⟩ := exists_mapM (f := t.named lib store) fun w hw => by
    obtain ⟨v, hv⟩ := h w hw
    exact ⟨(w.1, v), named_of_argument hv⟩
  refine ⟨Fields.merge values, by rw [bind_eq, hvalues]; rfl, Fields.distinct_merge values, ?_⟩
  intro k
  rw [Fields.get?_merge]
  exact Fields.rel_get? (List.forall₂_reverse_iff.2 (hall.imp fun _ _ => eq_of_named)) k

/-- **If all values are found, all are bound**, and nothing else changes. -/
theorem exists_bind (hdistinct : arguments.Distinct)
    (h : ∀ w ∈ t.wanted arguments, ∃ v, t.argument lib store w = .ok v) :
    ∃ bindings, t.bind lib store arguments = .ok bindings ∧
      t.Binds arguments lib store (store.setAll bindings) := by
  obtain ⟨bindings, hbind, hnames, hrel⟩ := exists_bindings h
  have hget : ∀ k, (store.setAll bindings).get? k = (bindings.get? k).or (store.get? k) :=
    fun k => by rw [Store.get?_setAll, hnames.get?_reverse]
  have hbound : ∀ {k given}, Fields.get? (t.wanted arguments).reverse k = some given →
      ∃ v value, given = some v ∧ BoundAs lib store v value ∧
        (store.setAll bindings).get? k = some value := by
    intro k given hgiven
    have hk := hrel k
    rw [hgiven] at hk
    generalize hvalue : bindings.get? k = found at hk
    cases hk with
    | some hk =>
      obtain ⟨v, rfl, hv⟩ := hk
      exact ⟨v, _, rfl, hv, by rw [hget, hvalue]; rfl⟩
  refine ⟨bindings, hbind, ?_, ?_, ?_⟩
  · intro name v hv
    obtain ⟨_, value, ⟨⟩, hvalue⟩ := hbound ((get?_wanted hdistinct name).trans (by rw [hv]; rfl))
    exact ⟨value, hvalue⟩
  · intro left p right hparameters hlast hleft
    exact hbound (get?_wanted_of_leftOut hdistinct hparameters hlast hleft)
  · intro name hleft hother
    have hk := hrel name
    rw [get?_wanted_of_other hdistinct hleft hother] at hk
    generalize hvalue : bindings.get? name = found at hk
    cases hk
    rw [hget, hvalue]
    rfl

end Template

/-! ## Calls in a session -/

namespace Context

/-- The context of something inside that begins in a session. -/
def inside (ctx : Context) (s : Session) : Sharing → Context
  | .shared => { ctx with isolated := false }
  | .isolated => { ctx with scope := s.scopes.length, isolated := true }

variable {ctx : Context} {s : Session}

/-- Variables are set one after the other. -/
theorem alone_setAll (ctx : Context) (fields : Fields Json) (s : Session) :
    (ctx.setAll fields).run.alone s = (.ok (), s.changeStore ctx.scope (·.setAll fields)) := by
  induction fields generalizing s with
  | nil =>
    have hsame : s.scopes.modify ctx.scope (·.setAll []) = s.scopes := List.modify_id ..
    rw [Session.changeStore, hsame]
    rfl
  | cons p rest ih =>
    obtain ⟨name, value⟩ := p
    refine (Activity.alone_bind_ok (Activity.alone_step ..)).trans ((ih _).trans ?_)
    show (_, s.changeStore ctx.scope _ |>.changeStore ctx.scope _) = _
    rw [Session.changeStore, Session.changeStore, List.modify_modify_eq]
    rfl

/-- Something inside finds the variables of its context as they are, whether they are shared or
copied, and all others are left alone. -/
theorem alone_derive (hscope : ctx.scope < s.scopes.length) (sharing : Sharing) :
    ∃ opened, (ctx.derive sharing).alone s = (ctx.inside s sharing, opened) ∧
      opened = { s with scopes := opened.scopes } ∧
      (ctx.inside s sharing).scope < opened.scopes.length ∧
      opened.store (ctx.inside s sharing).scope = s.store ctx.scope ∧
      ∀ scope < s.scopes.length, opened.store scope = s.store scope := by
  cases sharing with
  | shared => exact ⟨s, rfl, rfl, hscope, rfl, fun _ _ => rfl⟩
  | isolated =>
    refine ⟨(s.take (.copy ctx.scope)).2, rfl, rfl, ?_, s.store_openScope _, fun scope h => ?_⟩
    · show s.scopes.length < (s.scopes ++ [_]).length
      simp
    · exact Session.store_take h nofun

end Context

/-- How the body of a template begins when the template is called in a session: its context is the
one inside of the caller's, its variables are those of the caller with the values of the call bound,
and nothing else has changed. -/
structure Template.Begins (t : Template) (arguments : Fields Json) (sharing : Sharing)
    (ctx : Context) (s : Session) (begun : Session) : Prop where
  binds : t.Binds arguments ctx.library (s.store ctx.scope)
    (begun.store (ctx.inside s sharing).scope)
  others : ∀ scope < s.scopes.length, scope ≠ (ctx.inside s sharing).scope →
    begun.store scope = s.store scope
  rest : begun = { s with scopes := begun.scopes }

namespace Templates

variable {templates : Templates} {name : String} {arguments : Fields Json}
  {sharing : Option Sharing} {ctx : Context} {s : Session} {t : Template}

theorem alone_find (ht : templates.get? name = some t) :
    (Activity.ofExcept (templates.find name)).run.alone s = (.ok t, s) := by
  rw [Activity.alone_ofExcept, find, ht]

theorem alone_enter_of_unknown (hname : templates.get? name = none) :
    (templates.enter name arguments sharing ctx).run.alone s =
      (.error (.unknownTemplate name), s) := by
  refine Activity.alone_bind_error ?_
  rw [Activity.alone_ofExcept, find, hname]

theorem alone_enter_of_fails (ht : templates.get? name = some t) {f : Failure}
    (hf : t.bind ctx.library (s.store ctx.scope) arguments = .error f) :
    (templates.enter name arguments sharing ctx).run.alone s = (.error f, s) := by
  refine (Activity.alone_bind_ok (alone_find ht)).trans ?_
  refine (Activity.alone_bind_ok (Activity.alone_step ..)).trans ?_
  exact Activity.alone_bind_error ((Activity.alone_ofExcept ..).trans (congrArg (·, s) hf))

/-- **A call that finds all its values binds them** and nothing else. -/
theorem alone_enter_of_binds (hscope : ctx.scope < s.scopes.length)
    (hdistinct : arguments.Distinct) (ht : templates.get? name = some t)
    (hvalues : ∀ w ∈ t.wanted arguments, ∃ v,
      t.argument ctx.library (s.store ctx.scope) w = .ok v) :
    ∃ begun, t.Begins arguments (sharing.getD t.sharing) ctx s begun ∧
      (templates.enter name arguments sharing ctx).run.alone s =
        (.ok (t, ctx.inside s (sharing.getD t.sharing)), begun) := by
  obtain ⟨bindings, hbind, hbinds⟩ := Template.exists_bind hdistinct hvalues
  obtain ⟨opened, hderive, hrest, hinner, hcopied, hkept⟩ :=
    Context.alone_derive hscope (sharing.getD t.sharing)
  have hfound : (Activity.ofExcept (t.bind ctx.library (s.store ctx.scope) arguments)).run.alone s =
      (.ok bindings, s) := by
    rw [Activity.alone_ofExcept, hbind]
  have hinside :
      (ExceptT.lift (ctx.derive (sharing.getD t.sharing)) : Activity Context).run.alone s =
        (.ok (ctx.inside s (sharing.getD t.sharing)), opened) := by
    rw [Activity.alone_lift, hderive]
  refine ⟨opened.changeStore (ctx.inside s (sharing.getD t.sharing)).scope (·.setAll bindings),
    ⟨?_, fun scope hlt hne => ?_, ?_⟩, ?_⟩
  · rwa [Session.store_changeStore hinner, hcopied]
  · rw [Session.store_changeStore_of_ne hne, hkept scope hlt]
  · rw [hrest]
    rfl
  · refine (Activity.alone_bind_ok (alone_find ht)).trans ?_
    refine (Activity.alone_bind_ok (Activity.alone_step ..)).trans ?_
    refine (Activity.alone_bind_ok hfound).trans ((Activity.alone_bind_ok hinside).trans ?_)
    exact Activity.alone_bind_ok (Context.alone_setAll ..)

/-- **A call binds all its values at once or none.**  It runs in any session and with arguments of
distinct names; the body can be any actions, and calls in it may nest.

* A call of a template that there is not fails, and so does a call with a value that cannot be
  found: a default that is missing, or a text that cannot be resolved.  The first such value
  decides.  The session is then as it was before the call, so nothing was set and no action of the
  body was run, and the name of the template is not put around the failure.
* Otherwise all values are found in the variables as they were before the call, and the body runs
  with these bound. -/
theorem run_call (hscope : ctx.scope < s.scopes.length) (hdistinct : arguments.Distinct)
    (templates : Templates) (name : String) (sharing : Option Sharing) (depth : Nat) :
    let run := s.run (templates.call (depth + 1) name arguments sharing ctx)
    (templates.get? name = none → run = (.error (.unknownTemplate name), s)) ∧
    ∀ t, templates.get? name = some t →
      let value := t.argument ctx.library (s.store ctx.scope)
      (∀ before w after f, t.wanted arguments = before ++ w :: after →
        (∀ u ∈ before, ∃ v, value u = .ok v) → value w = .error f →
          f.layers = [] ∧ run = (.error f, s)) ∧
      ((∀ w ∈ t.wanted arguments, ∃ v, value w = .ok v) →
        ∃ begun, t.Begins arguments (sharing.getD t.sharing) ctx s begun ∧
          run = begun.run ((executeAll (templates.call depth)
            (ctx.inside s (sharing.getD t.sharing)) t.body).andThen
              fun outcome => .done (wrap name outcome))) := by
  refine ⟨fun hname => ?_, fun t ht => ⟨fun before w after f hwanted hbefore hw => ?_,
    fun hvalues => ?_⟩⟩
  · rw [call, Session.run_after, alone_enter_of_unknown hname]
    exact Session.run_of_result? rfl
  · have hfails := Template.bind_of_fails hwanted hbefore hw
    refine ⟨(t.bare_bind ..).layers f hfails, ?_⟩
    rw [call, Session.run_after, alone_enter_of_fails ht hfails]
    exact Session.run_of_result? rfl
  · obtain ⟨begun, hbegins, henter⟩ := alone_enter_of_binds hscope hdistinct ht hvalues
    refine ⟨begun, hbegins, ?_⟩
    rw [call, Session.run_after, henter]

/-- A call that swaps two variables of its caller, with a default that still sees them as they were;
and one that fails with its second argument and leaves the first one unset. -/
theorem run_call_swap :
    let swap : Template := { name := "swap", parameters := [{ name := "a" }, { name := "b" },
      { name := "c", default := some (.string "$\x7ba\x7d$\x7bb\x7d") }] }
    let templates : Templates := [("swap", swap)]
    let s : Session := { scopes := [Store.ofFields [("a", .string "1"), ("b", .string "2")]] }
    let ctx : Context := { scope := 0, library := .builtin, run := "r" }
    let call := fun b => s.run (templates.call 1 "swap"
      [("a", .string "$\x7bb\x7d"), ("b", .string b)] none ctx)
    (∃ begun : Session, call "$\x7ba\x7d" = (.ok (), begun) ∧
      (begun.store 0).get? "a" = some (.string "2") ∧
      (begun.store 0).get? "b" = some (.string "1") ∧
      (begun.store 0).get? "c" = some (.string "12")) ∧
    ∃ f : Failure, f.layers = [] ∧ call "$\x7bx\x7d" = (.error f, s) := by
  intro swap templates s ctx call
  have hscope : ctx.scope < s.scopes.length := by decide
  have hdistinct : ∀ b, Fields.Distinct [("a", Json.string "$\x7bb\x7d"), ("b", .string b)] := by
    simp [Fields.Distinct, Fields.names]
  have ha : resolve ctx.library (s.store ctx.scope) "$\x7bb\x7d" = .ok "2" := by cbv
  have hc : resolve ctx.library (s.store ctx.scope) "$\x7ba\x7d$\x7bb\x7d" = .ok "12" := by cbv
  have hfirst : ∀ w ∈ [("c", some (Json.string "$\x7ba\x7d$\x7bb\x7d")),
      ("a", some (.string "$\x7bb\x7d"))],
      ∃ v, swap.argument ctx.library (s.store ctx.scope) w = .ok v := by
    simp only [List.forall_mem_cons, Template.argument, Template.resolveArgument, ha, hc]
    exact ⟨⟨_, rfl⟩, ⟨_, rfl⟩, List.forall_mem_nil _⟩
  constructor
  · have hb : resolve ctx.library (s.store ctx.scope) "$\x7ba\x7d" = .ok "1" := by cbv
    have hvalues : ∀ w ∈ swap.wanted [("a", .string "$\x7bb\x7d"), ("b", .string "$\x7ba\x7d")],
        ∃ v, swap.argument ctx.library (s.store ctx.scope) w = .ok v := by
      refine List.forall_mem_append.2 ⟨fun w hw => hfirst w (List.mem_append_left _ hw), ?_⟩
      simp only [List.map_cons, List.map_nil, List.forall_mem_cons, Template.argument,
        Template.resolveArgument, ha, hb]
      exact ⟨⟨_, rfl⟩, ⟨_, rfl⟩, List.forall_mem_nil _⟩
    obtain ⟨begun, ⟨⟨hsupplied, hleftOut, -⟩, -, -⟩, hrun⟩ :=
      ((run_call hscope (hdistinct _) templates "swap" none 0).2 swap (by cbv)).2 hvalues
    obtain ⟨_, ha', hbegunA⟩ := hsupplied "a" (.string "$\x7bb\x7d") (by cbv)
    obtain ⟨_, hb', hbegunB⟩ := hsupplied "b" (.string "$\x7ba\x7d") (by cbv)
    obtain ⟨_, _, hdefault, hc', hbegunC⟩ := hleftOut [_, _] _ [] rfl
      (List.forall_mem_nil _) (by cbv)
    cases hdefault
    obtain ⟨_, hr, rfl⟩ := boundAs_string_iff.1 ha'
    cases hr.symm.trans ha
    obtain ⟨_, hr, rfl⟩ := boundAs_string_iff.1 hb'
    cases hr.symm.trans hb
    obtain ⟨_, hr, rfl⟩ := boundAs_string_iff.1 hc'
    cases hr.symm.trans hc
    exact ⟨begun, hrun.trans (Session.run_of_result? rfl), hbegunA, hbegunB, hbegunC⟩
  · obtain ⟨hlayers, hrun⟩ :=
      ((run_call hscope (hdistinct _) templates "swap" none 0).2 swap (by cbv)).1 _
        ("b", some (.string "$\x7bx\x7d")) []
        (.unresolvable "$\x7bx\x7d" "variable 'x' is not defined") (by cbv) hfirst (by cbv)
    exact ⟨_, hlayers, hrun⟩

end Templates
end Scenario
