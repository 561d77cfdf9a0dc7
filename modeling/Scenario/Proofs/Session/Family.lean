import Mathlib.Data.List.Induction
import Mathlib.Logic.Relation
import Scenario.Context
import Scenario.Proofs.Json.Fields
import Scenario.Proofs.Session.Ownership

/-!
# Families of contexts

A context does not hold its variables, it names the scope that they are in.  Contexts come from one
another: a context can be cloned, and a child can be derived from it that shares its variables or
starts with a copy of them.  So a family grows in which some contexts work on the same variables and
others do not, and nothing in a context says which.

The history of the family does.  Two contexts share their variables just if they are linked by a
chain of clones and of derivations that are not isolated, and this is all that is needed to know
where a change is seen.

## What is here

* `Family` is a session with the contexts that were made, and `Turn` what can be done next: a run
  begins, a context is cloned, a child is derived, a variable is set or removed.  `Family.play`
  takes turns one after the other.
* `Family.Links` — a turn that makes a context from another one which then share their variables —
  and `Family.Linked`, chains of these.
* `Family.turn_cases` — what a turn does to the list of contexts.
* `Edit.get?_on` — what is found in a store after a change.
* `Family.scope_eq_iff_linked` and `Family.contexts_share_iff_linked` — who shares with whom, and
  through whom every change is seen.
-/

set_option autoImplicit false

namespace Scenario

/-! ## Turns -/

/-- A change of a single variable. -/
inductive Edit where
  | set (name : String) (value : Json)
  | remove (name : String)

/-- The name of the variable that is changed. -/
def Edit.name : Edit → String
  | set name _ => name
  | remove name => name

/-- What the variable is changed to, if it is not removed. -/
def Edit.value? : Edit → Option Json
  | set _ value => some value
  | remove _ => none

/-- The variables after a change. -/
def Edit.on : Edit → Store → Store
  | set name value, store => store.set name value
  | remove name, store => store.remove name

/-- What can be done with a family of contexts. -/
inductive Turn where
  /-- A run begins with some variables. -/
  | root (library : Library) (store : Store) (test : Option String)
  | clone (of : Nat)
  | derive (of : Nat) (sharing : Sharing)
  /-- A variable is changed through a context. -/
  | edit (through : Nat) (change : Edit)

/-- The context that a turn makes another one from that shares its variables. -/
def Turn.source? : Turn → Option Nat
  | clone of => some of
  | derive of .shared => some of
  | _ => none

/-- Contexts by the order in which they were made, and the session that they are for. -/
structure Family where
  session : Session
  contexts : List Context := []

/-- Changes a variable through a context. -/
def Context.edit (ctx : Context) (s : Session) : Edit → Session
  | .set name value => ((ctx.set name value).run.alone s).2
  | .remove name => s.changeStore ctx.scope (·.remove name)

namespace Family

/-- The family after a turn.  Nothing is done with a context that there is not. -/
def turn (f : Family) : Turn → Family
  | .root library store test =>
    let r := f.session.begin library store test
    ⟨r.2, f.contexts ++ [r.1]⟩
  | .clone of =>
    match f.contexts[of]? with
    | some ctx => { f with contexts := f.contexts ++ [ctx] }
    | none => f
  | .derive of sharing =>
    match f.contexts[of]? with
    | some ctx =>
      let r := (ctx.derive sharing).alone f.session
      ⟨r.2, f.contexts ++ [r.1]⟩
    | none => f
  | .edit through change =>
    match f.contexts[through]? with
    | some ctx => { f with session := ctx.edit f.session change }
    | none => f

/-- What comes of turns one after the other. -/
def play (s : Session) (turns : List Turn) : Family := turns.foldl turn { session := s }

/-- With one of the turns context number `c` is made from number `p` and shares its variables. -/
def Links (s : Session) (turns : List Turn) (p c : Nat) : Prop :=
  ∃ l t, turns[l]? = some t ∧ t.source? = some p ∧
    p < (play s (turns.take l)).contexts.length ∧ c = (play s (turns.take l)).contexts.length

/-- Two contexts are linked by a chain of clones and of derivations that are not isolated. -/
def Linked (s : Session) (turns : List Turn) : Nat → Nat → Prop := Relation.EqvGen (Links s turns)

/-- The scope of a context of a family. -/
def scope? (f : Family) (i : Nat) : Option Nat := f.contexts[i]?.map (·.scope)

end Family

/-! ## What a turn does -/

/-- After a change the variable is found with its new value, or no more, and all others are found as
before. -/
theorem Edit.get?_on (change : Edit) (store : Store) (name : String) :
    (change.on store).get? name =
      if name = change.name then change.value? else store.get? name := by
  cases change with
  | set n v => exact Fields.get?_set store.entries n v name
  | remove n => exact Fields.get?_remove store.entries n name

theorem Context.edit_eq (ctx : Context) (s : Session) (change : Edit) :
    ctx.edit s change = s.changeStore ctx.scope change.on := by
  cases change <;> rfl

namespace Family

variable {f : Family} {s : Session} {turns : List Turn} {t : Turn} {i j : Nat} {c d : Context}

theorem play_append (s : Session) (turns : List Turn) (t : Turn) :
    play s (turns ++ [t]) = (play s turns).turn t := by
  rw [play, List.foldl_append]
  rfl

/-- **A turn makes no context, or one that shares the variables of another, or one with a scope of
its own.** -/
theorem turn_cases (f : Family) (t : Turn) :
    ((f.turn t).contexts = f.contexts ∧
      (f.turn t).session.scopes.length = f.session.scopes.length ∧
      ∀ p, t.source? = some p → f.contexts.length ≤ p) ∨
    (∃ p ctx child, t.source? = some p ∧ f.contexts[p]? = some ctx ∧
      (f.turn t).contexts = f.contexts ++ [child] ∧ child.scope = ctx.scope ∧
      (f.turn t).session = f.session) ∨
    ∃ child, t.source? = none ∧ (f.turn t).contexts = f.contexts ++ [child] ∧
      child.scope = f.session.scopes.length ∧
      (f.turn t).session.scopes.length = f.session.scopes.length + 1 := by
  cases t with
  | root library store test =>
    exact .inr (.inr ⟨_, rfl, rfl, rfl, List.length_append⟩)
  | clone of =>
    rw [turn]
    cases hctx : f.contexts[of]? with
    | none =>
      refine .inl ⟨rfl, rfl, ?_⟩
      rintro _ ⟨⟩
      exact List.getElem?_eq_none_iff.1 hctx
    | some ctx => exact .inr (.inl ⟨of, ctx, ctx, rfl, hctx, rfl, rfl, rfl⟩)
  | derive of sharing =>
    rw [turn]
    cases hctx : f.contexts[of]? with
    | none =>
      refine .inl ⟨rfl, rfl, fun p hp => ?_⟩
      cases sharing with
      | shared =>
        cases hp
        exact List.getElem?_eq_none_iff.1 hctx
      | isolated => cases hp
    | some ctx =>
      cases sharing with
      | shared => exact .inr (.inl ⟨of, ctx, _, rfl, hctx, rfl, rfl, rfl⟩)
      | isolated => exact .inr (.inr ⟨_, rfl, rfl, rfl, List.length_append⟩)
  | edit through change =>
    rw [turn]
    cases hctx : f.contexts[through]? with
    | none => exact .inl ⟨rfl, rfl, nofun⟩
    | some ctx =>
      refine .inl ⟨rfl, ?_, nofun⟩
      show (ctx.edit f.session change).scopes.length = _
      rw [ctx.edit_eq]
      exact List.length_modify ..

/-- A context that was made stays what it is. -/
theorem getElem?_turn (hi : f.contexts[i]? = some c) (t : Turn) :
    (f.turn t).contexts[i]? = some c := by
  have hlt := (List.getElem?_eq_some_iff.1 hi).1
  rcases f.turn_cases t with ⟨hsame, -⟩ | ⟨_, _, _, -, -, hmade, -⟩ | ⟨_, -, hmade, -⟩
  · rwa [hsame]
  · rwa [hmade, List.getElem?_append_left hlt]
  · rwa [hmade, List.getElem?_append_left hlt]

/-- The scopes of all contexts are there. -/
theorem scope_lt_play (hi : (play s turns).contexts[i]? = some c) :
    c.scope < (play s turns).session.scopes.length := by
  induction turns using List.reverseRecOn generalizing i c with
  | nil => cases hi
  | append_singleton turns t ih =>
    rw [play_append] at hi ⊢
    have hold : ∀ {i : Nat} {c : Context}, (play s turns).contexts[i]? = some c →
        c.scope < ((play s turns).turn t).session.scopes.length := by
      intro i c hi
      have := ih hi
      rcases (play s turns).turn_cases t with ⟨-, hscopes, -⟩ | ⟨_, _, _, -, -, -, -, hsession⟩ |
        ⟨_, -, -, -, hscopes⟩
      · omega
      · rwa [hsession]
      · omega
    have hnew : ∀ {child : Context}, ((play s turns).turn t).contexts =
          (play s turns).contexts ++ [child] →
        child.scope < ((play s turns).turn t).session.scopes.length →
        c.scope < ((play s turns).turn t).session.scopes.length := by
      intro child hmade hchild
      rw [hmade] at hi
      have hmem := List.mem_of_getElem? hi
      rcases List.mem_append.1 hmem with hmem | hmem
      · obtain ⟨i', hi'⟩ := List.mem_iff_getElem?.1 hmem
        exact hold hi'
      · rwa [List.mem_singleton.1 hmem]
    rcases (play s turns).turn_cases t with ⟨hsame, -⟩ | ⟨p, ctx, child, -, hp, hmade, hscope, -⟩ |
      ⟨child, -, hmade, hscope, hscopes⟩
    · rw [hsame] at hi
      exact hold hi
    · exact hnew hmade (hscope ▸ hold hp)
    · exact hnew hmade (by omega)

/-! ## Links -/

/-- The links after one more turn. -/
theorem links_append {p n : Nat} :
    Links s (turns ++ [t]) p n ↔ Links s turns p n ∨
      t.source? = some p ∧ p < (play s turns).contexts.length ∧
        n = (play s turns).contexts.length := by
  constructor
  · rintro ⟨l, t', hl, hsource, hp, hn⟩
    rcases Nat.lt_trichotomy l turns.length with hlt | rfl | hgt
    · rw [List.take_append_of_le_length (Nat.le_of_lt hlt)] at hp hn
      rw [List.getElem?_append_left hlt] at hl
      exact .inl ⟨l, t', hl, hsource, hp, hn⟩
    · rw [List.take_left] at hp hn
      rw [List.getElem?_concat_length] at hl
      cases hl
      exact .inr ⟨hsource, hp, hn⟩
    · rw [List.getElem?_eq_none (by rw [List.length_append, List.length_singleton]; omega)] at hl
      cases hl
  · rintro (⟨l, t', hl, hsource, hp, hn⟩ | ⟨hsource, hp, hn⟩)
    · have hlt := (List.getElem?_eq_some_iff.1 hl).1
      refine ⟨l, t', by rwa [List.getElem?_append_left hlt], hsource, ?_, ?_⟩
      · rwa [List.take_append_of_le_length (Nat.le_of_lt hlt)]
      · rwa [List.take_append_of_le_length (Nat.le_of_lt hlt)]
    · refine ⟨turns.length, t, List.getElem?_concat_length, hsource, ?_, ?_⟩
      · rwa [List.take_left]
      · rwa [List.take_left]

theorem Linked.append (h : Linked s turns i j) (t : Turn) : Linked s (turns ++ [t]) i j :=
  Relation.EqvGen.mono (fun _ _ hl => links_append.2 (.inl hl)) _ _ h

theorem scope?_of_getElem? (hi : f.contexts[i]? = some c) : f.scope? i = some c.scope := by
  rw [scope?, hi, Option.map_some]

/-- A context that was made from another one without isolation has its scope. -/
theorem scope?_of_links {p n : Nat} (h : Links s turns p n) :
    ∃ scope, (play s turns).scope? p = some scope ∧ (play s turns).scope? n = some scope := by
  induction turns using List.reverseRecOn with
  | nil =>
    obtain ⟨l, t, hl, -⟩ := h
    cases hl
  | append_singleton turns t ih =>
    have hkept : ∀ {i scope}, (play s turns).scope? i = some scope →
        (play s (turns ++ [t])).scope? i = some scope := by
      intro i scope hi
      obtain ⟨ctx, hctx, rfl⟩ := Option.map_eq_some_iff.1 hi
      rw [play_append]
      exact scope?_of_getElem? (getElem?_turn hctx t)
    rcases links_append.1 h with hold | ⟨hsource, hp, rfl⟩
    · obtain ⟨scope, hp, hn⟩ := ih hold
      exact ⟨scope, hkept hp, hkept hn⟩
    · rcases (play s turns).turn_cases t with ⟨-, -, hnone⟩ |
        ⟨p', ctx, child, hsource', hp', hmade, hscope, -⟩ | ⟨_, hnone, -⟩
      · exact absurd (hnone p hsource) (Nat.not_le.2 hp)
      · cases hsource.symm.trans hsource'
        refine ⟨ctx.scope, hkept (scope?_of_getElem? hp'), ?_⟩
        rw [play_append, ← hscope]
        refine scope?_of_getElem? ?_
        rw [hmade, List.getElem?_concat_length]
      · cases hsource.symm.trans hnone

/-- Linked contexts have the same scope. -/
theorem scope?_of_linked (h : Linked s turns i j) :
    (play s turns).scope? i = (play s turns).scope? j := by
  induction h with
  | rel _ _ hl =>
    obtain ⟨scope, hp, hn⟩ := scope?_of_links hl
    exact hp.trans hn.symm
  | refl _ => rfl
  | symm _ _ _ ih => exact ih.symm
  | trans _ _ _ _ _ ih ih' => exact ih.trans ih'

/-- Contexts with the same scope are linked. -/
theorem linked_of_scope_eq (hi : (play s turns).contexts[i]? = some c)
    (hj : (play s turns).contexts[j]? = some d) (h : c.scope = d.scope) : Linked s turns i j := by
  induction turns using List.reverseRecOn generalizing i j c d with
  | nil => cases hi
  | append_singleton turns t ih =>
    -- the context that is made by the last turn, and one that was there
    have hnew : ∀ {j : Nat} {d child : Context}, ((play s turns).turn t).contexts =
          (play s turns).contexts ++ [child] → (play s turns).contexts[j]? = some d →
        child.scope = d.scope → Linked s (turns ++ [t]) (play s turns).contexts.length j := by
      intro j d child hmade hj hshares
      rcases (play s turns).turn_cases t with ⟨hsame, -⟩ |
        ⟨p, ctx, child', hsource, hp, hmade', hscope, -⟩ | ⟨child', -, hmade', hscope, -⟩
      · rw [hsame] at hmade
        have := congrArg List.length hmade
        simp at this
      · cases List.append_cancel_left (hmade.symm.trans hmade')
        have hlink : Links s (turns ++ [t]) p (play s turns).contexts.length :=
          links_append.2 (.inr ⟨hsource, (List.getElem?_eq_some_iff.1 hp).1, rfl⟩)
        have hold := ih hp hj (hscope.symm.trans hshares)
        exact .trans _ _ _ (.symm _ _ (.rel _ _ hlink)) (hold.append t)
      · -- a scope that was just opened is nobody else's
        cases List.append_cancel_left (hmade.symm.trans hmade')
        have hlt := scope_lt_play hj
        rw [← hshares, hscope] at hlt
        exact absurd hlt (Nat.lt_irrefl _)
    rw [play_append] at hi hj
    rcases (play s turns).turn_cases t with hnone | hchild
    · rw [hnone.1] at hi hj
      exact (ih hi hj h).append t
    · obtain ⟨child, hmade⟩ : ∃ child, ((play s turns).turn t).contexts =
          (play s turns).contexts ++ [child] := by
        rcases hchild with ⟨_, _, child, -, -, hmade, -⟩ | ⟨child, -, hmade, -⟩
        · exact ⟨child, hmade⟩
        · exact ⟨child, hmade⟩
      have hplace : ∀ {i : Nat} {c : Context}, ((play s turns).turn t).contexts[i]? = some c →
          (play s turns).contexts[i]? = some c ∨
            i = (play s turns).contexts.length ∧ c = child := by
        intro i c hi
        rw [hmade] at hi
        have hlt := (List.getElem?_eq_some_iff.1 hi).1
        rw [List.length_append, List.length_singleton] at hlt
        rcases Nat.lt_or_eq_of_le (Nat.le_of_lt_succ hlt) with hlt | rfl
        · rw [List.getElem?_append_left hlt] at hi
          exact .inl hi
        · rw [List.getElem?_concat_length] at hi
          exact .inr ⟨rfl, (Option.some.inj hi).symm⟩
      rcases hplace hi with hi | ⟨rfl, rfl⟩ <;> rcases hplace hj with hj | ⟨rfl, rfl⟩
      · exact (ih hi hj h).append t
      · exact .symm _ _ (hnew hmade hi h.symm)
      · exact hnew hmade hj h
      · exact .refl _

/-- **Contexts work on the same variables just if they are linked.** -/
theorem scope_eq_iff_linked (hi : (play s turns).contexts[i]? = some c)
    (hj : (play s turns).contexts[j]? = some d) : c.scope = d.scope ↔ Linked s turns i j := by
  refine ⟨linked_of_scope_eq hi hj, fun h => ?_⟩
  have hscope := scope?_of_linked h
  rw [scope?_of_getElem? hi, scope?_of_getElem? hj] at hscope
  exact Option.some.inj hscope

/-! ## Variables -/

/-- A turn that is no change leaves the variables of all contexts as they are. -/
theorem store_turn (ht : ∀ through change, t ≠ .edit through change)
    (hd : d.scope < f.session.scopes.length) :
    (f.turn t).session.store d.scope = f.session.store d.scope := by
  cases t with
  | root library store test =>
    show (f.session.scopes ++ [store]).getD d.scope _ = f.session.scopes.getD d.scope _
    rw [List.getD_eq_getElem?_getD, List.getD_eq_getElem?_getD, List.getElem?_append_left hd]
  | clone of =>
    rw [turn]
    split <;> rfl
  | derive of sharing =>
    rw [turn]
    split
    · next ctx _ =>
      cases sharing with
      | shared => rfl
      | isolated => exact Session.store_take hd nofun
    · rfl
  | edit through change => exact absurd rfl (ht through change)

/-- A change is made to the variables of the context that it goes through. -/
theorem store_edit {change : Edit} (hi : f.contexts[i]? = some c)
    (hc : c.scope < f.session.scopes.length) :
    (f.turn (.edit i change)).session.store d.scope =
      if d.scope = c.scope then change.on (f.session.store d.scope)
      else f.session.store d.scope := by
  simp only [turn, hi]
  rw [c.edit_eq]
  split
  · next heq =>
    rw [heq]
    exact Session.store_changeStore hc _
  · next hne => exact Session.store_changeStore_of_ne hne _

/-- **Through whom a change is seen.**  A context finds a variable with the value that it was
changed to through another context just if both are linked or it found this already. -/
theorem get?_edit {change : Edit} (hi : (play s turns).contexts[i]? = some c)
    (hj : (play s turns).contexts[j]? = some d) :
    (((play s (turns ++ [.edit i change])).session.store d.scope).get? change.name =
        change.value? ↔
      Linked s turns i j ∨
        ((play s turns).session.store d.scope).get? change.name = change.value?) ∧
    ∀ name, name ≠ change.name →
      ((play s (turns ++ [.edit i change])).session.store d.scope).get? name =
        ((play s turns).session.store d.scope).get? name := by
  rw [play_append, store_edit hi (scope_lt_play hi)]
  by_cases hlinked : Linked s turns i j
  · rw [if_pos ((scope_eq_iff_linked hi hj).2 hlinked).symm]
    constructor
    · simp [Edit.get?_on, hlinked]
    · intro name hname
      rw [Edit.get?_on, if_neg hname]
  · rw [if_neg fun heq => hlinked ((scope_eq_iff_linked hi hj).1 heq.symm)]
    exact ⟨by simp [hlinked], fun _ _ => rfl⟩

/-- **Who shares variables with whom, and what this means.**  Let a family of contexts have come
about by any turns.  Then

* two contexts work on the same variables just if they are linked by a chain of clones and of
  derivations that are not isolated;
* a variable that is set or removed through one context is set or removed for exactly those that are
  linked with it, while the others keep their variables, with their values and in their order;
* a value that is set through one context is found through exactly those that are linked with it, a
  variable that is removed is unknown to exactly those, apart from the contexts that found this
  value or did not know this variable before, and all other variables are found as before;
* no other turn changes the variables of any context;
* an isolated child begins with the variables of its parent as they are at this moment, and is
  linked with nobody. -/
theorem contexts_share_iff_linked (s : Session) (turns : List Turn) :
    let f := play s turns
    (∀ i j c d, f.contexts[i]? = some c → f.contexts[j]? = some d →
      (c.scope = d.scope ↔ Linked s turns i j)) ∧
    (∀ i c change, f.contexts[i]? = some c →
      let f' := play s (turns ++ [.edit i change])
      f'.contexts = f.contexts ∧ ∀ j d, f.contexts[j]? = some d →
        (Linked s turns i j →
          f'.session.store d.scope = change.on (f.session.store d.scope)) ∧
        (¬ Linked s turns i j → f'.session.store d.scope = f.session.store d.scope)) ∧
    (∀ i j c d name, f.contexts[i]? = some c → f.contexts[j]? = some d →
      (∀ value,
        let f' := play s (turns ++ [.edit i (.set name value)])
        ((f'.session.store d.scope).get? name = some value ↔
          Linked s turns i j ∨ (f.session.store d.scope).get? name = some value) ∧
        ∀ other, other ≠ name →
          (f'.session.store d.scope).get? other = (f.session.store d.scope).get? other) ∧
      let f' := play s (turns ++ [.edit i (.remove name)])
      ((f'.session.store d.scope).get? name = none ↔
        Linked s turns i j ∨ (f.session.store d.scope).get? name = none) ∧
      ∀ other, other ≠ name →
        (f'.session.store d.scope).get? other = (f.session.store d.scope).get? other) ∧
    (∀ t : Turn, (∀ through change, t ≠ .edit through change) → ∀ (j : Nat) (d : Context),
      f.contexts[j]? = some d →
      let f' := play s (turns ++ [t])
      f'.contexts[j]? = some d ∧ f'.session.store d.scope = f.session.store d.scope) ∧
    (∀ i c, f.contexts[i]? = some c →
      let turns' := turns ++ [.derive i .isolated]
      let f' := play s turns'
      ∃ child, f'.contexts = f.contexts ++ [child] ∧ child.isolated = true ∧
        f'.session.store child.scope = f.session.store c.scope ∧
        ∀ j d, f.contexts[j]? = some d → ¬ Linked s turns' j f.contexts.length) := by
  intro f
  refine ⟨fun i j c d => scope_eq_iff_linked, ?_, ?_, ?_, ?_⟩
  · intro i c change hi f'
    have hf' : f' = f.turn (.edit i change) := play_append s turns _
    have hcontexts : f'.contexts = f.contexts := by
      rw [hf']
      simp only [turn, hi]
    refine ⟨hcontexts, fun j d hj => ?_⟩
    have hstore : (f.turn (.edit i change)).session.store d.scope =
        if d.scope = c.scope then change.on (f.session.store d.scope)
        else f.session.store d.scope := store_edit hi (scope_lt_play hi)
    rw [← hf'] at hstore
    refine ⟨fun hlinked => ?_, fun hlinked => ?_⟩
    · rw [hstore, if_pos ((scope_eq_iff_linked hi hj).2 hlinked).symm]
    · rw [hstore, if_neg fun heq => hlinked ((scope_eq_iff_linked hi hj).1 heq.symm)]
  · intro i j c d name hi hj
    exact ⟨fun value => get?_edit hi hj, get?_edit hi hj⟩
  · intro t ht j d hj f'
    have hf' : f' = f.turn t := play_append s turns _
    rw [hf']
    exact ⟨getElem?_turn hj t, store_turn ht (scope_lt_play hj)⟩
  · intro i c hi turns' f'
    have hf' : f' = f.turn (.derive i .isolated) := play_append s turns _
    have hturn : f.turn (.derive i .isolated) =
        ⟨(f.session.take (.copy c.scope)).2,
          f.contexts ++ [{ c with scope := f.session.scopes.length, isolated := true }]⟩ := by
      simp only [turn, hi]
      rfl
    refine ⟨{ c with scope := f.session.scopes.length, isolated := true }, ?_, rfl, ?_, ?_⟩
    · rw [hf', hturn]
    · rw [hf', hturn]
      exact f.session.store_openScope _
    · intro j d hj hlinked
      have hchild : f'.contexts[f.contexts.length]? =
          some { c with scope := f.session.scopes.length, isolated := true } := by
        rw [hf', hturn, List.getElem?_concat_length]
      have hkept : f'.contexts[j]? = some d := hf' ▸ getElem?_turn hj _
      have hscope := (scope_eq_iff_linked hkept hchild).2 hlinked
      exact absurd (scope_lt_play hj) (Nat.not_lt.2 (Nat.le_of_eq hscope.symm))

/-- A run begins, a child is derived, the child is cloned, and an isolated child of the clone is
derived. -/
def lineage : List Turn :=
  [.root ⟨"", "", []⟩ (.ofFields [("x", .null)]) none, .derive 0 .shared, .clone 1,
    .derive 2 .isolated]

/-- The run sees what is changed through the clone, and the isolated child does not. -/
theorem lineage_shares :
    Linked {} lineage 0 2 ∧ ¬ Linked {} lineage 2 3 ∧
      ∃ c d, (play {} lineage).contexts[0]? = some c ∧ (play {} lineage).contexts[3]? = some d ∧
        ((play {} (lineage ++ [.edit 2 (.set "x" (.bool true))])).session.store c.scope).get? "x" =
          some (.bool true) ∧
        ((play {} (lineage ++ [.edit 2 (.set "x" (.bool true))])).session.store d.scope).get? "x" ≠
          some (.bool true) ∧
        ((play {} (lineage ++ [.edit 2 (.remove "x")])).session.store c.scope).names = [] ∧
        ((play {} (lineage ++ [.edit 2 (.remove "x")])).session.store d.scope).names = ["x"] := by
  obtain ⟨hshare, hedit, hfound, -, -⟩ := contexts_share_iff_linked {} lineage
  have hlinked : Linked {} lineage 0 2 := (hshare 0 2 _ _ rfl rfl).1 rfl
  have hapart : ¬ Linked {} lineage 2 3 := fun h => by cases (hshare 2 3 _ _ rfl rfl).2 h
  obtain ⟨-, hseen⟩ := hedit 2 _ (.remove "x") rfl
  refine ⟨hlinked, hapart, _, _, rfl, rfl, ?_, ?_, ?_, ?_⟩
  · exact (((hfound 2 0 _ _ "x" rfl rfl).1 (.bool true)).1).2 (.inl (.symm _ _ hlinked))
  · intro hset
    rcases (((hfound 2 3 _ _ "x" rfl rfl).1 (.bool true)).1).1 hset with hlinked | hbefore
    · exact hapart hlinked
    · cases hbefore
  · rw [(hseen 0 _ rfl).1 (.symm _ _ hlinked)]
    rfl
  · rw [(hseen 3 _ rfl).2 hapart]
    rfl

end Family
end Scenario
