import Scenario.Proofs.Json.Fields
import Scenario.Proofs.Session.Family

/-!
# Stores and what was done to them

A store lists its variables, and no list is kept beside it that says when they were set.  All the
same the order is one of time: a variable stands where it was put when it was set for the first time
since it was last removed, however often it has been set again.  So what a store is can be read off
its history, which is what was done to it and, before it was cloned, to the store that it comes
from.

## What is here

* `Edits.SetSince` and `Edits.Leaves` — since when a history has a variable, and with which value,
  both said by the places in the history alone.
* `Store.Follows` — a store is what its history says, and `Store.Follows.edit` — one more change
  keeps this.
* `Shelf` is some stores with the snapshots that were taken of them, and `Handling` what can be done
  next; `Records` are their histories.
* `Shelf.stores_follow_histories` — after anything that was done all of them are what their
  histories say, and a copy and what it was made of go their own ways.
-/

set_option autoImplicit false

namespace Scenario

/-! ## Histories -/

/-- What was done to a store, in order. -/
abbrev Edits := List Edit

namespace Edits

/-- A variable was set at this place of a history, for the first time since it was last removed, and
was not removed after. -/
structure SetSince (h : Edits) (name : String) (i : Nat) : Prop where
  set : ∃ v, h[i]? = some (Edit.set name v)
  /-- Whenever it was set before, it was removed in between. -/
  first : ∀ j < i, (∃ v, h[j]? = some (Edit.set name v)) →
    ∃ k, j < k ∧ k < i ∧ h[k]? = some (Edit.remove name)
  kept : ∀ j, i < j → h[j]? ≠ some (Edit.remove name)

/-- The last change of a variable has set it to this value. -/
def Leaves (h : Edits) (name : String) (v : Json) : Prop :=
  ∃ i, h[i]? = some (Edit.set name v) ∧
    ∀ (j : Nat) (e : Edit), i < j → h[j]? = some e → e.name ≠ name

/-- These are the variables of a history, by the time of their first set since their last
removal. -/
structure Lists (h : Edits) (names : List String) : Prop where
  distinct : names.Nodup
  mem_iff : ∀ name, name ∈ names ↔ ∃ i, h.SetSince name i
  order : names.Pairwise fun a b => ∀ i j, h.SetSince a i → h.SetSince b j → i < j

variable {h : Edits} {e d : Edit} {name : String} {names : List String} {v w : Json} {i j : Nat}

theorem lt_length_of_getElem? (hi : h[i]? = some e) : i < h.length :=
  (List.getElem?_eq_some_iff.1 hi).1

theorem getElem?_concat_iff : (h ++ [e])[i]? = some d ↔ h[i]? = some d ∨ i = h.length ∧ e = d := by
  rcases Nat.lt_trichotomy i h.length with hlt | rfl | hgt
  · rw [List.getElem?_append_left hlt]
    simp [Nat.ne_of_lt hlt]
  · simp
  · rw [List.getElem?_eq_none (by rw [List.length_append]; exact hgt),
      List.getElem?_eq_none (Nat.le_of_lt hgt)]
    simp [Nat.ne_of_gt hgt]

theorem SetSince.lt_length (hi : h.SetSince name i) : i < h.length := by
  obtain ⟨v, hv⟩ := hi.set
  exact lt_length_of_getElem? hv

/-- A variable that was set and not removed after was set for the first time at some place. -/
theorem exists_setSince (hset : h[j]? = some (Edit.set name v))
    (hkept : ∀ (k : Nat), j < k → h[k]? ≠ some (Edit.remove name)) : ∃ i, h.SetSince name i := by
  induction j using Nat.strongRecOn generalizing v with
  | ind j ih =>
    by_cases hearlier : ∃ i < j, (∃ w, h[i]? = some (Edit.set name w)) ∧
        ∀ (k : Nat), i < k → h[k]? ≠ some (Edit.remove name)
    · obtain ⟨i, hi, ⟨w, hw⟩, hkept'⟩ := hearlier
      exact ih i hi hw hkept'
    · refine ⟨j, ⟨v, hset⟩, fun i hi hi' => ?_, hkept⟩
      -- an earlier place is none of these, so the variable was removed after it
      obtain ⟨k, hk, hremoved⟩ : ∃ k : Nat, i < k ∧ h[k]? = some (Edit.remove name) := by
        by_contra hnone
        exact hearlier ⟨i, hi, hi', fun k hk hremoved => hnone ⟨k, hk, hremoved⟩⟩
      refine ⟨k, hk, ?_, hremoved⟩
      rcases Nat.lt_trichotomy k j with hlt | rfl | hgt
      · exact hlt
      · cases hset.symm.trans hremoved
      · exact absurd hremoved (hkept k hgt)

/-! ### One more change -/

/-- What is done to another variable does not matter. -/
theorem setSince_concat_of_ne (hne : e.name ≠ name) :
    SetSince (h ++ [e]) name i ↔ h.SetSince name i := by
  have hset : ∀ (j : Nat) (v : Json),
      (h ++ [e])[j]? = some (Edit.set name v) ↔ h[j]? = some (Edit.set name v) := by
    intro j v
    rw [getElem?_concat_iff]
    exact or_iff_left fun ⟨_, heq⟩ => hne (heq ▸ rfl)
  have hremove : ∀ (j : Nat),
      (h ++ [e])[j]? = some (Edit.remove name) ↔ h[j]? = some (Edit.remove name) := by
    intro j
    rw [getElem?_concat_iff]
    exact or_iff_left fun ⟨_, heq⟩ => hne (heq ▸ rfl)
  constructor
  · intro hi
    have := hi.first
    simp only [hset, hremove] at this
    exact ⟨by simpa only [hset] using hi.set, this,
      by simpa only [ne_eq, hremove] using hi.kept⟩
  · intro hi
    refine ⟨?_, ?_, ?_⟩
    · simpa only [hset] using hi.set
    · simpa only [hset, hremove] using hi.first
    · simpa only [ne_eq, hremove] using hi.kept

/-- A variable that is removed is there no longer. -/
theorem not_setSince_concat_remove : ¬ SetSince (h ++ [Edit.remove name]) name i := by
  intro hi
  obtain ⟨v, hv⟩ := hi.set
  rcases getElem?_concat_iff.1 hv with hv | ⟨-, heq⟩
  · exact hi.kept h.length (lt_length_of_getElem? hv) List.getElem?_concat_length
  · cases heq

/-- A variable that is set again stays where it is, and one that is new comes last. -/
theorem setSince_concat_set : SetSince (h ++ [Edit.set name v]) name i ↔
    h.SetSince name i ∨ i = h.length ∧ ∀ j, ¬ h.SetSince name j := by
  have hremove : ∀ (j : Nat), (h ++ [Edit.set name v])[j]? = some (Edit.remove name) ↔
      h[j]? = some (Edit.remove name) := by
    intro j
    rw [getElem?_concat_iff]
    exact or_iff_left nofun
  constructor
  · intro hi
    have hfirst : ∀ j < i, (∃ w, h[j]? = some (Edit.set name w)) →
        ∃ k, j < k ∧ k < i ∧ h[k]? = some (Edit.remove name) := by
      intro j hj ⟨w, hw⟩
      obtain ⟨k, hk, hki, hremoved⟩ := hi.first j hj ⟨w, getElem?_concat_iff.2 (.inl hw)⟩
      exact ⟨k, hk, hki, (hremove k).1 hremoved⟩
    have hkept : ∀ j, i < j → h[j]? ≠ some (Edit.remove name) := fun j hj hremoved =>
      hi.kept j hj ((hremove j).2 hremoved)
    obtain ⟨w, hw⟩ := hi.set
    rcases getElem?_concat_iff.1 hw with hw | ⟨rfl, -⟩
    · exact .inl ⟨⟨w, hw⟩, hfirst, hkept⟩
    · refine .inr ⟨rfl, fun j hj => ?_⟩
      obtain ⟨k, hk, -, hremoved⟩ := hfirst j hj.lt_length hj.set
      exact hj.kept k hk hremoved
  · rintro (hi | ⟨rfl, hnone⟩)
    · obtain ⟨w, hw⟩ := hi.set
      refine ⟨⟨w, getElem?_concat_iff.2 (.inl hw)⟩, fun j hj ⟨u, hu⟩ => ?_, fun j hj hremoved => ?_⟩
      · rcases getElem?_concat_iff.1 hu with hu | ⟨rfl, -⟩
        · obtain ⟨k, hk, hki, hremoved⟩ := hi.first j hj ⟨u, hu⟩
          exact ⟨k, hk, hki, (hremove k).2 hremoved⟩
        · exact absurd hj (Nat.lt_asymm hi.lt_length)
      · exact hi.kept j hj ((hremove j).1 hremoved)
    · refine ⟨⟨v, List.getElem?_concat_length⟩, fun j hj ⟨u, hu⟩ => ?_, fun j hj hremoved => ?_⟩
      · rcases getElem?_concat_iff.1 hu with hu | ⟨rfl, -⟩
        · by_contra hnot
          obtain ⟨i, hi⟩ := exists_setSince hu fun k hk hremoved =>
            hnot ⟨k, hk, lt_length_of_getElem? hremoved, (hremove k).2 hremoved⟩
          exact hnone i hi
        · exact absurd hj (Nat.lt_irrefl _)
      · exact absurd (lt_length_of_getElem? ((hremove j).1 hremoved)) (Nat.lt_asymm hj)

/-- What a variable is left with after one more change. -/
theorem leaves_concat_iff : Leaves (h ++ [e]) name v ↔
    e = .set name v ∨ e.name ≠ name ∧ h.Leaves name v := by
  constructor
  · rintro ⟨i, hi, hafter⟩
    rcases getElem?_concat_iff.1 hi with hi | ⟨rfl, rfl⟩
    · have hlast := hafter h.length e (lt_length_of_getElem? hi) List.getElem?_concat_length
      exact .inr ⟨hlast, i, hi, fun j d hj hd => hafter j d hj (getElem?_concat_iff.2 (.inl hd))⟩
    · exact .inl rfl
  · rintro (rfl | ⟨hne, i, hi, hafter⟩)
    · refine ⟨h.length, List.getElem?_concat_length, fun j d hj hd => ?_⟩
      rcases getElem?_concat_iff.1 hd with hd | ⟨rfl, -⟩
      · exact absurd (lt_length_of_getElem? hd) (Nat.lt_asymm hj)
      · exact absurd hj (Nat.lt_irrefl _)
    · refine ⟨i, getElem?_concat_iff.2 (.inl hi), fun j d hj hd => ?_⟩
      rcases getElem?_concat_iff.1 hd with hd | ⟨-, rfl⟩
      · exact hafter j d hj hd
      · exact hne

namespace Lists

theorem nil : Lists [] [] where
  distinct := List.nodup_nil
  mem_iff _ := ⟨nofun, fun ⟨i, hi⟩ => absurd hi.lt_length (Nat.not_lt_zero i)⟩
  order := List.Pairwise.nil

/-- A variable that is there keeps its place when it is set again. -/
theorem set_of_mem (hl : h.Lists names) (hmem : name ∈ names) :
    Lists (h ++ [Edit.set name v]) names := by
  have hsince : ∀ n i, SetSince (h ++ [Edit.set name v]) n i ↔ h.SetSince n i := by
    intro n i
    by_cases hn : n = name
    · subst hn
      obtain ⟨j, hj⟩ := (hl.mem_iff n).1 hmem
      rw [setSince_concat_set]
      exact or_iff_left fun ⟨_, hnone⟩ => hnone j hj
    · exact setSince_concat_of_ne (Ne.symm hn)
  exact ⟨hl.distinct, by simpa only [hsince] using hl.mem_iff,
    by simpa only [hsince] using hl.order⟩

/-- A variable that is not there is put at the end. -/
theorem set_of_not_mem (hl : h.Lists names) (hmem : name ∉ names) :
    Lists (h ++ [Edit.set name v]) (names ++ [name]) := by
  have hother : ∀ {n}, n ≠ name → ∀ i, SetSince (h ++ [Edit.set name v]) n i ↔ h.SetSince n i :=
    fun hn _ => setSince_concat_of_ne (Ne.symm hn)
  have hsince : ∀ i, SetSince (h ++ [Edit.set name v]) name i ↔ i = h.length := by
    have hnone : ∀ j, ¬ h.SetSince name j := fun j hj => hmem ((hl.mem_iff name).2 ⟨j, hj⟩)
    intro i
    rw [setSince_concat_set]
    exact ⟨fun hi => (hi.resolve_left (hnone i)).1, fun hi => .inr ⟨hi, hnone⟩⟩
  have hne : ∀ {n}, n ∈ names → n ≠ name := fun hn heq => hmem (heq ▸ hn)
  refine ⟨List.nodup_append.2 ⟨hl.distinct, by simp, fun a ha b hb => ?_⟩, fun n => ?_,
    List.pairwise_append.2 ⟨?_, List.pairwise_singleton .., fun a ha b hb i j hi hj => ?_⟩⟩
  · rw [List.mem_singleton.1 hb]
    exact hne ha
  · rw [List.mem_append, List.mem_singleton, hl.mem_iff]
    by_cases hn : n = name
    · subst hn
      simp [hsince]
    · simp only [hn, or_false, hother hn]
  · refine hl.order.imp_of_mem fun {a b} ha hb hab i j hi hj => ?_
    exact hab i j ((hother (hne ha) i).1 hi) ((hother (hne hb) j).1 hj)
  · rw [List.mem_singleton.1 hb, hsince] at hj
    exact hj ▸ ((hother (hne ha) i).1 hi).lt_length

/-- The others keep their order when a variable is removed. -/
theorem remove (hl : h.Lists names) (name : String) :
    Lists (h ++ [Edit.remove name]) (names.filter (· != name)) := by
  have hother : ∀ {n}, n ≠ name → ∀ i, SetSince (h ++ [Edit.remove name]) n i ↔ h.SetSince n i :=
    fun hn _ => setSince_concat_of_ne (Ne.symm hn)
  have hne : ∀ {n}, n ∈ names.filter (· != name) → n ≠ name := fun hn =>
    bne_iff_ne.1 (List.mem_filter.1 hn).2
  refine ⟨hl.distinct.filter _, fun n => ?_, ?_⟩
  · rw [List.mem_filter, hl.mem_iff]
    by_cases hn : n = name
    · subst hn
      simp [not_setSince_concat_remove]
    · simp only [bne_iff_ne, ne_eq, hn, not_false_eq_true, and_true, hother hn]
  · refine (hl.order.filter _).imp_of_mem fun {a b} ha hb hab i j hi hj => ?_
    exact hab i j ((hother (hne ha) i).1 hi) ((hother (hne hb) j).1 hj)

end Lists
end Edits

/-! ## A store and its history -/

/-- **A store is what its history says.** -/
structure Store.Follows (s : Store) (h : Edits) : Prop where
  lists : h.Lists s.names
  value : ∀ name v, s.get name = .ok v ↔ h.Leaves name v
  unknown : ∀ name, (∀ v, ¬ h.Leaves name v) → s.get name = .error (.unknownVariable name)

theorem Fields.names_remove {α : Type} (fields : Fields α) (name : String) :
    (fields.remove name).names = fields.names.filter (· != name) := by
  rw [remove, names, names, List.filter_map]
  rfl

namespace Store

variable {s : Store} {h : Edits} {e : Edit} {name : String} {v : Json}

theorem get_eq_ok_iff : s.get name = .ok v ↔ s.get? name = some v := by
  rw [get]
  cases s.get? name <;> simp

theorem get_eq_unknown (hnone : ∀ v, s.get? name ≠ some v) :
    s.get name = .error (.unknownVariable name) := by
  rw [get, Option.eq_none_iff_forall_ne_some.2 hnone]

theorem get?_on (e : Edit) (s : Store) (name : String) (v : Json) :
    (e.on s).get? name = some v ↔ e = .set name v ∨ e.name ≠ name ∧ s.get? name = some v := by
  rw [e.get?_on]
  cases e with
  | set n w =>
    rw [Edit.name, Edit.value?]
    by_cases hn : name = n
    · simp [hn]
    · simp [hn, Ne.symm hn]
  | remove n =>
    rw [Edit.name, Edit.value?]
    by_cases hn : name = n
    · simp [hn]
    · simp [hn, Ne.symm hn]

theorem names_on_set (s : Store) (name : String) (v : Json) :
    ((Edit.set name v).on s).names = if name ∈ s.names then s.names else s.names ++ [name] := by
  have hmem : name ∈ s.names ↔ s.entries.has name = true := by
    rw [names, Fields.mem_names_iff, Fields.has_eq_isSome]
  simp only [hmem]
  exact Fields.names_set ..

theorem names_on_remove (s : Store) (name : String) :
    ((Edit.remove name).on s).names = s.names.filter (· != name) :=
  Fields.names_remove ..

theorem Follows.empty : Store.empty.Follows [] where
  lists := .nil
  value _ _ := ⟨nofun, nofun⟩
  unknown _ _ := rfl

/-- **One more change keeps it.** -/
theorem Follows.edit (hs : s.Follows h) (e : Edit) : (e.on s).Follows (h ++ [e]) := by
  have hvalue : ∀ name v, (e.on s).get name = .ok v ↔ Edits.Leaves (h ++ [e]) name v := by
    intro name v
    rw [get_eq_ok_iff, get?_on, Edits.leaves_concat_iff, ← hs.value, get_eq_ok_iff]
  refine ⟨?_, hvalue, fun name hnone => get_eq_unknown fun v hv => hnone v ?_⟩
  · cases e with
    | set name v =>
      rw [names_on_set]
      split
      · next hmem => exact hs.lists.set_of_mem hmem
      · next hmem => exact hs.lists.set_of_not_mem hmem
    | remove name =>
      rw [names_on_remove]
      exact hs.lists.remove name
  · rwa [← hvalue, get_eq_ok_iff]

end Store

/-! ## Many stores -/

/-- What can be done with stores and snapshots.  A snapshot is a copy of the variables that is no
store. -/
inductive Handling where
  /-- A store without variables is made. -/
  | new
  | edit (store : Nat) (change : Edit)
  | clone (store : Nat)
  | snapshot (store : Nat)
  /-- A snapshot is changed by whoever took it. -/
  | amend (snapshot : Nat) (change : Edit)

/-- Stores, by the order in which they were made, and snapshots. -/
structure Shelf where
  session : Session := {}
  snapshots : List Store := []

/-- What was done to each store and to each snapshot. -/
structure Records where
  stores : List Edits := []
  snapshots : List Edits := []

/-- A copy has the history of what it was made of. -/
def Records.note (r : Records) : Handling → Records
  | .new => { r with stores := r.stores ++ [[]] }
  | .edit store change => { r with stores := r.stores.modify store (· ++ [change]) }
  | .clone store => { r with stores := r.stores ++ [r.stores.getD store []] }
  | .snapshot store => { r with snapshots := r.snapshots ++ [r.stores.getD store []] }
  | .amend snapshot change => { r with snapshots := r.snapshots.modify snapshot (· ++ [change]) }

/-- The histories of all that was handled. -/
def Records.of (handlings : List Handling) : Records := handlings.foldl note {}

namespace Shelf

/-- Does something with the stores or with the snapshots. -/
def handle (f : Shelf) : Handling → Shelf
  | .new => { f with session := (f.session.openScope .empty).2 }
  | .edit store change => { f with session := f.session.changeStore store change.on }
  | .clone store => { f with session := (f.session.take (.copy store)).2 }
  | .snapshot store => { f with snapshots := f.snapshots ++ [(f.session.take (.read store)).1] }
  | .amend snapshot change => { f with snapshots := f.snapshots.modify snapshot change.on }

/-- What comes of doing things one after the other. -/
def play (handlings : List Handling) : Shelf := handlings.foldl handle {}

end Shelf

section Pointwise

variable {α β : Type} {R : α → β → Prop} {l : List α} {l' : List β}

theorem forall₂_modify (h : List.Forall₂ R l l') {f : α → α} {g : β → β}
    (hfg : ∀ {a b}, R a b → R (f a) (g b)) (i : Nat) :
    List.Forall₂ R (l.modify i f) (l'.modify i g) := by
  induction h generalizing i with
  | nil => simp
  | cons hab hrest ih =>
    cases i with
    | zero => exact .cons (hfg hab) hrest
    | succ i => exact .cons hab (ih i)

theorem forall₂_getD (h : List.Forall₂ R l l') {a : α} {b : β} (hab : R a b) (i : Nat) :
    R (l.getD i a) (l'.getD i b) := by
  induction h generalizing i with
  | nil => exact hab
  | cons hfirst _ ih =>
    cases i with
    | zero => exact hfirst
    | succ i => exact ih i

end Pointwise

namespace Shelf

/-- Whether all stores and snapshots are what their histories say. -/
structure Sound (f : Shelf) (r : Records) : Prop where
  stores : List.Forall₂ Store.Follows f.session.scopes r.stores
  snapshots : List.Forall₂ Store.Follows f.snapshots r.snapshots

/-- **Whatever is done keeps this.** -/
theorem Sound.handle {f : Shelf} {r : Records} (h : f.Sound r) (x : Handling) :
    (f.handle x).Sound (r.note x) := by
  have hcopied : ∀ i, (f.session.store i).Follows (r.stores.getD i []) :=
    forall₂_getD h.stores .empty
  cases x with
  | new => exact ⟨List.rel_append h.stores (.cons .empty .nil), h.snapshots⟩
  | edit store change => exact ⟨forall₂_modify h.stores (·.edit change) store, h.snapshots⟩
  | clone store => exact ⟨List.rel_append h.stores (.cons (hcopied store) .nil), h.snapshots⟩
  | snapshot store => exact ⟨h.stores, List.rel_append h.snapshots (.cons (hcopied store) .nil)⟩
  | amend snapshot change =>
    exact ⟨h.stores, forall₂_modify h.snapshots (·.edit change) snapshot⟩

theorem sound_play (handlings : List Handling) : (play handlings).Sound (.of handlings) := by
  induction handlings using List.reverseRecOn with
  | nil => exact ⟨.nil, .nil⟩
  | append_singleton handlings x ih =>
    rw [play, Records.of, List.foldl_append, List.foldl_append]
    exact ih.handle x

/-- A store is changed by changes of this store only. -/
theorem getElem?_scopes_handle {f : Shelf} {x : Handling} {i : Nat}
    (hx : ∀ change, x ≠ .edit i change) (hi : i < f.session.scopes.length) :
    (f.handle x).session.scopes[i]? = f.session.scopes[i]? ∧
      i < (f.handle x).session.scopes.length := by
  cases x with
  | new =>
    refine ⟨List.getElem?_append_left hi, ?_⟩
    exact Nat.lt_of_lt_of_le hi (List.length_append ▸ Nat.le_add_right ..)
  | edit store change =>
    have hne : store ≠ i := fun heq => hx change (heq ▸ rfl)
    exact ⟨List.getElem?_modify_ne _ _ hne, (List.length_modify ..).symm ▸ hi⟩
  | clone store =>
    refine ⟨List.getElem?_append_left hi, ?_⟩
    exact Nat.lt_of_lt_of_le hi (List.length_append ▸ Nat.le_add_right ..)
  | snapshot | amend => exact ⟨rfl, hi⟩

/-- A snapshot is changed by changes of this snapshot only. -/
theorem getElem?_snapshots_handle {f : Shelf} {x : Handling} {i : Nat}
    (hx : ∀ change, x ≠ .amend i change) (hi : i < f.snapshots.length) :
    (f.handle x).snapshots[i]? = f.snapshots[i]? ∧ i < (f.handle x).snapshots.length := by
  cases x with
  | snapshot store =>
    refine ⟨List.getElem?_append_left hi, ?_⟩
    exact Nat.lt_of_lt_of_le hi (List.length_append ▸ Nat.le_add_right ..)
  | amend snapshot change =>
    have hne : snapshot ≠ i := fun heq => hx change (heq ▸ rfl)
    exact ⟨List.getElem?_modify_ne _ _ hne, (List.length_modify ..).symm ▸ hi⟩
  | new | edit | clone => exact ⟨rfl, hi⟩

theorem getElem?_scopes_foldl {f : Shelf} {i : Nat} {more : List Handling}
    (hmore : ∀ change, .edit i change ∉ more) (hi : i < f.session.scopes.length) :
    (more.foldl handle f).session.scopes[i]? = f.session.scopes[i]? := by
  induction more generalizing f with
  | nil => rfl
  | cons x rest ih =>
    obtain ⟨hsame, hlt⟩ := getElem?_scopes_handle
      (fun change heq => hmore change (heq ▸ List.mem_cons_self)) hi
    exact (ih (fun change hmem => hmore change (List.mem_cons_of_mem _ hmem)) hlt).trans hsame

theorem getElem?_snapshots_foldl {f : Shelf} {i : Nat} {more : List Handling}
    (hmore : ∀ change, .amend i change ∉ more) (hi : i < f.snapshots.length) :
    (more.foldl handle f).snapshots[i]? = f.snapshots[i]? := by
  induction more generalizing f with
  | nil => rfl
  | cons x rest ih =>
    obtain ⟨hsame, hlt⟩ := getElem?_snapshots_handle
      (fun change heq => hmore change (heq ▸ List.mem_cons_self)) hi
    exact (ih (fun change hmem => hmore change (List.mem_cons_of_mem _ hmem)) hlt).trans hsame

/-- **Stores and snapshots are what their histories say**, after anything that was done with any
number of them.

* The names of the variables are distinct and listed by the time of their first set since their last
  removal.  A look-up yields the value that was set last, and if the variable was removed after that
  or was never set, it fails.
* A clone or a snapshot is what it was made of, with the same order, and has its history.
* A store stays as it is while it is not changed itself, and so does a snapshot, whatever is done to
  others that were copied from it or that it was copied from. -/
theorem stores_follow_histories (handlings : List Handling) :
    let f := play handlings
    List.Forall₂ Store.Follows f.session.scopes (Records.of handlings).stores ∧
    List.Forall₂ Store.Follows f.snapshots (Records.of handlings).snapshots ∧
    (∀ i, (play (handlings ++ [.clone i])).session.scopes =
      f.session.scopes ++ [f.session.store i]) ∧
    (∀ i, (play (handlings ++ [.snapshot i])).snapshots = f.snapshots ++ [f.session.store i]) ∧
    (∀ i more, i < f.session.scopes.length → (∀ change, .edit i change ∉ more) →
      (play (handlings ++ more)).session.store i = f.session.store i) ∧
    ∀ i more, i < f.snapshots.length → (∀ change, .amend i change ∉ more) →
      (play (handlings ++ more)).snapshots[i]? = f.snapshots[i]? := by
  intro f
  have hplay : ∀ more, play (handlings ++ more) = more.foldl handle f := fun more =>
    List.foldl_append
  obtain ⟨hstores, hsnapshots⟩ := sound_play handlings
  refine ⟨hstores, hsnapshots, fun i => ?_, fun i => ?_, fun i more hi hmore => ?_,
    fun i more hi hmore => ?_⟩
  · rw [hplay]
    rfl
  · rw [hplay]
    rfl
  · rw [hplay, Session.store, Session.store, List.getD_eq_getElem?_getD,
      List.getD_eq_getElem?_getD, getElem?_scopes_foldl hmore hi]
  · rw [hplay, getElem?_snapshots_foldl hmore hi]

/-- Two variables are set, a snapshot is taken and a clone is made. -/
def copied : List Handling :=
  [.new, .edit 0 (.set "a" .null), .edit 0 (.set "b" .null), .snapshot 0, .clone 0]

/-- One variable is removed and set again, the other one is overwritten. -/
def churned : List Handling :=
  [.edit 0 (.remove "a"), .edit 0 (.set "b" (.bool true)), .edit 0 (.set "a" (.bool true))]

/-- The store has its variables in another order then, and its copies have not. -/
theorem stores_follow_histories_churned :
    ((play (copied ++ churned)).session.store 0).names = ["b", "a"] ∧
    ((play (copied ++ churned)).session.store 1).names = ["a", "b"] ∧
    ((play (copied ++ churned)).snapshots[0]?.map Store.names) = some ["a", "b"] ∧
    ∃ i j, Edits.SetSince ((Records.of (copied ++ churned)).stores.getD 0 []) "b" i ∧
      Edits.SetSince ((Records.of (copied ++ churned)).stores.getD 0 []) "a" j ∧ i < j := by
  obtain ⟨hstores, -, -, -, -, -⟩ := stores_follow_histories (copied ++ churned)
  obtain ⟨-, -, -, -, hkept, htaken⟩ := stores_follow_histories copied
  have hclone := hkept 1 churned (by decide) (by simp [churned])
  have hsnapshot := htaken 0 churned (by decide) (by simp [churned])
  have hfirst : Store.Follows ((play (copied ++ churned)).session.store 0)
      ((Records.of (copied ++ churned)).stores.getD 0 []) :=
    forall₂_getD hstores .empty 0
  obtain ⟨i, hi⟩ := (hfirst.lists.mem_iff "b").1 (by decide)
  obtain ⟨j, hj⟩ := (hfirst.lists.mem_iff "a").1 (by decide)
  refine ⟨rfl, hclone ▸ rfl, hsnapshot ▸ rfl, i, j, hi, hj, ?_⟩
  exact List.rel_of_pairwise_cons hfirst.lists.order List.mem_cons_self i j hi hj

end Shelf
end Scenario
