import Mathlib.Data.List.Forall2
import Scenario.Json.Basic

/-!
# Looking up what was set and removed

`Fields` is a list of named values, and the operations on it are written for the order of the names.
What a look-up sees of them is said here, one equation an operation: setting a name changes what is
under this name and nothing else (`Fields.get?_set`), and so does removing it
(`Fields.get?_remove`).  Neither needs the names to be distinct.  They are where a list was built by
these operations and by filtering (`Fields.Distinct`), and then nothing is listed under a name that
a look-up does not find (`Fields.get?_of_mem`).

Making names distinct and sorting by name do nothing to what they have been done to
(`Fields.Distinct.merge_eq`, `Fields.sorted_sorted`), and neither makes values up
(`Fields.mem_of_mem_merge`, `Fields.mem_of_mem_sorted`).  Of equal names that are merged the last
one counts (`Fields.get?_merge`).
-/

set_option autoImplicit false

namespace Scenario.Fields

variable {α : Type}

@[simp] theorem get?_nil (name : String) : get? ([] : Fields α) name = none := rfl

theorem get?_cons (n : String) (v : α) (rest : Fields α) (name : String) :
    get? ((n, v) :: rest) name = if name = n then some v else get? rest name := by
  rw [get?, List.lookup_cons]
  split <;> rename_i h <;> simp_all [get?]

theorem has_cons (n : String) (v : α) (rest : Fields α) (name : String) :
    has ((n, v) :: rest) name = (n == name || has rest name) := rfl

/-- A name is known when there is a value under it. -/
theorem has_eq_isSome (fields : Fields α) (name : String) :
    fields.has name = (fields.get? name).isSome := by
  induction fields with
  | nil => rfl
  | cons p rest ih =>
    obtain ⟨n, v⟩ := p
    rw [has_cons, get?_cons, ih]
    by_cases h : name = n
    · simp [h]
    · simp [h, Ne.symm h]

theorem mem_names_iff (fields : Fields α) (name : String) :
    name ∈ fields.names ↔ (fields.get? name).isSome := by
  rw [← has_eq_isSome, has, names, List.mem_map, List.any_eq_true]
  simp only [beq_iff_eq]

/-! ## Setting and removing -/

/-- Replacing the value under a known name. -/
theorem get?_map_replace (fields : Fields α) (name : String) (value : α) (k : String) :
    get? (fields.map fun (n, v) => if n == name then (n, value) else (n, v)) k =
      if k = name ∧ fields.has name then some value else fields.get? k := by
  induction fields with
  | nil => simp [has]
  | cons p rest ih =>
    obtain ⟨n, v⟩ := p
    rw [List.map_cons, has_cons, get?_cons]
    by_cases hn : n = name
    · subst hn
      simp only [beq_self_eq_true, ↓reduceIte, get?_cons, ih, Bool.true_or, and_true]
      by_cases hk : k = n <;> simp [hk]
    · simp only [beq_eq_false_iff_ne.2 hn, Bool.false_eq_true, ↓reduceIte, get?_cons, ih,
        Bool.false_or]
      by_cases hk : k = n
      · simp [hk, hn]
      · simp [hk]

theorem get?_append (fields others : Fields α) (k : String) :
    get? (fields ++ others) k = (fields.get? k).or (get? others k) := by
  induction fields with
  | nil => rfl
  | cons p rest ih =>
    obtain ⟨n, v⟩ := p
    rw [List.cons_append, get?_cons, get?_cons, ih]
    split <;> rfl

theorem get?_map_value {β : Type} (f : α → β) (fields : Fields α) (k : String) :
    get? (fields.map fun (n, v) => (n, f v)) k = (fields.get? k).map f := by
  induction fields with
  | nil => rfl
  | cons p rest ih =>
    obtain ⟨n, v⟩ := p
    rw [List.map_cons, get?_cons, get?_cons, ih]
    split <;> rfl

/-- Setting a name changes what is under this name and nothing else. -/
theorem get?_set (fields : Fields α) (name : String) (value : α) (k : String) :
    (fields.set name value).get? k = if k = name then some value else fields.get? k := by
  rw [set]
  by_cases hname : fields.has name = true
  · rw [if_pos hname, get?_map_replace]
    simp [hname]
  · rw [if_neg hname, get?_append, get?_cons]
    by_cases hk : k = name
    · rw [has_eq_isSome, Bool.not_eq_true, Option.isSome_eq_false_iff, Option.isNone_iff_eq_none]
        at hname
      simp [hk, hname]
    · simp [hk]

/-- Removing a name takes away what is under this name and nothing else. -/
theorem get?_remove (fields : Fields α) (name : String) (k : String) :
    (fields.remove name).get? k = if k = name then none else fields.get? k := by
  induction fields with
  | nil => simp [remove]
  | cons p rest ih =>
    obtain ⟨n, v⟩ := p
    rw [remove] at ih ⊢
    by_cases hn : n = name
    · subst hn
      rw [List.filter_cons_of_neg (by simp), ih, get?_cons]
      by_cases hk : k = n <;> simp [hk]
    · rw [List.filter_cons_of_pos (by simpa using hn), get?_cons, get?_cons, ih]
      by_cases hk : k = n
      · simp [hk, hn]
      · simp [hk]

theorem mem_of_get? {fields : Fields α} {name : String} {v : α} (h : fields.get? name = some v) :
    (name, v) ∈ fields := by
  induction fields with
  | nil => cases h
  | cons p rest ih =>
    obtain ⟨n, w⟩ := p
    rw [get?_cons] at h
    split at h
    · next hn =>
      cases h
      exact hn ▸ List.mem_cons_self
    · exact List.mem_cons_of_mem _ (ih h)

theorem get?_eq_none_of_forall {fields : Fields α} {k : String} (h : ∀ p ∈ fields, p.1 ≠ k) :
    fields.get? k = none := by
  cases hk : fields.get? k with
  | none => rfl
  | some v => exact absurd rfl (h _ (mem_of_get? hk))

/-- What is found under a name is found there still when others are left out. -/
theorem get?_filter {fields : Fields α} {name : String} {v : α} (h : fields.get? name = some v)
    (q : String × α → Bool) (hq : q (name, v)) : get? (fields.filter q) name = some v := by
  induction fields with
  | nil => cases h
  | cons p rest ih =>
    obtain ⟨n, w⟩ := p
    rw [get?_cons] at h
    split at h
    · next hn =>
      cases h
      subst hn
      rw [List.filter_cons_of_pos hq, get?_cons, if_pos rfl]
    · next hn =>
      by_cases hw : q (n, w)
      · rw [List.filter_cons_of_pos hw, get?_cons, if_neg hn, ih h]
      · rw [List.filter_cons_of_neg hw, ih h]

/-- Where others are left out by their names, a name that is kept is looked up as before. -/
theorem get?_filter_names (fields : Fields α) (q : String → Bool) {name : String} (hq : q name) :
    get? (fields.filter fun p => q p.1) name = fields.get? name := by
  cases h : fields.get? name with
  | some v => exact get?_filter h _ hq
  | none =>
    rw [← Option.not_isSome_iff_eq_none, ← mem_names_iff, names] at h ⊢
    exact fun hmem => h ((List.filter_sublist.map Prod.fst).subset hmem)

/-! ## Distinct names -/

/-- No name occurs twice. -/
def Distinct (fields : Fields α) : Prop := fields.names.Nodup

theorem distinct_cons {n : String} {v : α} {rest : Fields α} :
    Distinct ((n, v) :: rest) ↔ get? rest n = none ∧ rest.Distinct := by
  rw [Distinct, names, List.map_cons, List.nodup_cons, ← names, mem_names_iff]
  simp [Distinct]

theorem names_set (fields : Fields α) (name : String) (value : α) :
    (fields.set name value).names =
      if fields.has name then fields.names else fields.names ++ [name] := by
  rw [set]
  split
  · simp only [names, List.map_map]
    refine List.map_congr_left fun p _ => ?_
    simp only [Function.comp_apply]
    split <;> rfl
  · simp [names]

theorem Distinct.set {fields : Fields α} (h : fields.Distinct) (name : String) (value : α) :
    (fields.set name value).Distinct := by
  rw [Distinct, names_set]
  split
  · exact h
  · next hname =>
    rw [has_eq_isSome, ← mem_names_iff] at hname
    refine List.nodup_append.2 ⟨h, by simp, fun a ha b hb hab => hname ?_⟩
    rw [List.mem_singleton] at hb
    exact hb ▸ hab ▸ ha

theorem Distinct.filter {fields : Fields α} (h : fields.Distinct) (q : String × α → Bool) :
    Distinct (fields.filter q) :=
  h.sublist (List.filter_sublist.map Prod.fst)

/-- Where names are distinct, what is listed under a name is what is found there. -/
theorem get?_of_mem {fields : Fields α} (h : fields.Distinct) {n : String} {v : α}
    (hmem : (n, v) ∈ fields) : fields.get? n = some v := by
  induction fields with
  | nil => simp at hmem
  | cons p rest ih =>
    obtain ⟨m, w⟩ := p
    obtain ⟨hm, hrest⟩ := distinct_cons.1 h
    rw [get?_cons]
    rcases List.mem_cons.1 hmem with heq | hmem
    · cases heq
      exact if_pos rfl
    · have hne : n ≠ m := fun he => by
        rw [← he, ih hrest hmem] at hm
        cases hm
      rw [if_neg hne, ih hrest hmem]

/-! ## Making names distinct -/

theorem set_of_not_has {fields : Fields α} {name : String} (h : fields.has name = false)
    (value : α) : fields.set name value = fields ++ [(name, value)] := by
  rw [set, h]
  rfl

/-- Removing what was just put at the end. -/
theorem remove_concat {fields : Fields α} {name : String} (h : fields.has name = false)
    (value : α) : Fields.remove (fields ++ [(name, value)]) name = fields := by
  have hkept : List.filter (·.1 != name) fields = fields :=
    List.filter_eq_self.2 fun p hp => by simpa using List.any_eq_false.1 h p hp
  rw [remove, List.filter_append, hkept]
  simp

theorem distinct_merge (fields : Fields α) : fields.merge.Distinct := by
  have h : ∀ (fields acc : Fields α), acc.Distinct →
      (fields.foldl (fun acc p => acc.set p.1 p.2) acc).Distinct := by
    intro fields
    induction fields with
    | nil => exact fun _ hacc => hacc
    | cons p rest ih => exact fun acc hacc => ih _ (hacc.set p.1 p.2)
  exact h fields [] List.nodup_nil

/-- Merging leaves alone what is distinct already. -/
theorem Distinct.merge_eq {fields : Fields α} (h : fields.Distinct) : fields.merge = fields := by
  have hstep : ∀ (fields acc : Fields α), Distinct (acc ++ fields) →
      fields.foldl (fun acc p => acc.set p.1 p.2) acc = acc ++ fields := by
    intro fields
    induction fields with
    | nil => exact fun acc _ => (List.append_nil acc).symm
    | cons p rest ih =>
      intro acc hacc
      have hnew : has acc p.1 = false := by
        rw [← Bool.not_eq_true, has_eq_isSome, ← mem_names_iff]
        intro hmem
        rw [Distinct, names, List.map_append] at hacc
        exact (List.nodup_append.1 hacc).2.2 _ hmem _ List.mem_cons_self rfl
      rw [List.foldl_cons, set_of_not_has hnew, ih _ (by rwa [List.append_assoc]),
        List.append_assoc]
      rfl
  exact hstep fields [] h

theorem get?_foldl_set (fields acc : Fields α) (k : String) :
    (fields.foldl (fun acc (n, v) => acc.set n v) acc).get? k =
      (get? fields.reverse k).or (acc.get? k) := by
  induction fields generalizing acc with
  | nil => rfl
  | cons p rest ih =>
    obtain ⟨n, v⟩ := p
    rw [List.foldl_cons, ih, get?_set, List.reverse_cons, get?_append, Option.or_assoc, get?_cons,
      get?_nil]
    split <;> rfl

/-- Of equal names the last one counts. -/
theorem get?_merge (fields : Fields α) (k : String) :
    fields.merge.get? k = get? fields.reverse k := by
  rw [merge, get?_foldl_set, get?_nil, Option.or_none]

theorem Distinct.get?_reverse {fields : Fields α} (h : fields.Distinct) (k : String) :
    get? fields.reverse k = fields.get? k := by
  rw [← get?_merge, h.merge_eq]

theorem mem_of_mem_set {fields : Fields α} {name : String} {value : α} {p : String × α}
    (h : p ∈ fields.set name value) : p ∈ fields ∨ p = (name, value) := by
  rw [set] at h
  split at h
  · obtain ⟨⟨n, v⟩, hq, rfl⟩ := List.mem_map.1 h
    by_cases hn : n = name
    · exact .inr (by simp [hn])
    · exact .inl (by simpa [hn] using hq)
  · exact (List.mem_append.1 h).imp_right List.mem_singleton.1

theorem mem_of_mem_merge {fields : Fields α} {p : String × α} (h : p ∈ fields.merge) :
    p ∈ fields := by
  have hstep : ∀ (fields acc : Fields α), p ∈ fields.foldl (fun acc p => acc.set p.1 p.2) acc →
      p ∈ acc ∨ p ∈ fields := by
    intro fields
    induction fields with
    | nil => exact fun _ => .inl
    | cons q rest ih =>
      intro acc hp
      rcases ih _ hp with hp | hp
      · exact (mem_of_mem_set hp).imp_right fun (heq : p = q) => heq ▸ List.mem_cons_self
      · exact .inr (List.mem_cons_of_mem _ hp)
  exact (hstep fields [] h).resolve_left List.not_mem_nil

/-! ## Sorting -/

/-- Whether fields are in the order of their names, which are distinct. -/
def Ordered (fields : Fields α) : Prop := fields.Pairwise fun p q => p.1 < q.1

theorem mem_of_mem_insertSorted {fields : Fields α} {name : String} {value : α} {p : String × α}
    (h : p ∈ insertSorted name value fields) : p = (name, value) ∨ p ∈ fields := by
  induction fields with
  | nil => exact .inl (List.mem_singleton.1 h)
  | cons q rest ih =>
    rw [insertSorted] at h
    split at h
    · exact List.mem_cons.1 h
    · split at h
      · exact (List.mem_cons.1 h).imp_right (List.mem_cons_of_mem _)
      · rcases List.mem_cons.1 h with rfl | h
        · exact .inr List.mem_cons_self
        · exact (ih h).imp_right (List.mem_cons_of_mem _)

theorem ordered_insertSorted {fields : Fields α} (h : fields.Ordered) (name : String) (value : α) :
    (insertSorted name value fields).Ordered := by
  induction fields with
  | nil => exact List.pairwise_singleton ..
  | cons q rest ih =>
    obtain ⟨hq, hrest⟩ := List.pairwise_cons.1 h
    rw [insertSorted]
    split
    · next hlt =>
      refine List.pairwise_cons.2 ⟨List.forall_mem_cons.2 ⟨hlt, fun p hp => ?_⟩, h⟩
      exact String.lt_trans hlt (hq p hp)
    · next hge =>
      split
      · next heq => exact List.pairwise_cons.2 ⟨fun p hp => heq ▸ hq p hp, hrest⟩
      · next hne =>
        refine List.pairwise_cons.2 ⟨fun p hp => ?_, ih hrest⟩
        rcases mem_of_mem_insertSorted hp with rfl | hp
        · exact Decidable.byContradiction fun hnot =>
            hne (String.le_antisymm (String.not_lt.1 hnot) (String.not_lt.1 hge))
        · exact hq p hp

theorem ordered_sorted (fields : Fields α) : fields.sorted.Ordered := by
  have h : ∀ (fields acc : Fields α), acc.Ordered →
      (fields.foldl (fun acc p => insertSorted p.1 p.2 acc) acc).Ordered := by
    intro fields
    induction fields with
    | nil => exact fun _ hacc => hacc
    | cons p rest ih => exact fun acc hacc => ih _ (ordered_insertSorted hacc p.1 p.2)
  exact h fields [] List.Pairwise.nil

theorem insertSorted_of_forall_lt {fields : Fields α} {name : String}
    (h : ∀ p ∈ fields, p.1 < name) (value : α) :
    insertSorted name value fields = fields ++ [(name, value)] := by
  induction fields with
  | nil => rfl
  | cons q rest ih =>
    obtain ⟨hq, hrest⟩ := List.forall_mem_cons.1 h
    have hne : name ≠ q.1 := fun heq => String.lt_irrefl _ (heq ▸ hq)
    rw [insertSorted, if_neg (String.lt_asymm hq), if_neg hne, ih hrest, List.cons_append]

/-- Sorting leaves alone what is in order already. -/
theorem Ordered.sorted_eq {fields : Fields α} (h : fields.Ordered) : fields.sorted = fields := by
  have hstep : ∀ (fields acc : Fields α), Ordered (acc ++ fields) →
      fields.foldl (fun acc p => insertSorted p.1 p.2 acc) acc = acc ++ fields := by
    intro fields
    induction fields with
    | nil => exact fun acc _ => (List.append_nil acc).symm
    | cons p rest ih =>
      intro acc hacc
      have hlt : ∀ q ∈ acc, q.1 < p.1 := fun q hq =>
        (List.pairwise_append.1 hacc).2.2 q hq p List.mem_cons_self
      rw [List.foldl_cons, insertSorted_of_forall_lt hlt, ih _ (by rwa [List.append_assoc]),
        List.append_assoc]
      rfl
  exact hstep fields [] h

/-- **Sorting once is enough.** -/
theorem sorted_sorted (fields : Fields α) : fields.sorted.sorted = fields.sorted :=
  (ordered_sorted fields).sorted_eq

theorem mem_of_mem_sorted {fields : Fields α} {p : String × α} (h : p ∈ fields.sorted) :
    p ∈ fields := by
  have hstep : ∀ (fields acc : Fields α),
      p ∈ fields.foldl (fun acc p => insertSorted p.1 p.2 acc) acc → p ∈ acc ∨ p ∈ fields := by
    intro fields
    induction fields with
    | nil => exact fun _ => .inl
    | cons q rest ih =>
      intro acc hp
      rcases ih _ hp with hp | hp
      · exact (mem_of_mem_insertSorted hp).symm.imp_right fun (heq : p = q) =>
          heq ▸ List.mem_cons_self
      · exact .inr (List.mem_cons_of_mem _ hp)
  exact (hstep fields [] h).resolve_left List.not_mem_nil

/-- Lists with the same names and related values have related values under every name. -/
theorem rel_get? {β : Type} {R : α → β → Prop} {fields : Fields α} {others : Fields β}
    (h : List.Forall₂ (fun p q => p.1 = q.1 ∧ R p.2 q.2) fields others) (k : String) :
    Option.Rel R (fields.get? k) (others.get? k) := by
  induction h with
  | nil => exact .none
  | @cons p q fields others hpq hrest ih =>
    obtain ⟨n, v⟩ := p
    obtain ⟨n', v'⟩ := q
    obtain ⟨rfl, hR⟩ : n = n' ∧ R v v' := hpq
    rw [get?_cons, get?_cons]
    split
    · exact .some hR
    · exact ih

end Scenario.Fields
