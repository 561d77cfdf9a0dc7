import Scenario.Json.Record
import Scenario.Proofs.Json.Document
import Scenario.Proofs.Json.Fields

/-!
# Reading records again

What was read from a document is written in one way, whatever the document looked like, and is to be
read again from that.  It is of no use to ask this of all that could be written: a map may name
something twice, and an optional value may be null.  So it is asked of what a reader has given
(`Record.Restores`), and then it passes from the readers of values to those of lists, maps and
fields.

## What is here

* `Record.Restorable` — something is read again from what is written of it, which keeps the bounds.
* `Record.Restores` — whatever a reader gives is restorable.  `restores_text?` to `restores_choice?`
  say so of each reader of values, `Restores.list?` and `Restores.map?` of lists and maps.
* `Record.fields?_ofJson` — the fields of a record that was written are those that were written.
* `Record.Refound` — what was read of some fields is found again in what is written of them.
  `refound_required` to `refound_map` say so of one field for each way to leave it out, and
  `Refound.bind` puts fields one after the other.
* `Record.restores_record` — a record is read again if its fields are found again.
-/

set_option autoImplicit false

namespace Scenario.Record

open RawJson Text

variable {α : Type}

/-- Whether something is read again from what is written of it, which keeps the bounds. -/
structure Restorable (floats : Bool) (n : Nat) (read : RawJson → Option α) (write : α → Json)
    (x : α) : Prop where
  reads : read (ofJson (write x)) = some x
  fits : (ofJson (write x)).Fits floats n

/-- Whether all that is read can be read again from what is written of it.  This keeps the bounds
that the document kept, and is null only if that was. -/
structure Restores (read : RawJson → Option α) (write : α → Json) : Prop where
  restorable : ∀ {floats n doc x}, doc.Fits floats n → read doc = some x →
    Restorable floats n read write x
  null : ∀ {doc x}, read doc = some x → write x = .null → doc = .null

variable {floats : Bool} {n : Nat}

/-! ## Values -/

theorem restores_text? : Restores text? .string where
  restorable {_ _ doc _} _ h := by
    cases doc with
    | string s =>
      cases h
      exact ⟨rfl, .string _⟩
    | _ => cases h
  null _ h := nomatch h

theorem restores_flag? : Restores flag? .bool where
  restorable {_ _ doc _} _ h := by
    cases doc with
    | bool b =>
      cases h
      exact ⟨rfl, .bool _⟩
    | _ => cases h
  null _ h := nomatch h

theorem restores_natural? : Restores natural? Json.ofNat where
  restorable _ h := by
    rw [natural?.eq_def] at h
    split at h
    · split at h
      · next n hn =>
        cases h
        refine ⟨if_pos hn, .number ?_⟩
        rw [Whole.max64, Nat.pow_eq] at hn
        constructor <;> omega
      · cases h
    · cases h
  null _ h := nomatch h

theorem restores_integer? : Restores integer? (Json.ofInt ·.toInt) where
  restorable {_ _ _ i} _ _ := by
    have hreads : integer? (ofJson (.ofInt i.toInt)) = some (.ofInt i.toInt) :=
      if_pos ⟨i.minValue_le_toInt, i.toInt_le⟩
    have hmin := i.le_toInt
    have hmax := i.toInt_lt
    refine ⟨by rw [hreads, i.ofInt_toInt], .number ?_⟩
    constructor <;> omega
  null _ h := nomatch h

/-- Named values are read again if each of them is. -/
theorem valueMembers?_ofFields {ms : Fields Json}
    (h : ∀ m ∈ ms, Restorable floats n RawJson.value? id m.2) :
    valueMembers? (ofFields ms) = some ms ∧ ∀ m ∈ ofFields ms, Fits floats n m.2 := by
  induction ms with
  | nil => exact ⟨rfl, nofun⟩
  | cons m rest ih =>
    obtain ⟨hm, hrest⟩ := List.forall_mem_cons.1 h
    obtain ⟨hreads, hfits⟩ := ih hrest
    refine ⟨?_, List.forall_mem_cons.2 ⟨hm.fits, hfits⟩⟩
    have hm' : (ofJson m.2).value? = some m.2 := hm.reads
    rw [ofFields, valueMembers?, hm', hreads]

mutual

/-- A value is its own document. -/
theorem restorable_value? {floats : Bool} {n : Nat} : (doc : RawJson) → {v : Json} →
    doc.Fits floats n → doc.value? = some v → Restorable floats n RawJson.value? id v
  | .null, _, _, h => by
    cases h
    exact ⟨rfl, .null⟩
  | .bool b, _, _, h => by
    cases h
    exact ⟨rfl, .bool b⟩
  | .number x, _, hfits, h => by
    cases h
    exact ⟨rfl, hfits⟩
  | .string s, _, _, h => by
    cases h
    exact ⟨rfl, .string s⟩
  | .array items, _, hfits, h => by
    obtain ⟨vs, hvs, rfl⟩ := Option.map_eq_some_iff.1 h
    cases hfits with
    | array hfits =>
      obtain ⟨hreads, hfits⟩ := restorable_valueItems? items hfits hvs
      refine ⟨?_, .array hfits⟩
      rw [id, ofJson, RawJson.value?, hreads]
      rfl
  | .object members, _, hfits, h => by
    obtain ⟨ms, hms, rfl⟩ := Option.map_eq_some_iff.1 h
    cases hfits with
    | object hfits =>
      have hall := restorable_valueMembers? members hfits hms
      obtain ⟨hreads, hfits⟩ := valueMembers?_ofFields fun m (hm : m ∈ Fields.sorted ms) =>
        hall m (Fields.mem_of_mem_sorted hm)
      refine ⟨?_, .object hfits⟩
      rw [id, ofJson, RawJson.value?, hreads, Option.map_some, Fields.sorted_sorted]
  | .unreadable, _, _, h => nomatch h

theorem restorable_valueItems? {floats : Bool} {n : Nat} : (items : List RawJson) →
    {vs : List Json} → (∀ v ∈ items, Fits floats n v) → valueItems? items = some vs →
    valueItems? (ofItems vs) = some vs ∧ ∀ v ∈ ofItems vs, Fits floats n v
  | [], _, _, h => by
    cases h
    exact ⟨rfl, nofun⟩
  | v :: rest, _, hfits, h => by
    rw [valueItems?] at h
    split at h
    · next w ws hw hws =>
      cases h
      have hv := restorable_value? v (hfits v List.mem_cons_self) hw
      obtain ⟨hreads, hrest⟩ := restorable_valueItems? rest
        (fun u hu => hfits u (List.mem_cons_of_mem _ hu)) hws
      refine ⟨?_, List.forall_mem_cons.2 ⟨hv.fits, hrest⟩⟩
      have hw' : (ofJson w).value? = some w := hv.reads
      rw [ofItems, valueItems?, hw', hreads]
    · cases h

theorem restorable_valueMembers? {floats : Bool} {n : Nat} : (members : Fields RawJson) →
    {ms : Fields Json} → (∀ m ∈ members, Fits floats n m.2) → valueMembers? members = some ms →
    ∀ m ∈ ms, Restorable floats n RawJson.value? id m.2
  | [], _, _, h => by
    cases h
    exact nofun
  | m :: rest, _, hfits, h => by
    rw [valueMembers?] at h
    split at h
    · next w ws hw hws =>
      cases h
      exact List.forall_mem_cons.2 ⟨restorable_value? m.2 (hfits m List.mem_cons_self) hw,
        restorable_valueMembers? rest (fun u hu => hfits u (List.mem_cons_of_mem _ hu)) hws⟩
    · cases h

end

theorem restores_value? : Restores value? id where
  restorable hfits h := restorable_value? _ hfits h
  null {doc x} h hnull := by
    obtain rfl : x = .null := hnull
    have h : doc.value? = some .null := h
    cases doc with
    | null => rfl
    | array items =>
      obtain ⟨_, -, heq⟩ := Option.map_eq_some_iff.1 h
      cases heq
    | object members =>
      obtain ⟨_, -, heq⟩ := Option.map_eq_some_iff.1 h
      cases heq
    | _ => cases h

/-! ## Lists and maps -/

section Containers

variable {read : RawJson → Option α} {write : α → Json}

/-- A list is read again if its items are. -/
theorem restorable_list? {xs : List α} (h : ∀ x ∈ xs, Restorable floats n read write x) :
    Restorable floats (n + 1) (list? read) (fun xs => .array (xs.map write)) xs := by
  refine ⟨?_, ?_⟩
  · rw [ofJson, ofItems_eq_map, list?, mapM_eq_some_iff, List.map_map,
      List.forall₂_map_left_iff, List.forall₂_same]
    exact fun x hx => (h x hx).reads
  · rw [ofJson, ofItems_eq_map, List.map_map]
    refine .array fun v hv => ?_
    obtain ⟨x, hx, rfl⟩ := List.mem_map.1 hv
    exact (h x hx).fits

theorem Restores.list? (h : Restores read write) :
    Restores (list? read) fun xs => .array (xs.map write) where
  restorable {_ n doc xs} hfits hread := by
    cases hfits with
    | array hfits =>
      refine restorable_list? fun x hx => ?_
      obtain ⟨v, hv, hvx⟩ := exists_of_mem_mapM hread hx
      exact h.restorable (hfits v hv) hvx
    | _ => cases hread
  null _ h := nomatch h

/-- A map is read again if its values are and its names are distinct. -/
theorem restorable_map? {xs : Fields α} (hdistinct : xs.Distinct)
    (h : ∀ m ∈ xs, Restorable floats n read write m.2) :
    Restorable floats (n + 1) (map? read)
      (fun xs => .object (xs.map fun m => (m.1, write m.2))) xs := by
  refine ⟨?_, ?_⟩
  · have hreads : (xs.map fun m => (m.1, ofJson (write m.2))).mapM
        (fun m => (read m.2).map fun x => (m.1, x)) = some xs := by
      rw [mapM_eq_some_iff, List.forall₂_map_left_iff, List.forall₂_same]
      intro m hm
      rw [(h m hm).reads]
      rfl
    rw [ofJson, ofFields_eq_map, List.map_map, map?]
    exact (congrArg (Option.map Fields.merge) hreads).trans
      (congrArg some hdistinct.merge_eq)
  · rw [ofJson, ofFields_eq_map, List.map_map]
    refine .object fun v hv => ?_
    obtain ⟨m, hm, rfl⟩ := List.mem_map.1 hv
    exact (h m hm).fits

theorem Restores.map? (h : Restores read write) :
    Restores (map? read) fun xs => .object (xs.map fun m => (m.1, write m.2)) where
  restorable {_ n doc xs} hfits hread := by
    cases hfits with
    | object hfits =>
      obtain ⟨ys, hys, rfl⟩ := Option.map_eq_some_iff.1 hread
      refine restorable_map? (Fields.distinct_merge ys) fun m hm => ?_
      obtain ⟨v, hv, hvm⟩ := exists_of_mem_mapM hys (Fields.mem_of_mem_merge hm)
      obtain ⟨x, hx, rfl⟩ := Option.map_eq_some_iff.1 hvm
      exact h.restorable (hfits v hv) hx
    | _ => cases hread
  null _ h := nomatch h

end Containers

/-- One of several words is written as this word. -/
theorem restores_choice? {words : List (String × α)} (emptyObject : Bool) {word : α → String}
    (h : ∀ p ∈ words, words.lookup (word p.2) = some p.2) :
    Restores (choice? emptyObject words) fun x => .string (word x) where
  restorable {_ n doc x} _ hread := by
    have hmem : ∃ name, words.lookup name = some x := by
      rw [choice?.eq_def] at hread
      split at hread
      · exact ⟨_, hread⟩
      · exact ⟨_, hread⟩
      · split at hread
        · exact ⟨_, hread⟩
        · cases hread
      · cases hread
    obtain ⟨name, hname⟩ := hmem
    exact ⟨h (name, x) (Fields.mem_of_get? hname), .string _⟩
  null _ h := nomatch h

/-! ## Fields -/

/-- The values of fields nest less deeply than the record. -/
theorem fits_of_fields? {names : List String} {doc : RawJson} {fields : Fields RawJson}
    (hfits : doc.Fits floats n) (h : fields? names doc = some fields) :
    ∃ m, n = m + 1 ∧ ∀ {name v}, fields.get? name = some v → v.Fits floats m := by
  cases hfits with
  | object hfits =>
    rw [fields?] at h
    split at h
    · cases h
      exact ⟨_, rfl, fun hv => hfits _ (List.mem_filter.1 (Fields.mem_of_get? hv)).1⟩
    · cases h
  | array hfits =>
    rw [fields?] at h
    split at h
    · cases h
      exact ⟨_, rfl, fun hv => hfits _ (List.of_mem_zip (Fields.mem_of_get? hv)).2⟩
    · cases h
  | _ => cases h

/-- **The fields of a record that was written** are those that were written, if no name was written
twice. -/
theorem fields?_ofJson (names : List String) {members : Fields Json} (h : members.Distinct) :
    ∃ fields, fields? names (ofJson (.object members)) = some fields ∧
      ∀ name ∈ names, fields.get? name = (members.get? name).map ofJson := by
  have hraw : ∀ name, (ofFields members).get? name = (members.get? name).map ofJson := by
    intro name
    clear h
    induction members with
    | nil => rfl
    | cons m rest ih =>
      rw [ofFields, Fields.get?_cons, Fields.get?_cons, ih]
      split <;> rfl
  have hdistinct : (ofFields members).Distinct := by
    rwa [Fields.Distinct, Fields.names, ofFields_eq_map, List.map_map]
  refine ⟨_, if_pos ?_, fun name hname => ?_⟩
  · exact congrArg List.length (hdistinct.filter _).merge_eq
  · rw [← hraw name]
    exact Fields.get?_filter_names _ (fun n => names.contains n) (List.contains_iff_mem.2 hname)

/-! ## Writing fields -/

/-- Whether fields that were read are found again in what is written of them, which keeps the
bounds. -/
structure Refound (floats : Bool) (n : Nat) (names : List String) (read : Fields RawJson → Option α)
    (members : Fields Json) (x : α) : Prop where
  sublist : members.names.Sublist names
  fits : ∀ m ∈ members, (ofJson m.2).Fits floats n
  reads : ∀ {fields : Fields RawJson},
    (∀ name ∈ names, fields.get? name = (members.get? name).map ofJson) → read fields = some x

/-- What is not among the names is not written. -/
theorem Refound.get?_eq_none {names : List String} {read : Fields RawJson → Option α}
    {members : Fields Json} {x : α} (h : Refound floats n names read members x) {name : String}
    (hname : name ∉ names) : members.get? name = none := by
  rw [← Option.not_isSome_iff_eq_none, ← Fields.mem_names_iff]
  exact fun hmem => hname (h.sublist.subset hmem)

/-- Fields that are written one after the other are read one after the other. -/
theorem Refound.bind {β : Type} {names others : List String}
    {read : Fields RawJson → Option α} {next : α → Fields RawJson → Option β}
    {members more : Fields Json} {x : α} {y : β} (h : Refound floats n names read members x)
    (hnext : Refound floats n others (next x) more y) (hdisjoint : ∀ name ∈ names, name ∉ others) :
    Refound floats n (names ++ others) (fun fields => read fields >>= fun a => next a fields)
      (members ++ more) y where
  sublist := by
    rw [Fields.names, List.map_append]
    exact h.sublist.append hnext.sublist
  fits m hm := (List.mem_append.1 hm).elim (h.fits m) (hnext.fits m)
  reads {fields} hget := by
    have hread : read fields = some x := h.reads fun name hname => by
      rw [hget name (List.mem_append_left _ hname), Fields.get?_append,
        hnext.get?_eq_none (hdisjoint name hname), Option.or_none]
    have hmore : next x fields = some y := hnext.reads fun name hname => by
      rw [hget name (List.mem_append_right _ hname), Fields.get?_append,
        h.get?_eq_none fun hmem => hdisjoint name hmem hname, Option.none_or]
    exact Option.bind_eq_some_iff.2 ⟨x, hread, hmore⟩

/-- What is made of a field. -/
theorem Refound.map {β : Type} {names : List String} {read : Fields RawJson → Option α}
    {members : Fields Json} {x : α} (h : Refound floats n names read members x) (f : α → β) :
    Refound floats n names (fun fields => (read fields).map f) members (f x) where
  sublist := h.sublist
  fits := h.fits
  reads hget := by rw [h.reads hget, Option.map_some]

/-- A last field, of which with those before it the record is made. -/
theorem Refound.pure {β : Type} {names : List String} {read : Fields RawJson → Option α}
    {members : Fields Json} {x : α} (h : Refound floats n names read members x) (f : α → β) :
    Refound floats n names (fun fields => read fields >>= fun a => Pure.pure (f a)) members
      (f x) where
  sublist := h.sublist
  fits := h.fits
  reads hget := Option.bind_eq_some_iff.2 ⟨x, h.reads hget, rfl⟩

/-- What is written keeps the bounds. -/
theorem Refound.fits_object {names : List String} {read : Fields RawJson → Option α}
    {members : Fields Json} {x : α} (h : Refound floats n names read members x) :
    (ofJson (.object members)).Fits floats (n + 1) := by
  rw [ofJson, ofFields_eq_map]
  refine .object fun v hv => ?_
  obtain ⟨m, hm, rfl⟩ := List.mem_map.1 hv
  exact h.fits m hm

/-- **A record is read again** if its fields are found again. -/
theorem restores_record {names : List String} (hnodup : names.Nodup)
    {read : Fields RawJson → Option α} {write : α → Fields Json}
    (h : ∀ {floats n fields x}, (∀ {name v}, fields.get? name = some v → v.Fits floats n) →
      read fields = some x → Refound floats n names read (write x) x) :
    Restores (fun doc => fields? names doc >>= read) fun x => .object (write x) where
  restorable hfits hread := by
    obtain ⟨fields, hfields, hread⟩ := Option.bind_eq_some_iff.1 hread
    obtain ⟨m, rfl, hvalues⟩ := fits_of_fields? hfits hfields
    have hx := h hvalues hread
    obtain ⟨fields, hfields, hget⟩ := fields?_ofJson names (hnodup.sublist hx.sublist)
    exact ⟨Option.bind_eq_some_iff.2 ⟨fields, hfields, hx.reads hget⟩, hx.fits_object⟩
  null _ h := nomatch h

section Fields

variable {read : RawJson → Option α} {write : α → Json} {fields : Fields RawJson}
  {name : String}

/-- A field under one name that is always written. -/
theorem refound_singleton {readField : Fields RawJson → Option α} {x : α}
    (hfits : (ofJson (write x)).Fits floats n)
    (hreads : ∀ {fields : Fields RawJson}, fields.get? name = some (ofJson (write x)) →
      readField fields = some x) :
    Refound floats n [name] readField [(name, write x)] x where
  sublist := List.Sublist.refl _
  fits := List.forall_mem_singleton.2 hfits
  reads hget := hreads <| by
    rw [hget name (List.mem_singleton_self name), Fields.get?_cons, if_pos rfl, Option.map_some]

/-- A field under one name that is not written. -/
theorem refound_nil {readField : Fields RawJson → Option α} {x : α}
    (hreads : ∀ {fields : Fields RawJson}, fields.get? name = none → readField fields = some x) :
    Refound floats n [name] readField [] x where
  sublist := List.nil_sublist _
  fits := nofun
  reads hget := hreads (hget name (List.mem_singleton_self name))

/-- A field that has to be there is found again. -/
theorem refound_required (hrestores : Restores read write)
    (hfits : ∀ {name v}, fields.get? name = some v → v.Fits floats n) {x : α}
    (h : required fields name read = some x) :
    Refound floats n [name] (required · name read) [(name, write x)] x := by
  obtain ⟨v, hv, hread⟩ := Option.bind_eq_some_iff.1 h
  have hx := hrestores.restorable (hfits hv) hread
  refine refound_singleton hx.fits fun hget => ?_
  rw [required, hget]
  exact hx.reads

/-- An optional field is found again: no value of it is written as null. -/
theorem refound_optional (hrestores : Restores read write)
    (hfits : ∀ {name v}, fields.get? name = some v → v.Fits floats n) {o : Option α}
    (h : optional fields name read = some o) :
    Refound floats n [name] (optional · name read) (optionalField name write o) o := by
  have hnone : ∀ {fields : Fields RawJson}, fields.get? name = none →
      optional fields name read = some none := fun hget => by rw [optional, hget]
  rw [optional] at h
  split at h
  · cases h
    exact refound_nil hnone
  · cases h
    exact refound_nil hnone
  · next v hnull hv =>
    obtain ⟨x, hread, rfl⟩ := Option.map_eq_some_iff.1 h
    have hx := hrestores.restorable (hfits hv) hread
    have hne : ofJson (write x) ≠ .null := by
      intro heq
      cases hw : write x with
      | null => exact hnull (hrestores.null hread hw)
      | _ =>
        rw [hw] at heq
        cases heq
    refine @refound_singleton _ floats n (fun o => o.elim .null write) name _ (some x) hx.fits
      fun hget => ?_
    rw [optional, hget, Option.elim_some]
    split
    · next heq => cases heq
    · next heq => exact absurd (Option.some.inj heq) hne
    · next w _ heq =>
      cases heq
      rw [hx.reads, Option.map_some]

/-- A field with a default that is always written is found again. -/
theorem refound_defaulted (hrestores : Restores read write)
    (hfits : ∀ {name v}, fields.get? name = some v → v.Fits floats n) {d x : α}
    (hdefault : Restorable floats n read write d) (h : defaulted fields name d read = some x) :
    Refound floats n [name] (defaulted · name d read) [(name, write x)] x := by
  have hx : Restorable floats n read write x := by
    rw [defaulted] at h
    split at h
    · cases h
      exact hdefault
    · next v hv => exact hrestores.restorable (hfits hv) h
  refine refound_singleton hx.fits fun hget => ?_
  rw [defaulted, hget]
  exact hx.reads

/-- A list that is left out if it is empty is found again. -/
theorem refound_list {read : RawJson → Option (List α)} {write : List α → Json}
    (hrestores : Restores read write)
    (hfits : ∀ {name v}, fields.get? name = some v → v.Fits floats n) {xs : List α}
    (h : defaulted fields name [] read = some xs) :
    Refound floats n [name] (defaulted · name [] read)
      (if xs.isEmpty then [] else [(name, write xs)]) xs := by
  cases xs with
  | nil => exact refound_nil fun hget => by rw [defaulted, hget]
  | cons x xs =>
    rw [defaulted] at h
    split at h
    · cases h
    · next v hv =>
      have hx := hrestores.restorable (hfits hv) h
      refine refound_singleton hx.fits fun hget => ?_
      rw [defaulted, hget]
      exact hx.reads

/-- So is a map. -/
theorem refound_map (hrestores : Restores read write)
    (hfits : ∀ {name v}, fields.get? name = some v → v.Fits floats n) {xs : Fields α}
    (h : defaulted fields name [] (map? read) = some xs) :
    Refound floats n [name] (defaulted · name [] (map? read)) (mapField name write xs) xs :=
  refound_list hrestores.map? hfits h

end Fields

end Scenario.Record
