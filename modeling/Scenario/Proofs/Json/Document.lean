import Mathlib.Algebra.Group.Int.Defs
import Mathlib.Data.List.Forall2
import Scenario.Json.Printer
import Scenario.Json.Reader

/-!
# Documents that can be read and written

A document as it was read can say more than a value does, and a value as it is written is a
document of a special kind.  This file is about what both have in common, and about the bounds
that a document keeps when it was read: its integers fit 64 bits, since others are read as
floating-point numbers, and its containers do not nest deeper than is allowed.

## What is here

* `RawJson.ofJson` — the document that a value is read back as.  All of it can be read.
* `RawJson.isIntegral`, `Json.isIntegral` — whether there is no floating-point number in a document
  or a value.
* `RawJson.Fits` — the bounds, which may leave out floating-point numbers: `RawJson.Fits.false_iff`.
  `RawJson.fits_read?` says that a document keeps them when it was read, `RawJson.fits_limited`
  that limiting it bounds its nesting, and `RawJson.limited_of_fits` that this takes nothing away
  where the bound is kept.
-/

set_option autoImplicit false

namespace Scenario

/-- Reading all items of a list is reading each of them. -/
theorem mapM_eq_some_iff {α β : Type} {f : α → Option β} {xs : List α} {ys : List β} :
    xs.mapM f = some ys ↔ List.Forall₂ (fun x y => f x = some y) xs ys := by
  induction xs generalizing ys with
  | nil => simp [eq_comm]
  | cons x xs ih =>
    simp only [List.mapM_cons, Option.bind_eq_bind, Option.bind_eq_some_iff, ih,
      List.forall₂_cons_left_iff, Option.pure_def, Option.some_inj]
    constructor
    · rintro ⟨y, hy, rest, hrest, rfl⟩
      exact ⟨y, rest, hy, hrest, rfl⟩
    · rintro ⟨y, rest, hy, hrest, rfl⟩
      exact ⟨y, hy, rest, hrest, rfl⟩

/-- What was read of a list was read of one of its items. -/
theorem exists_of_mem_mapM {α β : Type} {f : α → Option β} {xs : List α} {ys : List β}
    (h : xs.mapM f = some ys) {y : β} (hy : y ∈ ys) : ∃ x ∈ xs, f x = some y := by
  induction mapM_eq_some_iff.1 h with
  | nil => cases hy
  | cons hxy hrest ih =>
    rcases List.mem_cons.1 hy with rfl | hy
    · exact ⟨_, List.mem_cons_self, hxy⟩
    · obtain ⟨x, hx, hxy⟩ := ih (mapM_eq_some_iff.2 hrest) hy
      exact ⟨x, List.mem_cons_of_mem _ hx, hxy⟩

/-! ## Values as documents -/

mutual

/-- A value as a document. -/
def RawJson.ofJson : Json → RawJson
  | .null => .null
  | .bool b => .bool b
  | .number n => .number n
  | .string s => .string s
  | .array items => .array (ofItems items)
  | .object members => .object (ofFields members)

/-- Values as documents. -/
def RawJson.ofItems : List Json → List RawJson
  | [] => []
  | v :: rest => ofJson v :: ofItems rest

/-- Named values as documents. -/
def RawJson.ofFields : Fields Json → Fields RawJson
  | [] => []
  | (name, v) :: rest => (name, ofJson v) :: ofFields rest

end

namespace RawJson

theorem ofItems_eq_map (items : List Json) : ofItems items = items.map ofJson := by
  induction items with
  | nil => rfl
  | cons v rest ih => rw [ofItems, ih, List.map_cons]

theorem ofFields_eq_map (members : Fields Json) :
    ofFields members = members.map fun m => (m.1, ofJson m.2) := by
  induction members with
  | nil => rfl
  | cons m rest ih => rw [ofFields, ih, List.map_cons]

end RawJson

/-! ## Numbers that are read back -/

/-- Whether an integer fits 64 bits, with or without a sign, or a number is a floating-point number
where there may be some. -/
def Numeral.Fits (floats : Bool) : Numeral → Prop
  | .integer i => -(2 ^ 63 : Int) ≤ i ∧ i < 2 ^ 64
  | .float _ => floats

mutual

/-- Whether there is no floating-point number in a document. -/
def RawJson.isIntegral : RawJson → Bool
  | .number (.float _) => false
  | .array items => itemsIntegral items
  | .object members => membersIntegral members
  | _ => true

/-- Whether there is no floating-point number in documents. -/
def RawJson.itemsIntegral : List RawJson → Bool
  | [] => true
  | v :: rest => v.isIntegral && itemsIntegral rest

/-- Whether there is no floating-point number in named documents. -/
def RawJson.membersIntegral : Fields RawJson → Bool
  | [] => true
  | (_, v) :: rest => v.isIntegral && membersIntegral rest

end

/-- Whether there is no floating-point number in a value. -/
def Json.isIntegral (v : Json) : Bool := (RawJson.ofJson v).isIntegral

/-- Whether all numbers of a document fit 64 bits, or are floating-point numbers where there may be
some, and its containers nest at most `n` deep. -/
inductive RawJson.Fits (floats : Bool) : Nat → RawJson → Prop where
  | null {n : Nat} : Fits floats n .null
  | bool {n : Nat} (b : Bool) : Fits floats n (.bool b)
  | number {n : Nat} {x : Numeral} (h : x.Fits floats) : Fits floats n (.number x)
  | string {n : Nat} (s : String) : Fits floats n (.string s)
  | array {n : Nat} {items : List RawJson} (h : ∀ v ∈ items, Fits floats n v) :
    Fits floats (n + 1) (.array items)
  | object {n : Nat} {members : Fields RawJson} (h : ∀ m ∈ members, Fits floats n m.2) :
    Fits floats (n + 1) (.object members)
  | unreadable {n : Nat} : Fits floats n .unreadable

namespace RawJson

theorem itemsIntegral_iff {items : List RawJson} :
    itemsIntegral items ↔ ∀ v ∈ items, v.isIntegral := by
  induction items with
  | nil => exact iff_of_true rfl (List.forall_mem_nil _)
  | cons v rest ih => rw [itemsIntegral, Bool.and_eq_true, ih, List.forall_mem_cons]

theorem membersIntegral_iff {members : Fields RawJson} :
    membersIntegral members ↔ ∀ m ∈ members, m.2.isIntegral := by
  induction members with
  | nil => exact iff_of_true rfl (List.forall_mem_nil _)
  | cons m rest ih => rw [membersIntegral, Bool.and_eq_true, ih, List.forall_mem_cons]

/-- To leave out floating-point numbers is to have none. -/
theorem Fits.false_iff {floats : Bool} {n : Nat} {doc : RawJson} (h : doc.Fits floats n) :
    doc.Fits false n ↔ doc.isIntegral := by
  induction h with
  | null => exact iff_of_true .null rfl
  | bool b => exact iff_of_true (.bool b) rfl
  | @number n x h =>
    cases x with
    | integer i => exact iff_of_true (.number h) rfl
    | float x => exact iff_of_false (fun | .number h => nomatch h) nofun
  | string s => exact iff_of_true (.string s) rfl
  | array h ih =>
    rw [isIntegral, itemsIntegral_iff]
    exact ⟨fun | .array hfalse => fun v hv => (ih v hv).1 (hfalse v hv),
      fun hall => .array fun v hv => (ih v hv).2 (hall v hv)⟩
  | object h ih =>
    rw [isIntegral, membersIntegral_iff]
    exact ⟨fun | .object hfalse => fun m hm => (ih m hm).1 (hfalse m hm),
      fun hall => .object fun m hm => (ih m hm).2 (hall m hm)⟩
  | unreadable => exact iff_of_true .unreadable rfl

/-! ## What was read -/

theorem Fits.mono {floats : Bool} {n m : Nat} {doc : RawJson} (h : doc.Fits floats n)
    (hle : n ≤ m) : doc.Fits floats m := by
  induction h generalizing m with
  | null => exact .null
  | bool b => exact .bool b
  | number h => exact .number h
  | string s => exact .string s
  | array _ ih =>
    obtain ⟨m, rfl⟩ := Nat.exists_eq_add_of_le' (Nat.lt_of_lt_of_le (Nat.succ_pos _) hle)
    exact .array fun v hv => ih v hv (Nat.le_of_succ_le_succ hle)
  | object _ ih =>
    obtain ⟨m, rfl⟩ := Nat.exists_eq_add_of_le' (Nat.lt_of_lt_of_le (Nat.succ_pos _) hle)
    exact .object fun v hv => ih v hv (Nat.le_of_succ_le_succ hle)
  | unreadable => exact .unreadable

theorem appendDigits_le {s : Nat} (hs : s ≤ significandBound) (ds : List Char) :
    (appendDigits s ds).1 ≤ significandBound := by
  induction ds generalizing s with
  | nil => exact hs
  | cons c ds ih =>
    rw [appendDigits]
    by_cases hnext : significandBound < s * 10 + (c.toNat - '0'.toNat)
    · simp only [if_pos hnext]
      exact hs
    · simp only [if_neg hnext]
      exact ih (Nat.not_lt.1 hnext)

theorem fits_scale? {negative : Bool} {s : Nat} {e : Int} {x : Numeral}
    (h : scale? negative s e = some x) : x.Fits true := by
  rw [scale?.eq_def] at h
  simp only at h
  split at h
  · split at h
    · split at h
      · cases h
        exact rfl
      · cases h
    · split at h
      · cases h
        exact rfl
      · cases h
  · cases h
    exact rfl

theorem fits_scaleBy? {negative : Bool} {s : Nat} {e : Int} {p : Option (Bool × List Char)}
    {x : Numeral} (h : scaleBy? negative s e p = some x) : x.Fits true := by
  rw [scaleBy?.eq_def] at h
  split at h
  · exact fits_scale? h
  · simp only at h
    split at h
    · split at h
      · cases h
        exact rfl
      · cases h
    · exact fits_scale? h

/-- A number that does not fit 64 bits as an integer is read as a floating-point number. -/
theorem fits_numeral? {t : NumeralText} {x : Numeral} (h : t.numeral? = some x) : x.Fits true := by
  have hbound := appendDigits_le (Nat.zero_le significandBound) t.whole
  rw [significandBound, Nat.pow_eq] at hbound
  simp only [NumeralText.numeral?] at h
  split at h
  · split at h
    · exact fits_scale? h
    · split at h
      · cases h
        constructor <;> omega
      · split at h
        · cases h
          exact rfl
        · next hlow =>
          rw [Nat.pow_eq] at hlow
          cases h
          constructor <;> omega
  · exact fits_scaleBy? h

theorem fits_readNumeral? {cs r : List Char} {doc : RawJson} (n : Nat)
    (h : readNumeral? cs = some (doc, r)) : doc.Fits true n := by
  rw [readNumeral?] at h
  obtain ⟨⟨t, rest⟩, -, ht⟩ := Option.map_eq_some_iff.1 h
  simp only at ht
  split at ht
  · next x hx =>
    cases ht
    exact .number (fits_numeral? hx)
  · cases ht
    exact .unreadable

theorem fits_readText? {cs r : List Char} {doc : RawJson} (n : Nat)
    (h : readText? cs = some (doc, r)) : doc.Fits true n := by
  rw [readText?] at h
  obtain ⟨⟨text, rest⟩, -, ht⟩ := Option.map_eq_some_iff.1 h
  simp only at ht
  split at ht
  · cases ht
    exact .string _
  · cases ht
    exact .unreadable

/-- A name that cannot be read does not nest anything. -/
theorem fits_ofMembers {n : Nat} {members : List (Option String × RawJson)}
    (h : ∀ m ∈ members, Fits true n m.2) : (ofMembers members).Fits true (n + 1) := by
  rw [ofMembers]
  split
  · next ms hms =>
    refine .object fun m hm => ?_
    obtain ⟨p, hp, hpm⟩ := exists_of_mem_mapM hms hm
    obtain ⟨name, -, rfl⟩ := Option.map_eq_some_iff.1 hpm
    exact h p hp
  · exact .unreadable

mutual

/-- A value nests at most as deep as the reader went. -/
theorem fits_readValue? : (n : Nat) → (cs : List Char) → {doc : RawJson} → {r : List Char} →
    readValue? n cs = some (doc, r) → doc.Fits true n
  | 0, cs, doc, r, h => nomatch h
  | n + 1, cs, doc, r, h => by
    rw [readValue?.eq_def] at h
    simp only at h
    split at h
    · cases h
      exact .null
    · cases h
      exact .bool _
    · cases h
      exact .bool _
    · exact fits_readText? _ h
    · split at h
      · cases h
        exact .array nofun
      · obtain ⟨⟨vs, tail⟩, hvs, ht⟩ := Option.map_eq_some_iff.1 h
        cases ht
        exact .array (fits_readItems? n [] _ (Nat.le_refl n) nofun hvs)
    · split at h
      · cases h
        exact .object nofun
      · obtain ⟨⟨ms, tail⟩, hms, ht⟩ := Option.map_eq_some_iff.1 h
        cases ht
        exact fits_ofMembers (fits_readMembers? n [] _ (Nat.le_refl n) nofun hms)
    · exact fits_readNumeral? _ h

theorem fits_readItems? {d : Nat} : (n : Nat) → (read : List RawJson) → (cs : List Char) →
    {vs : List RawJson} → {r : List Char} → n ≤ d → (∀ v ∈ read, Fits true d v) →
    readItems? n read cs = some (vs, r) → ∀ v ∈ vs, Fits true d v
  | 0, read, cs, vs, r, _, _, h => nomatch h
  | n + 1, read, cs, vs, r, hn, hread, h => by
    rw [readItems?] at h
    split at h
    · cases h
    · next v rest hv =>
      have hfits := (fits_readValue? n cs hv).mono (Nat.le_of_succ_le hn)
      have hmore : ∀ w ∈ v :: read, Fits true d w := List.forall_mem_cons.2 ⟨hfits, hread⟩
      split at h
      · cases h
        exact fun w hw => hmore w (List.mem_reverse.1 hw)
      · exact fits_readItems? n (v :: read) _ (Nat.le_of_succ_le hn) hmore h
      · cases h

theorem fits_readMembers? {d : Nat} : (n : Nat) → (read : List (Option String × RawJson)) →
    (cs : List Char) → {ms : List (Option String × RawJson)} → {r : List Char} → n ≤ d →
    (∀ m ∈ read, Fits true d m.2) → readMembers? n read cs = some (ms, r) →
    ∀ m ∈ ms, Fits true d m.2
  | 0, read, cs, ms, r, _, _, h => nomatch h
  | n + 1, read, cs, ms, r, hn, hread, h => by
    rw [readMembers?.eq_def] at h
    simp only at h
    split at h
    · split at h
      · cases h
      · next name _ _ =>
        split at h
        · split at h
          · cases h
          · next v rest hv =>
            have hfits := (fits_readValue? n _ hv).mono (Nat.le_of_succ_le hn)
            have hmore : ∀ m ∈ (name, v) :: read, Fits true d m.2 :=
              List.forall_mem_cons.2 ⟨hfits, hread⟩
            split at h
            · cases h
              exact fun m hm => hmore m (List.mem_reverse.1 hm)
            · exact fits_readMembers? n _ _ (Nat.le_of_succ_le hn) hmore h
            · cases h
        · cases h
    · cases h

end

/-- **A document that was read keeps the bounds**, if there is one on its nesting. -/
theorem fits_read? {text : String} {doc : RawJson} (h : read? text = some doc) :
    ∃ n, doc.Fits true n := by
  rw [read?, readChars?] at h
  split at h
  · next v rest hv =>
    split at h
    · cases h
      exact ⟨_, fits_readValue? _ _ hv⟩
    · cases h
  · cases h

/-! ## Nesting -/

mutual

/-- Limiting a document bounds its nesting. -/
theorem fits_limited {floats : Bool} {m : Nat} : (doc : RawJson) → (n : Nat) →
    doc.Fits floats m → (doc.limited n).Fits floats n
  | .null, n, _ => by simpa [limited] using .null
  | .bool b, n, _ => by simpa [limited] using .bool b
  | .number x, n, h => by
    cases h with
    | number h => simpa [limited] using .number h
  | .string s, n, _ => by simpa [limited] using .string s
  | .array items, 0, _ => .unreadable
  | .array items, n + 1, h => by
    cases h with
    | array h => exact .array (fits_limitedItems items n h)
  | .object members, 0, _ => .unreadable
  | .object members, n + 1, h => by
    cases h with
    | object h => exact .object (fits_limitedMembers members n h)
  | .unreadable, n, _ => by simpa [limited] using .unreadable

theorem fits_limitedItems {floats : Bool} {m : Nat} : (items : List RawJson) → (n : Nat) →
    (∀ v ∈ items, Fits floats m v) → ∀ v ∈ limitedItems n items, Fits floats n v
  | [], _, _ => nofun
  | v :: rest, n, h => List.forall_mem_cons.2 ⟨fits_limited v n (h v List.mem_cons_self),
      fits_limitedItems rest n fun w hw => h w (List.mem_cons_of_mem _ hw)⟩

theorem fits_limitedMembers {floats : Bool} {m : Nat} : (members : Fields RawJson) → (n : Nat) →
    (∀ p ∈ members, Fits floats m p.2) → ∀ p ∈ limitedMembers n members, Fits floats n p.2
  | [], _, _ => nofun
  | p :: rest, n, h => List.forall_mem_cons.2 ⟨fits_limited p.2 n (h _ List.mem_cons_self),
      fits_limitedMembers rest n fun p hp => h p (List.mem_cons_of_mem _ hp)⟩

end

mutual

/-- Limiting takes nothing away from a document that keeps the bound. -/
theorem limited_of_fits {floats : Bool} : (doc : RawJson) → {n : Nat} →
    doc.Fits floats n → doc.limited n = doc
  | .null, _, _ => by rw [limited] <;> nofun
  | .bool _, _, _ => by rw [limited] <;> nofun
  | .number _, _, _ => by rw [limited] <;> nofun
  | .string _, _, _ => by rw [limited] <;> nofun
  | .array items, _, h => by
    cases h with
    | array h => rw [limited, limitedItems_of_fits items h]
  | .object members, _, h => by
    cases h with
    | object h => rw [limited, limitedMembers_of_fits members h]
  | .unreadable, _, _ => by rw [limited] <;> nofun

theorem limitedItems_of_fits {floats : Bool} : (items : List RawJson) → {n : Nat} →
    (∀ v ∈ items, Fits floats n v) → limitedItems n items = items
  | [], _, _ => rfl
  | v :: rest, _, h => by
    rw [limitedItems, limited_of_fits v (h v List.mem_cons_self),
      limitedItems_of_fits rest fun w hw => h w (List.mem_cons_of_mem _ hw)]

theorem limitedMembers_of_fits {floats : Bool} : (members : Fields RawJson) → {n : Nat} →
    (∀ p ∈ members, Fits floats n p.2) → limitedMembers n members = members
  | [], _, _ => rfl
  | m :: rest, _, h => by
    rw [limitedMembers, limited_of_fits m.2 (h _ List.mem_cons_self),
      limitedMembers_of_fits rest fun p hp => h p (List.mem_cons_of_mem _ hp)]

end

/-! ## What is written -/

mutual

/-- All of a value can be read. -/
theorem value?_ofJson_isSome : (v : Json) → (ofJson v).value?.isSome
  | .null => rfl
  | .bool _ => rfl
  | .number _ => rfl
  | .string _ => rfl
  | .array items => by
    rw [ofJson, value?, Option.isSome_map]
    exact valueItems?_ofItems_isSome items
  | .object members => by
    rw [ofJson, value?, Option.isSome_map]
    exact valueMembers?_ofFields_isSome members

theorem valueItems?_ofItems_isSome : (items : List Json) → (valueItems? (ofItems items)).isSome
  | [] => rfl
  | v :: rest => by
    obtain ⟨w, hw⟩ := Option.isSome_iff_exists.1 (value?_ofJson_isSome v)
    obtain ⟨ws, hws⟩ := Option.isSome_iff_exists.1 (valueItems?_ofItems_isSome rest)
    rw [ofItems, valueItems?, hw, hws]
    rfl

theorem valueMembers?_ofFields_isSome : (members : Fields Json) →
    (valueMembers? (ofFields members)).isSome
  | [] => rfl
  | m :: rest => by
    obtain ⟨w, hw⟩ := Option.isSome_iff_exists.1 (value?_ofJson_isSome m.2)
    obtain ⟨ws, hws⟩ := Option.isSome_iff_exists.1 (valueMembers?_ofFields_isSome rest)
    rw [ofFields, valueMembers?, hw, hws]
    rfl

end

end RawJson
end Scenario
