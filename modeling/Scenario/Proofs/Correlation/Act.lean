import Scenario.Correlation.Table
import Scenario.Proofs.Json.Fields

/-!
# What happens to one key

A correlation table locks one key at a time.  This file cuts its operations down to what each does
under the lock of a single key, and says what that makes of the entry under this key.

## What is here

* `Act` is something done to one key while nobody else can get at it.  An operation on all keys is
  not one: a purge comes by the keys one after the other, and each of its visits is an act.
* `Act.onEntry` is what an act makes of the entry, and `Act.handed?` the reply that it hands out.
  `Table.get?_act` and `Table.handed?_eq` say that tables behave like this, key by key.
* `Act.Keeps` says which acts leave a stored reply where it is.  `Act.put_or_keeps` and
  `Act.since_onEntry` read an entry backwards: how the reply in it, and its time, came about.
* `Table.foldl_visit` and `Table.foldl_drop` put the visits together again: if nothing comes in
  between, they are `Table.purge` and `Table.clear`, whatever the order of the keys.
-/

set_option autoImplicit false

namespace Scenario.Correlation

variable {ρ : Type}

/-- What is done to one key of a table without anything else coming in between. -/
inductive Act (ρ : Type) where
  | create
  | put (reply : ρ)
  | claim
  | discard
  | expire
  /-- A purge comes to the key and drops an entry that is not kept any longer. -/
  | visit
  /-- A clearing comes to the key. -/
  | drop
deriving Repr

namespace Table

/-- Drops the entry under a key. -/
def drop (t : Table ρ) (key : String) : Table ρ := ⟨t.entries.remove key⟩

/-- Drops the entry under a key if it is not kept any longer. -/
def visit (t : Table ρ) (now retention : Nat) (key : String) : Table ρ :=
  if (t.get? key).any (!·.isKept now retention) then t.drop key else t

/-- Does something to one key. -/
def act (t : Table ρ) (now retention : Nat) (key : String) : Act ρ → Table ρ
  | .create => t.create now key
  | .put reply => t.put now key reply
  | .claim => (t.claim key).2
  | .discard => t.discard key
  | .expire => t.expire now key
  | .visit => t.visit now retention key
  | .drop => t.drop key

/-- The reply that is handed out on the way. -/
def handed? (t : Table ρ) (key : String) : Act ρ → Option ρ
  | .claim => (t.claim key).1
  | _ => none

end Table

/-- What becomes of the entry under a key. -/
def Act.onEntry (now retention : Nat) : Act ρ → Option (Entry ρ) → Option (Entry ρ)
  | create, e => some (e.getD { created := now })
  | put reply, e => some { e.getD { created := now } with reply := some reply }
  | claim, e => e.filter Entry.isPending
  | discard, e => e.filter (!·.isPending)
  | expire, e => e.map fun e => if e.isPending then { e with expired := some now } else e
  | visit, e => e.filter (Entry.isKept now retention)
  | drop, _ => none

/-- The reply that is handed out from the entry under a key. -/
def Act.handed? : Act ρ → Option (Entry ρ) → Option ρ
  | claim, e => e.bind (·.reply)
  | _, _ => none

namespace Table

variable (t : Table ρ) (now retention : Nat) (key : String)

theorem get?_drop (k : String) :
    (t.drop key).get? k = if k = key then none else t.get? k :=
  Fields.get?_remove t.entries key k

/-- **What is done to a key changes the entry under this key and no other.** -/
theorem get?_act (a : Act ρ) (k : String) :
    (t.act now retention key a).get? k =
      if k = key then a.onEntry now retention (t.get? key) else t.get? k := by
  -- an entry that stays as it is can be read as being set to itself
  have hsame : ∀ e : Option (Entry ρ), t.get? key = e →
      t.get? k = if k = key then e else t.get? k := by
    rintro e rfl
    split
    · next hk => rw [hk]
    · rfl
  cases a with
  | create =>
    rw [act, create, Fields.has_eq_isSome]
    cases he : t.get? key with
    | none => rw [← Table.get?, he]; exact Fields.get?_set ..
    | some e => rw [← Table.get?, he]; exact hsame _ he
  | put reply => exact Fields.get?_set ..
  | claim =>
    rw [act, claim]
    cases he : t.get? key with
    | none => exact hsame _ he
    | some e =>
      cases hr : e.reply with
      | none =>
        simp only [Option.bind_some, hr]
        refine hsame _ (he.trans ?_)
        simp [Act.onEntry, Option.filter_some, Entry.isPending, hr]
      | some reply =>
        simp only [Option.bind_some, hr, Act.onEntry, Option.filter_some, Entry.isPending]
        exact get?_drop t key k
  | discard =>
    rw [act, discard]
    cases he : t.get? key with
    | none => exact hsame _ he
    | some e =>
      cases hp : e.isPending with
      | true =>
        simp only [Option.any_some, hp, ↓reduceIte, Act.onEntry, Option.filter_some]
        exact get?_drop t key k
      | false => simpa [hp, Act.onEntry, Option.filter_some] using hsame _ he
  | expire =>
    rw [act, expire]
    cases he : t.get? key with
    | none => exact hsame _ he
    | some e =>
      cases hp : e.isPending with
      | true =>
        simp only [hp, ↓reduceIte, Act.onEntry, Option.map_some]
        exact Fields.get?_set ..
      | false => simpa [hp, Act.onEntry] using hsame _ he
  | visit =>
    rw [act, visit]
    cases he : t.get? key with
    | none => exact hsame _ he
    | some e =>
      cases hk : e.isKept now retention with
      | true => simpa [hk, Act.onEntry, Option.filter_some] using hsame _ he
      | false => simpa [hk, Act.onEntry, Option.filter_some] using get?_drop t key k
  | drop => exact get?_drop t key k

/-- **What is handed out comes from the entry under the key.** -/
theorem handed?_eq (a : Act ρ) : t.handed? key a = a.handed? (t.get? key) := by
  cases a with
  | claim =>
    rw [handed?, claim, Act.handed?]
    split <;> rename_i h <;> simp [h]
  | _ => rfl

end Table

/-- No key ever comes to stand twice in a table. -/
theorem Table.distinct_act {t : Table ρ} (h : t.entries.Distinct) (now retention : Nat)
    (key : String) (a : Act ρ) : (t.act now retention key a).entries.Distinct := by
  have hdrop : (t.drop key).entries.Distinct := h.filter _
  cases a with
  | create =>
    rw [act, create]
    split
    · exact h
    · exact h.set ..
  | put reply => exact h.set ..
  | claim =>
    rw [act, claim]
    split
    · exact hdrop
    · exact h
  | discard =>
    rw [act, discard]
    split
    · exact hdrop
    · exact h
  | expire =>
    rw [act, expire]
    split
    · split
      · exact h.set ..
      · exact h
    · exact h
  | visit =>
    rw [act, visit]
    split
    · exact hdrop
    · exact h
  | drop => exact hdrop

/-! ## Stored replies -/

/-- Whether something that is done at a time leaves a reply stored and the begin of its time where
they are.  Another reply may take its place. -/
def Act.Keeps (now retention since : Nat) : Act ρ → Prop
  | claim => False
  | drop => False
  | visit => now - since < retention
  | _ => True

theorem Act.keeps_visit {now retention : Nat} {e : Entry ρ} :
    (visit : Act ρ).Keeps now retention e.since ↔ e.isKept now retention = true := by
  rw [Keeps, Entry.isKept, decide_eq_true_iff]

theorem Act.onEntry_of_keeps {now retention : Nat} {a : Act ρ} {e : Entry ρ}
    (hstored : e.isPending = false) (h : a.Keeps now retention e.since) :
    ∃ e', a.onEntry now retention (some e) = some e' ∧ e'.isPending = false ∧
      e'.since = e.since := by
  cases a with
  | create => exact ⟨e, rfl, hstored, rfl⟩
  | put reply => exact ⟨{ e with reply := some reply }, rfl, rfl, rfl⟩
  | claim => exact h.elim
  | discard => exact ⟨e, by simp [onEntry, Option.filter_some, hstored], hstored, rfl⟩
  | expire => exact ⟨e, by simp [onEntry, hstored], hstored, rfl⟩
  | visit =>
    rw [keeps_visit] at h
    exact ⟨e, by simp [onEntry, Option.filter_some, h], hstored, rfl⟩
  | drop => exact h.elim

/-- Nothing but a registration or a reply makes an entry. -/
theorem Act.onEntry_none {now retention : Nat} {a : Act ρ} (hcreate : a ≠ .create)
    (hput : ∀ reply, a ≠ .put reply) : a.onEntry now retention none = none := by
  cases a with
  | create => exact absurd rfl hcreate
  | put reply => exact absurd rfl (hput reply)
  | claim | discard | expire | visit | drop => rfl

/-- A stored reply was put there now, or it has been there before and was kept. -/
theorem Act.put_or_keeps {now retention : Nat} {a : Act ρ} {o : Option (Entry ρ)} {e : Entry ρ}
    {reply : ρ} (h : a.onEntry now retention o = some e) (hreply : e.reply = some reply) :
    a = .put reply ∨ o = some e ∧ a.Keeps now retention e.since ∧ ∀ r, a ≠ .put r := by
  have hstored : e.isPending = false := by simp [Entry.isPending, hreply]
  cases a with
  | create =>
    refine .inr ⟨?_, trivial, nofun⟩
    cases o with
    | none => cases h; cases hreply
    | some e' => exact h
  | put reply' =>
    cases h
    cases hreply
    exact .inl rfl
  | claim =>
    obtain ⟨-, hpending⟩ := Option.filter_eq_some_iff.1 h
    rw [hstored] at hpending
    cases hpending
  | discard => exact .inr ⟨(Option.filter_eq_some_iff.1 h).1, trivial, nofun⟩
  | expire =>
    obtain ⟨e', rfl, he⟩ := Option.map_eq_some_iff.1 h
    split at he
    · next hpending =>
      cases he
      rw [Entry.isPending] at hpending hstored
      rw [hstored] at hpending
      cases hpending
    · exact .inr ⟨congrArg some he, trivial, nofun⟩
  | visit =>
    obtain ⟨ho, hkept⟩ := Option.filter_eq_some_iff.1 h
    exact .inr ⟨ho, keeps_visit.2 hkept, nofun⟩
  | drop => cases h

/-- The time of an entry begins when it is made or when a wait for a reply runs out, and at no
other moment. -/
theorem Act.since_onEntry {now retention : Nat} {a : Act ρ} {o : Option (Entry ρ)} {e : Entry ρ}
    (h : a.onEntry now retention o = some e) :
    e.since = now ∧ (o = none ∨ a = .expire ∧ o.any Entry.isPending) ∨
      ∃ e', o = some e' ∧ e'.since = e.since ∧ ¬ (a = .expire ∧ o.any Entry.isPending) := by
  cases a with
  | create =>
    cases o with
    | none => cases h; exact .inl ⟨rfl, .inl rfl⟩
    | some e' => cases h; exact .inr ⟨_, rfl, rfl, nofun⟩
  | put reply =>
    cases o with
    | none => cases h; exact .inl ⟨rfl, .inl rfl⟩
    | some e' => cases h; exact .inr ⟨_, rfl, rfl, nofun⟩
  | expire =>
    obtain ⟨e', rfl, he⟩ := Option.map_eq_some_iff.1 h
    split at he
    · next hpending =>
      cases he
      exact .inl ⟨rfl, .inr ⟨rfl, hpending⟩⟩
    · next hstored =>
      cases he
      exact .inr ⟨_, rfl, rfl, fun hnow => hstored hnow.2⟩
  | claim | discard | visit => exact .inr ⟨e, (Option.filter_eq_some_iff.1 h).1, rfl, nofun⟩
  | drop => cases h

namespace Table

variable (t : Table ρ) (now retention : Nat) (key : String)

/-! ## Operations on a whole table -/

variable {t} in
theorem visit_eq_filter (h : t.entries.Distinct) :
    t.visit now retention key =
      ⟨t.entries.filter fun p => p.1 != key || p.2.isKept now retention⟩ := by
  have hentry : ∀ p ∈ t.entries, p.1 = key → t.get? key = some p.2 := fun p hp hk =>
    hk ▸ Fields.get?_of_mem h hp
  rw [visit]
  split
  · next hstale =>
    rw [drop, Fields.remove]
    congr 1
    refine List.filter_congr fun p hp => ?_
    by_cases hk : p.1 = key
    · rw [hentry p hp hk, Option.any_some, Bool.not_eq_true'] at hstale
      simp [hk, hstale]
    · simp [hk]
  · next hkept =>
    rw [List.filter_eq_self.2 fun p hp => ?_]
    by_cases hk : p.1 = key
    · rw [hentry p hp hk, Option.any_some, Bool.not_eq_true', Bool.not_eq_false] at hkept
      simp [hkept]
    · simp [hk]

variable {t} in
/-- **A purge is a visit to every key**, in any order. -/
theorem foldl_visit (h : t.entries.Distinct) {keys : List String}
    (hkeys : ∀ k ∈ t.entries.names, k ∈ keys) :
    keys.foldl (fun t k => t.visit now retention k) t = t.purge now retention := by
  have hfold : ∀ (keys : List String) (t : Table ρ), t.entries.Distinct →
      keys.foldl (fun t k => t.visit now retention k) t =
        ⟨t.entries.filter fun p => !keys.contains p.1 || p.2.isKept now retention⟩ := by
    intro keys
    induction keys with
    | nil => exact fun t _ => congrArg Table.mk (List.filter_eq_self.2 (by simp)).symm
    | cons k rest ih =>
      intro t ht
      rw [List.foldl_cons, visit_eq_filter now retention k ht, ih _ (ht.filter _),
        List.filter_filter]
      congr 1
      refine List.filter_congr fun p _ => ?_
      by_cases hk : p.1 = k
      · cases p.2.isKept now retention <;> simp [hk]
      · simp [hk]
  rw [hfold keys t h, purge]
  congr 1
  refine List.filter_congr fun p hp => ?_
  have : p.1 ∈ keys := hkeys p.1 (List.mem_map_of_mem hp)
  simp [this]

/-- **A clearing drops every key**, in any order. -/
theorem foldl_drop {keys : List String} (hkeys : ∀ k ∈ t.entries.names, k ∈ keys) :
    keys.foldl drop t = t.clear := by
  have hfold : ∀ (keys : List String) (t : Table ρ),
      keys.foldl drop t = ⟨t.entries.filter fun p => !keys.contains p.1⟩ := by
    intro keys
    induction keys with
    | nil => exact fun t => congrArg Table.mk (List.filter_eq_self.2 (by simp)).symm
    | cons k rest ih =>
      intro t
      rw [List.foldl_cons, ih, drop, Fields.remove, List.filter_filter]
      congr 1
      refine List.filter_congr fun p _ => ?_
      by_cases hk : p.1 = k <;> simp [hk]
  rw [hfold keys t, clear, List.filter_eq_nil_iff.2]
  intro p hp
  simpa using hkeys p.1 (List.mem_map_of_mem hp)

end Table
end Scenario.Correlation
