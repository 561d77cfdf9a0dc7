import Mathlib.Tactic.Common
import Scenario.Proofs.Failure.InOrder
import Scenario.Text.Base64

/-!
# What is read as Base64

A reader of Base64 can be generous in many ways: it may overlook padding that is missing or too
much, bits of the last symbol that belong to no byte, or characters in between.  Each of these gives
some bytes more than one spelling.  The reader here is generous in none of them, which its code does
not show at a glance: the groups before the last one are read without a look at padding at all, and
the checks on the last group come in an order that is made for the messages.

## What is here

* `Rests` says which values make up a last group, and `decodeLast_eq_ok_iff` that no other last
  group is read.
* `decode_eq_ok_iff` — **reading and writing are inverse**: what is read is what is written for the
  bytes that were read.
* `Spells` is what the standard says about bytes and their text, with neither a reader nor a writer:
  the bits of the bytes in groups of six, as symbols of an alphabet.  `spells_iff` — it leaves just
  one text for each list of bytes, and this is the one that is written.
-/

set_option autoImplicit false

namespace Scenario.Text.Base64

/-! ## Symbols -/

/-- A symbol has the value that it stands for, and no other byte has one. -/
theorem valueOf?_eq_some_iff {b v : Nat} : valueOf? b = some v ↔ v < 64 ∧ symbolOf v = b := by
  unfold valueOf? symbolOf
  split_ifs <;> simp <;> omega

theorem symbolOf_ne_pad (v : Nat) : symbolOf v ≠ pad := by
  unfold symbolOf pad
  split_ifs <;> omega

theorem symbolOf_lt (v : Nat) : symbolOf v < 0x80 := by
  unfold symbolOf
  split_ifs <;> omega

/-- What is written is ASCII. -/
theorem lt_of_mem_encode (bytes : List Nat) : ∀ b ∈ encode bytes, b < 0x80 := by
  fun_induction encode bytes with
  | case1 => nofun
  | case2 | case3 => simp [symbolOf_lt, pad]
  | case4 a b c rest ih =>
    simp only [List.forall_mem_cons]
    exact ⟨symbolOf_lt _, symbolOf_lt _, symbolOf_lt _, symbolOf_lt _, ih⟩

/-- A run of symbols is read as its values. -/
theorem values_eq_ok_iff {offset : Nat} {text vs : List Nat} :
    values offset text = .ok vs ↔ (∀ v ∈ vs, v < 64) ∧ text = vs.map symbolOf := by
  induction text generalizing offset vs with
  | nil =>
    constructor
    · intro h
      cases h
      simp
    · rintro ⟨-, h⟩
      rw [List.map_eq_nil_iff.1 h.symm]
      rfl
  | cons b rest ih =>
    rw [values]
    constructor
    · intro h
      split at h
      · cases h
      · next v hv =>
        obtain ⟨vs, hvs, rfl⟩ := exists_of_map_eq_ok h
        obtain ⟨hlt, rfl⟩ := valueOf?_eq_some_iff.1 hv
        obtain ⟨hall, rfl⟩ := ih.1 hvs
        exact ⟨List.forall_mem_cons.2 ⟨hlt, hall⟩, rfl⟩
    · rintro ⟨hall, hmap⟩
      cases vs with
      | nil => cases hmap
      | cons v vs =>
        obtain ⟨hlt, hall⟩ := List.forall_mem_cons.1 hall
        obtain ⟨rfl, rfl⟩ := List.cons.inj hmap
        rw [valueOf?_eq_some_iff.2 ⟨hlt, rfl⟩, ih.2 ⟨hall, rfl⟩]
        rfl

/-! ## Full groups -/

/-- Full groups are written on their own. -/
theorem encode_append {front : List Nat} (h : 3 ∣ front.length) (bytes : List Nat) :
    encode (front ++ bytes) = encode front ++ encode bytes := by
  fun_induction encode front with
  | case1 => rfl
  | case2 a => simp at h
  | case3 a b => simp at h
  | case4 a b c rest ih =>
    have hrest : 3 ∣ rest.length := by simpa [Nat.dvd_add_left] using h
    simp only [List.cons_append, encode, ih hrest]

/-- The bytes of full groups are written as these groups. -/
theorem encode_join {vs : List Nat} (h : 4 ∣ vs.length) (hall : ∀ v ∈ vs, v < 64) :
    encode (join vs) = vs.map symbolOf ∧ 3 ∣ (join vs).length ∧ ∀ b ∈ join vs, b < 256 := by
  fun_induction join vs with
  | case1 u v w x rest ih =>
    have hrest : 4 ∣ rest.length := by simpa [Nat.dvd_add_left] using h
    simp only [List.forall_mem_cons] at hall ⊢
    obtain ⟨hu, hv, hw, hx, hall⟩ := hall
    obtain ⟨hencode, hlen, hbytes⟩ := ih hrest hall
    refine ⟨?_, by simpa [Nat.dvd_add_left] using hlen, by omega, by omega, by omega, hbytes⟩
    have hfirst : (u * 4 + v / 16) / 4 = u := by omega
    have hsecond : (u * 4 + v / 16) % 4 * 16 + (v % 16 * 16 + w / 4) / 16 = v := by omega
    have hthird : (v % 16 * 16 + w / 4) % 16 * 4 + (w % 4 * 64 + x) / 64 = w := by omega
    have hfourth : (w % 4 * 64 + x) % 64 = x := by omega
    rw [encode, hencode, hfirst, hsecond, hthird, hfourth]
    rfl
  | case2 vs hno =>
    match vs with
    | [] => exact ⟨rfl, ⟨0, rfl⟩, nofun⟩
    | [_] | [_, _] | [_, _, _] => simp at h
    | u :: v :: w :: x :: rest => exact absurd rfl (hno u v w x rest)

/-- Full groups of bytes are written as full groups of symbols. -/
theorem exists_join {front : List Nat} (h : 3 ∣ front.length) (hall : ∀ b ∈ front, b < 256) :
    ∃ vs, encode front = vs.map symbolOf ∧ (∀ v ∈ vs, v < 64) ∧ join vs = front := by
  fun_induction encode front with
  | case1 => exact ⟨[], rfl, by simp, rfl⟩
  | case2 a => simp at h
  | case3 a b => simp at h
  | case4 a b c rest ih =>
    have hrest : 3 ∣ rest.length := by simpa [Nat.dvd_add_left] using h
    simp only [List.forall_mem_cons] at hall
    obtain ⟨ha, hb, hc, hall⟩ := hall
    obtain ⟨vs, hvs, hlt, hjoin⟩ := ih hrest hall
    refine ⟨a / 4 :: (a % 4 * 16 + b / 16) :: (b % 16 * 4 + c / 64) :: c % 64 :: vs, ?_, ?_, ?_⟩
    · rw [hvs]; rfl
    · simp only [List.forall_mem_cons]
      exact ⟨by omega, by omega, by omega, by omega, hlt⟩
    · rw [join, hjoin]
      simp only [List.cons.injEq, and_true]
      omega

/-! ## The last group -/

section Throw

variable {α β ε : Type} {p : Prop} [Decidable p] {e : ε} {x : Except ε β} {b : β}

/-- What is thrown under a condition has no result. -/
theorem ite_throw_eq_ok_iff : (if p then throw e else x) = .ok b ↔ ¬ p ∧ x = .ok b := by
  by_cases h : p
  · rw [if_pos h]
    exact iff_of_false nofun fun hno => hno.1 h
  · rw [if_neg h]
    exact (and_iff_right h).symm

theorem ite_throw_bind_eq_ok_iff {f : α → Except ε β} :
    (if p then throw e >>= f else x) = .ok b ↔ ¬ p ∧ x = .ok b :=
  ite_throw_eq_ok_iff

end Throw

/-- Whether values stand for the one to three bytes of a last group: no bits are left over. -/
inductive Rests : List Nat → List Nat → Prop
  | one {u v : Nat} (hv : v % 16 = 0) : Rests [u, v] [u * 4 + v / 16]
  | two {u v w : Nat} (hw : w % 4 = 0) : Rests [u, v, w] [u * 4 + v / 16, v % 16 * 16 + w / 4]
  | three {u v w x : Nat} :
      Rests [u, v, w, x] [u * 4 + v / 16, v % 16 * 16 + w / 4, w % 4 * 64 + x]

/-- The bytes of a last group are written as this group. -/
theorem Rests.encode_eq {vs last : List Nat} (h : Rests vs last) (hall : ∀ v ∈ vs, v < 64) :
    encode last = vs.map symbolOf ++ List.replicate (4 - vs.length) pad ∧ ∀ b ∈ last, b < 256 := by
  cases h with
  | @one u v hv =>
    simp only [List.forall_mem_cons] at hall ⊢
    have hfirst : (u * 4 + v / 16) / 4 = u := by omega
    have hsecond : (u * 4 + v / 16) % 4 * 16 = v := by omega
    rw [encode, hfirst, hsecond]
    exact ⟨rfl, by omega, nofun⟩
  | @two u v w hw =>
    simp only [List.forall_mem_cons] at hall ⊢
    have hfirst : (u * 4 + v / 16) / 4 = u := by omega
    have hsecond : (u * 4 + v / 16) % 4 * 16 + (v % 16 * 16 + w / 4) / 16 = v := by omega
    have hthird : (v % 16 * 16 + w / 4) % 16 * 4 = w := by omega
    rw [encode, hfirst, hsecond, hthird]
    exact ⟨rfl, by omega, by omega, nofun⟩
  | @three u v w x =>
    have hgroup := @encode_join [u, v, w, x] (Dvd.intro 1 rfl) hall
    exact ⟨hgroup.1, hgroup.2.2⟩

/-- One to three bytes make up a last group. -/
theorem exists_rests {last : List Nat} (hne : last ≠ []) (hlen : last.length ≤ 3)
    (hall : ∀ b ∈ last, b < 256) : ∃ vs, Rests vs last ∧ ∀ v ∈ vs, v < 64 := by
  match last with
  | [a] =>
    simp only [List.forall_mem_cons] at hall
    have ha : a / 4 * 4 + a % 4 * 16 / 16 = a := by omega
    have hrests := Rests.one (u := a / 4) (v := a % 4 * 16) (by omega)
    rw [ha] at hrests
    refine ⟨_, hrests, ?_⟩
    simp only [List.forall_mem_cons]
    exact ⟨by omega, by omega, nofun⟩
  | [a, b] =>
    simp only [List.forall_mem_cons] at hall
    have ha : a / 4 * 4 + (a % 4 * 16 + b / 16) / 16 = a := by omega
    have hb : (a % 4 * 16 + b / 16) % 16 * 16 + b % 16 * 4 / 4 = b := by omega
    have hrests := Rests.two (u := a / 4) (v := a % 4 * 16 + b / 16) (w := b % 16 * 4) (by omega)
    rw [ha, hb] at hrests
    refine ⟨_, hrests, ?_⟩
    simp only [List.forall_mem_cons]
    exact ⟨by omega, by omega, by omega, nofun⟩
  | [a, b, c] =>
    simp only [List.forall_mem_cons] at hall
    have ha : a / 4 * 4 + (a % 4 * 16 + b / 16) / 16 = a := by omega
    have hb : (a % 4 * 16 + b / 16) % 16 * 16 + (b % 16 * 4 + c / 64) / 4 = b := by omega
    have hc : (b % 16 * 4 + c / 64) % 4 * 64 + c % 64 = c := by omega
    have hrests := Rests.three (u := a / 4) (v := a % 4 * 16 + b / 16) (w := b % 16 * 4 + c / 64)
      (x := c % 64)
    rw [ha, hb, hc] at hrests
    refine ⟨_, hrests, ?_⟩
    simp only [List.forall_mem_cons]
    exact ⟨by omega, by omega, by omega, by omega, nofun⟩

theorem takeWhile_symbols (vs : List Nat) (n : Nat) :
    (vs.map symbolOf ++ List.replicate n pad).takeWhile (· != pad) = vs.map symbolOf := by
  have hall : ∀ b ∈ vs.map symbolOf, (b != pad) = true := by simp [symbolOf_ne_pad]
  rw [List.takeWhile_append_of_pos hall]
  cases n <;> simp [List.replicate_succ]

theorem dropWhile_symbols (vs : List Nat) (n : Nat) :
    (vs.map symbolOf ++ List.replicate n pad).dropWhile (· != pad) = List.replicate n pad := by
  have hall : ∀ b ∈ vs.map symbolOf, (b != pad) = true := by simp [symbolOf_ne_pad]
  rw [List.dropWhile_append_of_pos hall]
  cases n <;> simp [List.replicate_succ]

theorem Rests.length_mem {vs last : List Nat} (h : Rests vs last) :
    2 ≤ vs.length ∧ vs.length ≤ 4 := by
  cases h <;> simp

/-- **A last group is read** if it is filled up and no bits are left over. -/
theorem decodeLast_eq_ok_iff {offset : Nat} {group last : List Nat} :
    decodeLast offset group = .ok last ↔ ∃ vs, Rests vs last ∧ (∀ v ∈ vs, v < 64) ∧
      group = vs.map symbolOf ++ List.replicate (4 - vs.length) pad := by
  unfold decodeLast
  constructor
  · intro h
    obtain ⟨vs, hvs, h⟩ := exists_of_bind_eq_ok h
    obtain ⟨hall, hsymbols⟩ := values_eq_ok_iff.1 hvs
    simp only [ite_throw_bind_eq_ok_iff, hsymbols, List.length_map] at h
    obtain ⟨hfilling, htwo, hfour, hlast⟩ := h
    have happend : vs.map symbolOf ++ group.dropWhile (· != pad) = group := by
      rw [← hsymbols, List.takeWhile_append_dropWhile]
    have hlength : vs.length + (group.dropWhile (· != pad)).length = 4 := by
      rw [← List.length_map (f := symbolOf), ← List.length_append, happend, not_not.1 hfour]
    have hpads : group.dropWhile (· != pad) = List.replicate (4 - vs.length) pad := by
      refine List.eq_replicate_iff.2 ⟨by omega, fun b hb => ?_⟩
      have hne : group.dropWhile (· != pad) ≠ [] := List.ne_nil_of_mem hb
      simp only [hne, htwo, List.any_eq_true, bne_iff_ne, not_and, not_exists,
        not_not, ne_eq, not_false_eq_true, true_and, false_or] at hfilling
      exact hfilling b hb
    refine ⟨vs, ?_, hall, by rw [← hpads, happend]⟩
    match vs with
    | [] | [_] => simp at htwo
    | [u, v] =>
      obtain ⟨hv, hlast⟩ := ite_throw_eq_ok_iff.1 hlast
      exact Except.ok.inj hlast ▸ .one (not_not.1 hv)
    | [u, v, w] =>
      obtain ⟨hw, hlast⟩ := ite_throw_eq_ok_iff.1 hlast
      exact Except.ok.inj hlast ▸ .two (not_not.1 hw)
    | [u, v, w, x] => exact Except.ok.inj hlast ▸ .three
    | _ :: _ :: _ :: _ :: _ :: _ => simp at hlength; omega
  · rintro ⟨vs, hrests, hall, rfl⟩
    have hvalues : values offset (vs.map symbolOf) = .ok vs := values_eq_ok_iff.2 ⟨hall, rfl⟩
    obtain ⟨htwo, hfour⟩ := hrests.length_mem
    simp only [takeWhile_symbols, dropWhile_symbols, hvalues]
    change (if _ then _ else _) = _
    simp only [ite_throw_bind_eq_ok_iff]
    refine ⟨?_, by simp; omega, by simp; omega, ?_⟩
    · rintro ⟨-, hshort | hforeign⟩
      · simp at hshort; omega
      · simp at hforeign
    · cases hrests with
      | one hv => exact ite_throw_eq_ok_iff.2 ⟨not_not.2 hv, rfl⟩
      | two hw => exact ite_throw_eq_ok_iff.2 ⟨not_not.2 hw, rfl⟩
      | three => rfl

/-! ## Texts -/

/-- What is read are full groups and a last one. -/
theorem exists_groups_of_decode {text bytes : List Nat} (hne : text ≠ [])
    (h : decode text = .ok bytes) : ∃ vs last,
      values 0 (text.take ((text.length - 1) / 4 * 4)) = .ok vs ∧
      decodeLast ((text.length - 1) / 4 * 4) (text.drop ((text.length - 1) / 4 * 4)) = .ok last ∧
      bytes = join vs ++ last := by
  have hbody : (do
      let vs ← values 0 (text.take ((text.length - 1) / 4 * 4))
      let last ← decodeLast ((text.length - 1) / 4 * 4) (text.drop ((text.length - 1) / 4 * 4))
      pure (join vs ++ last)) = .ok bytes := by
    unfold decode at h
    simp only [if_neg hne] at h
    split at h
    · split at h
      · exact (ite_throw_bind_eq_ok_iff.1 h).2
      · exact h
    · exact h
  obtain ⟨vs, hvs, h⟩ := exists_of_bind_eq_ok hbody
  obtain ⟨last, hlast, h⟩ := exists_of_bind_eq_ok h
  exact ⟨vs, last, hvs, hlast, (Except.ok.inj h).symm⟩

theorem decode_of_groups {text vs last : List Nat} (hne : text ≠ []) (hfour : text.length % 4 = 0)
    (hvs : values 0 (text.take ((text.length - 1) / 4 * 4)) = .ok vs)
    (hlast : decodeLast ((text.length - 1) / 4 * 4) (text.drop ((text.length - 1) / 4 * 4)) =
      .ok last) : decode text = .ok (join vs ++ last) := by
  unfold decode
  simp only [if_neg hne, hfour, hvs, hlast, Nat.zero_ne_one, ↓reduceIte]
  rfl

theorem encode_ne_nil {bytes : List Nat} (h : bytes ≠ []) : encode bytes ≠ [] := by
  fun_cases encode bytes <;> simp_all

theorem length_encode (bytes : List Nat) : (encode bytes).length = (bytes.length + 2) / 3 * 4 := by
  fun_induction encode bytes with
  | case1 | case2 | case3 => simp
  | case4 a b c rest ih => simp only [List.length_cons, ih]; omega

/-- A text that is not empty is cut where its last group begins. -/
theorem exists_last_group {bytes : List Nat} (hne : bytes ≠ []) : ∃ front last,
    bytes = front ++ last ∧ 3 ∣ front.length ∧ last ≠ [] ∧ last.length ≤ 3 := by
  have hpos := List.length_pos_iff.2 hne
  refine ⟨bytes.take ((bytes.length - 1) / 3 * 3), bytes.drop ((bytes.length - 1) / 3 * 3),
    (List.take_append_drop ..).symm, ?_, List.length_pos_iff.1 ?_, ?_⟩
  · rw [List.length_take]
    omega
  · rw [List.length_drop]
    omega
  · rw [List.length_drop]
    omega

theorem decode_encode {bytes : List Nat} (hall : ∀ b ∈ bytes, b < 256) :
    decode (encode bytes) = .ok bytes := by
  obtain rfl | hne := eq_or_ne bytes []
  · rfl
  obtain ⟨front, last, rfl, hfront, hlast, hshort⟩ := exists_last_group hne
  obtain ⟨hallFront, hallLast⟩ := List.forall_mem_append.1 hall
  obtain ⟨vs, hvs, hlt, rfl⟩ := exists_join hfront hallFront
  obtain ⟨ws, hrests, hlt'⟩ := exists_rests hlast hshort hallLast
  have hcut : ((encode (join vs ++ last)).length - 1) / 4 * 4 = (encode (join vs)).length := by
    have := List.length_pos_iff.2 hlast
    simp only [length_encode, List.length_append]
    omega
  refine decode_of_groups (encode_ne_nil hne) ?_ ?_ ?_
  · rw [length_encode, Nat.mul_mod_left]
  · rw [hcut, encode_append hfront, List.take_left, hvs]
    exact values_eq_ok_iff.2 ⟨hlt, rfl⟩
  · rw [hcut, encode_append hfront, List.drop_left]
    exact decodeLast_eq_ok_iff.2 ⟨ws, hrests, hlt', (hrests.encode_eq hlt').1⟩

theorem eq_encode_of_decode {text bytes : List Nat} (h : decode text = .ok bytes) :
    text = encode bytes ∧ ∀ b ∈ bytes, b < 256 := by
  obtain rfl | hne := eq_or_ne text []
  · cases h
    exact ⟨rfl, nofun⟩
  obtain ⟨vs, last, hvs, hlast, rfl⟩ := exists_groups_of_decode hne h
  obtain ⟨hlt, hfront⟩ := values_eq_ok_iff.1 hvs
  obtain ⟨ws, hrests, hlt', hdrop⟩ := decodeLast_eq_ok_iff.1 hlast
  have hfour : 4 ∣ vs.length := by
    rw [← List.length_map (f := symbolOf), ← hfront, List.length_take]
    omega
  obtain ⟨hencode, hthree, hbytes⟩ := encode_join hfour hlt
  obtain ⟨hencode', hbytes'⟩ := hrests.encode_eq hlt'
  refine ⟨?_, List.forall_mem_append.2 ⟨hbytes, hbytes'⟩⟩
  rw [encode_append hthree, hencode, hencode', ← hfront, ← hdrop, List.take_append_drop]

/-- **Reading and writing are inverse** to each other. -/
theorem decode_eq_ok_iff {text bytes : List Nat} :
    decode text = .ok bytes ↔ text = encode bytes ∧ ∀ b ∈ bytes, b < 256 := by
  refine ⟨eq_encode_of_decode, ?_⟩
  rintro ⟨rfl, hall⟩
  exact decode_encode hall

/-! ## What the standard says -/

/-- The last `width` bits of a number, the highest first. -/
def bits : Nat → Nat → List Bool
  | 0, _ => []
  | width + 1, n => bits width (n / 2) ++ [n % 2 == 1]

@[simp] theorem length_bits (width n : Nat) : (bits width n).length = width := by
  induction width generalizing n with
  | zero => rfl
  | succ width ih => simp [bits, ih]

theorem bits_zero (width : Nat) : bits width 0 = List.replicate width false := by
  induction width with
  | zero => rfl
  | succ width ih => rw [bits, Nat.zero_div, ih, List.replicate_succ']; rfl

/-- Bits behind each other are those of a larger number. -/
theorem bits_append (width more x : Nat) {y : Nat} (hy : y < 2 ^ more) :
    bits width x ++ bits more y = bits (width + more) (x * 2 ^ more + y) := by
  induction more generalizing y with
  | zero =>
    obtain rfl : y = 0 := by simpa using hy
    simp [bits]
  | succ more ih =>
    have hhalf : y / 2 < 2 ^ more := by rw [Nat.pow_succ] at hy; omega
    have hshift : x * 2 ^ (more + 1) = x * 2 ^ more * 2 := by rw [Nat.pow_succ, Nat.mul_assoc]
    have hdiv : (x * 2 ^ (more + 1) + y) / 2 = x * 2 ^ more + y / 2 := by omega
    have hmod : (x * 2 ^ (more + 1) + y) % 2 = y % 2 := by omega
    rw [bits, ← List.append_assoc, ih hhalf, ← Nat.add_assoc, bits, hdiv, hmod]

theorem eq_of_bits_eq {width x y : Nat} (hx : x < 2 ^ width) (hy : y < 2 ^ width)
    (h : bits width x = bits width y) : x = y := by
  induction width generalizing x y with
  | zero => rw [Nat.pow_zero] at hx hy; omega
  | succ width ih =>
    obtain ⟨hinit, hlast⟩ := List.append_inj' h rfl
    have hhalf := ih (by omega) (by omega) hinit
    have hodd : (x % 2 = 1) ↔ (y % 2 = 1) := by simpa using hlast
    omega

/-- The symbols in the order of their values. -/
def alphabet : List Char :=
  "ABCDEFGHIJKLMNOPQRSTUVWXYZabcdefghijklmnopqrstuvwxyz0123456789+/".toList

/-- The symbol of a value. -/
def symbol (v : Nat) : Char := alphabet.getD v '='

theorem symbol_eq : ∀ v < 64, symbol v = Char.ofNat (symbolOf v) := by decide

/-- What the standard says about bytes and their text: the bits of the bytes, filled up with zeros,
are those of the symbols, and padding fills up the last four symbols. -/
def Spells (bytes : List Nat) (text : List Char) : Prop :=
  ∃ (vs : List Nat) (fill padding : Nat),
    text = vs.map symbol ++ List.replicate padding '=' ∧ (∀ v ∈ vs, v < 64) ∧
    vs.flatMap (bits 6) = bytes.flatMap (bits 8) ++ List.replicate fill false ∧ fill < 6 ∧
    4 ∣ text.length ∧ padding < 4

/-- Groups of bits are read off the bits of all. -/
theorem eq_of_flatMap_bits_eq {width : Nat} (hwidth : 0 < width) {xs ys : List Nat}
    (hx : ∀ x ∈ xs, x < 2 ^ width) (hy : ∀ y ∈ ys, y < 2 ^ width)
    (h : xs.flatMap (bits width) = ys.flatMap (bits width)) : xs = ys := by
  have hsame : xs.length = ys.length := by
    have hlength : xs.length * width = ys.length * width := by simpa using congrArg List.length h
    exact Nat.eq_of_mul_eq_mul_right hwidth hlength
  induction xs generalizing ys with
  | nil => exact (List.length_eq_zero_iff.1 hsame.symm).symm
  | cons x xs ih =>
    cases ys with
    | nil => cases hsame
    | cons y ys =>
      obtain ⟨hfirst, hrest⟩ := List.append_inj h (by simp)
      obtain ⟨hx, hxs⟩ := List.forall_mem_cons.1 hx
      obtain ⟨hy, hys⟩ := List.forall_mem_cons.1 hy
      rw [eq_of_bits_eq hx hy hfirst, ih hxs hys hrest (Nat.succ.inj hsame)]

/-- The standard leaves no choice. -/
theorem Spells.unique {bytes : List Nat} {text text' : List Char} (h : Spells bytes text)
    (h' : Spells bytes text') : text = text' := by
  obtain ⟨vs, fill, padding, rfl, hlt, hbits, hfill, hfour, hpadding⟩ := h
  obtain ⟨vs', fill', padding', rfl, hlt', hbits', hfill', hfour', hpadding'⟩ := h'
  have hlength := congrArg List.length hbits
  have hlength' := congrArg List.length hbits'
  simp only [List.length_flatMap, length_bits, List.map_const', List.sum_replicate_nat,
    List.length_append, List.length_replicate] at hlength hlength'
  obtain rfl : fill = fill' := by omega
  obtain rfl : vs = vs' := eq_of_flatMap_bits_eq (by decide) hlt hlt' (hbits.trans hbits'.symm)
  simp only [List.length_append, List.length_map, List.length_replicate] at hfour hfour'
  obtain rfl : padding = padding' := by omega
  rfl

theorem bits_group_one (a : Nat) :
    bits 6 (a / 4) ++ bits 6 (a % 4 * 16) = bits 8 a ++ List.replicate 4 false := by
  rw [← bits_zero, bits_append _ _ _ (by omega), bits_append _ _ _ (by omega)]
  exact congrArg (bits 12) (by omega)

theorem bits_group_two (a : Nat) {b : Nat} (hb : b < 256) :
    bits 6 (a / 4) ++ (bits 6 (a % 4 * 16 + b / 16) ++ bits 6 (b % 16 * 4)) =
      bits 8 a ++ (bits 8 b ++ List.replicate 2 false) := by
  rw [← bits_zero]
  iterate 4 rw [bits_append _ _ _ (by omega)]
  exact congrArg (bits 18) (by omega)

theorem bits_group_three (a : Nat) {b c : Nat} (hb : b < 256) (hc : c < 256) :
    bits 6 (a / 4) ++ (bits 6 (a % 4 * 16 + b / 16) ++
        (bits 6 (b % 16 * 4 + c / 64) ++ bits 6 (c % 64))) =
      bits 8 a ++ (bits 8 b ++ bits 8 c) := by
  iterate 5 rw [bits_append _ _ _ (by omega)]
  exact congrArg (bits 24) (by omega)

theorem map_symbolOf_ofNat {vs : List Nat} (hlt : ∀ v ∈ vs, v < 64) :
    (vs.map symbolOf).map Char.ofNat = vs.map symbol := by
  rw [List.map_map]
  exact List.map_congr_left fun v hv => (symbol_eq v (hlt v hv)).symm

/-- What is written keeps to the standard. -/
theorem spells_encode {bytes : List Nat} (hall : ∀ b ∈ bytes, b < 256) :
    Spells bytes ((encode bytes).map Char.ofNat) := by
  fun_induction encode bytes with
  | case1 => exact ⟨[], 0, 0, rfl, nofun, rfl, by decide, by decide, by decide⟩
  | case2 a =>
    simp only [List.forall_mem_cons] at hall
    have hlt : ∀ v ∈ [a / 4, a % 4 * 16], v < 64 := by
      simp only [List.forall_mem_cons]
      exact ⟨by omega, by omega, nofun⟩
    refine ⟨_, 4, 2, ?_, hlt, ?_, by decide, ⟨1, rfl⟩, by decide⟩
    · rw [← map_symbolOf_ofNat hlt]
      rfl
    · simpa using bits_group_one a
  | case3 a b =>
    simp only [List.forall_mem_cons] at hall
    have hlt : ∀ v ∈ [a / 4, a % 4 * 16 + b / 16, b % 16 * 4], v < 64 := by
      simp only [List.forall_mem_cons]
      exact ⟨by omega, by omega, by omega, nofun⟩
    refine ⟨_, 2, 1, ?_, hlt, ?_, by decide, ⟨1, rfl⟩, by decide⟩
    · rw [← map_symbolOf_ofNat hlt]
      rfl
    · simpa using bits_group_two a hall.2.1
  | case4 a b c rest ih =>
    simp only [List.forall_mem_cons] at hall
    obtain ⟨ha, hb, hc, hall⟩ := hall
    obtain ⟨vs, fill, padding, htext, hlt, hbits, hfill, hfour, hpadding⟩ := ih hall
    have hlt' : ∀ v ∈ [a / 4, a % 4 * 16 + b / 16, b % 16 * 4 + c / 64, c % 64], v < 64 := by
      simp only [List.forall_mem_cons]
      exact ⟨by omega, by omega, by omega, by omega, nofun⟩
    refine ⟨_ ++ vs, fill, padding, ?_, List.forall_mem_append.2 ⟨hlt', hlt⟩, ?_, hfill, ?_,
      hpadding⟩
    · rw [List.map_append, ← map_symbolOf_ofNat hlt', List.append_assoc, ← htext]
      rfl
    · have hgroup : [a / 4, a % 4 * 16 + b / 16, b % 16 * 4 + c / 64, c % 64].flatMap (bits 6) =
          [a, b, c].flatMap (bits 8) := by simpa using bits_group_three a hb hc
      rw [List.flatMap_append, hgroup, hbits, ← List.append_assoc, ← List.flatMap_append]
      rfl
    · simpa [Nat.dvd_add_left] using hfour

/-- **What is written is what the standard prescribes.** -/
theorem spells_iff {bytes : List Nat} {text : List Char} (hall : ∀ b ∈ bytes, b < 256) :
    Spells bytes text ↔ text = (encode bytes).map Char.ofNat := by
  refine ⟨fun h => h.unique (spells_encode hall), ?_⟩
  rintro rfl
  exact spells_encode hall

end Scenario.Text.Base64
