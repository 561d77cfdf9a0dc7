import Mathlib.Tactic.Common
import Scenario.Proofs.Failure.InOrder
import Scenario.Text.Utf8

/-!
# Bytes and texts

Reading UTF-8 is not a table turned round.  The reader decides from the first byte how many belong
to the character and then judges each of the others, and some of its checks have nothing to do with
the number of bytes: the second byte alone tells whether a longer sequence than needed was used and
whether the code point is a surrogate or beyond the last one.  What passes all these checks is just
what the writer produces, so no two sequences of bytes are read as the same text.

## What is here

* `Sequence` lists the sequences of bytes that stand for a code point.  The writer produces one of
  them for each character (`sequence_encodeChar`) and the reader accepts no others
  (`exists_of_step_eq_char`).
* `decode_eq_ok_iff` — bytes are read as a text just if they are written for it.
* `encode_toList` — what is written are the bytes that make up a string.
-/

set_option autoImplicit false

namespace Scenario.Text.Utf8

/-! ## Code points -/

/-- No character is a surrogate or beyond the last code point. -/
theorem toNat_bounds (c : Char) :
    c.toNat < 0xD800 ∨ 0xE000 ≤ c.toNat ∧ c.toNat < 0x110000 := by
  have h : c.toNat < 0xD800 ∨ 0xDFFF < c.toNat ∧ c.toNat < 0x110000 := c.valid
  omega

theorem toNat_ofNat {n : Nat} (h : n < 0xD800 ∨ 0xE000 ≤ n ∧ n < 0x110000) :
    (Char.ofNat n).toNat = n := by
  have hvalid : n.isValidChar := by unfold Nat.isValidChar; omega
  simp only [Char.ofNat, hvalid, ↓reduceDIte]
  rfl

theorem isTail_iff {b : Nat} : isTail b = true ↔ 0x80 ≤ b ∧ b < 0xC0 := by simp [isTail]

/-- In three bytes the second one rules out shorter forms and surrogates. -/
theorem secondFits_three_iff {a b : Nat} (ha : 0xE0 ≤ a) (ha' : a < 0xF0) :
    secondFits a b = true ↔ (0x80 ≤ b ∧ b < 0xC0) ∧
      0x800 ≤ (a - 0xE0) * 4096 + (b - 0x80) * 64 ∧
      ¬ (0xD800 ≤ (a - 0xE0) * 4096 + (b - 0x80) * 64 ∧
        (a - 0xE0) * 4096 + (b - 0x80) * 64 < 0xE000) := by
  unfold secondFits isTail
  split_ifs <;> simp only [Bool.and_eq_true, decide_eq_true_eq] <;> omega

/-- In four bytes the second one rules out shorter forms and what is beyond the last code point. -/
theorem secondFits_four_iff {a b : Nat} (ha : 0xF0 ≤ a) (ha' : a < 0xF5) :
    secondFits a b = true ↔ (0x80 ≤ b ∧ b < 0xC0) ∧
      0x10000 ≤ (a - 0xF0) * 262144 + (b - 0x80) * 4096 ∧
      (a - 0xF0) * 262144 + (b - 0x80) * 4096 < 0x110000 := by
  unfold secondFits isTail
  split_ifs <;> simp only [Bool.and_eq_true, decide_eq_true_eq] <;> omega

/-! ## Sequences for a code point -/

/-- The sequences of bytes that stand for a code point. -/
inductive Sequence : List Nat → Nat → Prop
  | one {a n : Nat} (ha : a < 0x80) (hn : n = a) : Sequence [a] n
  | two {a b n : Nat} (ha : 0xC2 ≤ a) (ha' : a < 0xE0) (hb : isTail b)
      (hn : n = (a - 0xC0) * 64 + (b - 0x80)) : Sequence [a, b] n
  | three {a b c n : Nat} (ha : 0xE0 ≤ a) (ha' : a < 0xF0) (hb : secondFits a b) (hc : isTail c)
      (hn : n = (a - 0xE0) * 4096 + (b - 0x80) * 64 + (c - 0x80)) : Sequence [a, b, c] n
  | four {a b c d n : Nat} (ha : 0xF0 ≤ a) (ha' : a < 0xF5) (hb : secondFits a b) (hc : isTail c)
      (hd : isTail d)
      (hn : n = (a - 0xF0) * 262144 + (b - 0x80) * 4096 + (c - 0x80) * 64 + (d - 0x80)) :
      Sequence [a, b, c, d] n

variable {bytes : List Nat} {n : Nat}

/-- Each of them is what is written for the character. -/
theorem Sequence.encodeChar_ofNat (h : Sequence bytes n) : encodeChar (Char.ofNat n) = bytes := by
  cases h with
  | one ha hn =>
    rw [encodeChar, toNat_ofNat (by omega), if_pos (by omega), hn]
  | two ha ha' hb hn =>
    rw [isTail_iff] at hb
    rw [encodeChar, toNat_ofNat (by omega), if_neg (by omega), if_pos (by omega)]
    simp only [List.cons.injEq, and_true]
    omega
  | three ha ha' hb hc hn =>
    rw [isTail_iff] at hc
    rw [secondFits_three_iff ha ha'] at hb
    rw [encodeChar, toNat_ofNat (by omega), if_neg (by omega), if_neg (by omega), if_pos (by omega)]
    simp only [List.cons.injEq, and_true]
    omega
  | four ha ha' hb hc hd hn =>
    rw [isTail_iff] at hc hd
    rw [secondFits_four_iff ha ha'] at hb
    rw [encodeChar, toNat_ofNat (by omega), if_neg (by omega), if_neg (by omega), if_neg (by omega)]
    simp only [List.cons.injEq, and_true]
    omega

/-- What is written for a character is one of them. -/
theorem sequence_encodeChar (c : Char) : Sequence (encodeChar c) c.toNat := by
  have hbounds := toNat_bounds c
  unfold encodeChar
  generalize c.toNat = n at hbounds
  dsimp only
  split_ifs
  · exact .one ‹_› rfl
  · exact .two (by omega) (by omega) (isTail_iff.2 (by omega)) (by omega)
  · refine .three (by omega) (by omega) ?_ (isTail_iff.2 (by omega)) (by omega)
    exact (secondFits_three_iff (by omega) (by omega)).2 (by omega)
  · refine .four (by omega) (by omega) ?_ (isTail_iff.2 (by omega)) (isTail_iff.2 (by omega))
      (by omega)
    exact (secondFits_four_iff (by omega) (by omega)).2 (by omega)

/-- A character is only read from one of them. -/
theorem exists_of_step_eq_char {a size : Nat} {rest : List Nat} {c : Char}
    (h : step a rest = .char c size) : ∃ bytes n more, Sequence bytes n ∧ Char.ofNat n = c ∧
      bytes.length = size ∧ a :: rest = bytes ++ more := by
  unfold step at h
  split_ifs at h with ha
  · obtain ⟨hcode, hsize⟩ := Step.char.inj h
    exact ⟨[a], _, rest, .one ha rfl, hcode, hsize, rfl⟩
  all_goals
    obtain _ | ⟨b, more⟩ := rest
    · cases h
    dsimp only at h
    split_ifs at h with hb
  · obtain ⟨hcode, hsize⟩ := Step.char.inj h
    exact ⟨[a, b], _, more, .two (by omega) (by omega) hb rfl, hcode, hsize, rfl⟩
  all_goals
    obtain _ | ⟨c, more⟩ := more
    · cases h
    dsimp only at h
    split_ifs at h with hc
  · obtain ⟨hcode, hsize⟩ := Step.char.inj h
    exact ⟨[a, b, c], _, more, .three (by omega) (by omega) hb hc rfl, hcode, hsize, rfl⟩
  obtain _ | ⟨d, more⟩ := more
  · cases h
  dsimp only at h
  split_ifs at h with hd
  obtain ⟨hcode, hsize⟩ := Step.char.inj h
  exact ⟨[a, b, c, d], _, more, .four (by omega) (by omega) hb hc hd rfl, hcode, hsize, rfl⟩

/-- Each of them is read as the character, whatever follows. -/
theorem Sequence.step_eq {a : Nat} {rest more : List Nat} (h : Sequence bytes n)
    (hrest : a :: rest = bytes ++ more) : step a rest = .char (Char.ofNat n) bytes.length := by
  cases h with
  | one ha hn =>
    obtain ⟨rfl, rfl⟩ := List.cons.inj hrest
    rw [hn]
    exact if_pos ha
  | @two _ b _ ha ha' hb hn =>
    obtain ⟨rfl, rfl⟩ := List.cons.inj hrest
    change step a (b :: more) = _
    unfold step
    rw [if_neg (by omega), if_neg (by omega), if_pos (by omega), hn]
    exact if_pos hb
  | @three _ b c _ ha ha' hb hc hn =>
    obtain ⟨rfl, rfl⟩ := List.cons.inj hrest
    change step a (b :: c :: more) = _
    unfold step
    rw [if_neg (by omega), if_neg (by omega), if_neg (by omega), if_pos (by omega), hn]
    exact (if_pos hb).trans (if_pos hc)
  | @four _ b c d _ ha ha' hb hc hd hn =>
    obtain ⟨rfl, rfl⟩ := List.cons.inj hrest
    change step a (b :: c :: d :: more) = _
    unfold step
    rw [if_neg (by omega), if_neg (by omega), if_neg (by omega), if_neg (by omega),
      if_pos (by omega), hn]
    exact (if_pos hb).trans ((if_pos hc).trans (if_pos hd))

/-- **The next character** is the one whose bytes come next. -/
theorem step_eq_char_iff {a size : Nat} {rest : List Nat} {c : Char} :
    step a rest = .char c size ↔
      (encodeChar c).length = size ∧ encodeChar c <+: a :: rest := by
  constructor
  · intro h
    obtain ⟨bytes, n, more, hbytes, rfl, rfl, hrest⟩ := exists_of_step_eq_char h
    rw [hbytes.encodeChar_ofNat]
    exact ⟨rfl, more, hrest.symm⟩
  · rintro ⟨rfl, more, hrest⟩
    rw [(sequence_encodeChar c).step_eq hrest.symm, Char.ofNat_toNat]

/-! ## Texts -/

theorem encodeChar_ne_nil (c : Char) : encodeChar c ≠ [] := by
  intro h
  have hbytes := sequence_encodeChar c
  rw [h] at hbytes
  cases hbytes

theorem decodeFrom_skip (index skip : Nat) (bytes : List Nat) :
    decodeFrom index skip bytes = decodeFrom index 0 (bytes.drop skip) := by
  induction skip generalizing bytes with
  | zero => rfl
  | succ skip ih =>
    cases bytes with
    | nil => rfl
    | cons a rest => exact ih rest

/-- A character is read where it is written. -/
theorem decodeFrom_encodeChar (index : Nat) (c : Char) (rest : List Nat) :
    decodeFrom index 0 (encodeChar c ++ rest) =
      (decodeFrom (index + (encodeChar c).length) 0 rest).map (c :: ·) := by
  cases hbytes : encodeChar c with
  | nil => exact absurd hbytes (encodeChar_ne_nil c)
  | cons a tail =>
    have hstep : step a (tail ++ rest) = .char c (a :: tail).length :=
      step_eq_char_iff.2 (by rw [hbytes]; exact ⟨rfl, rest, rfl⟩)
    rw [List.cons_append, decodeFrom, hstep]
    dsimp only
    rw [decodeFrom_skip, List.length_cons, Nat.add_sub_cancel, List.drop_left]

theorem encode_cons (c : Char) (cs : List Char) :
    encode (c :: cs) = encodeChar c ++ encode cs := rfl

/-- What is read is what the bytes are written from. -/
theorem eq_encode_of_decodeFrom {index : Nat} {bytes : List Nat} {cs : List Char}
    (h : decodeFrom index 0 bytes = .ok cs) : bytes = encode cs := by
  induction cs generalizing index bytes with
  | nil =>
    cases bytes with
    | nil => rfl
    | cons a rest =>
      rw [decodeFrom] at h
      split at h
      · obtain ⟨ds, -, hds⟩ := exists_of_map_eq_ok h
        cases hds
      · cases h
      · cases h
  | cons c cs ih =>
    cases bytes with
    | nil => cases h
    | cons a rest =>
      cases hstep : step a rest with
      | invalid length =>
        rw [decodeFrom, hstep] at h
        cases h
      | incomplete =>
        rw [decodeFrom, hstep] at h
        cases h
      | char d size =>
        obtain ⟨-, more, hmore⟩ := step_eq_char_iff.1 hstep
        rw [← hmore, decodeFrom_encodeChar] at h
        obtain ⟨ds, hds, hcons⟩ := exists_of_map_eq_ok h
        obtain ⟨rfl, rfl⟩ := List.cons.inj hcons
        rw [← hmore, encode_cons, ih hds]

/-- **Bytes are read as a text** just if they are what is written for it. -/
theorem decode_eq_ok_iff {bytes : List Nat} {cs : List Char} :
    decode bytes = .ok cs ↔ bytes = encode cs := by
  refine ⟨eq_encode_of_decodeFrom, ?_⟩
  rintro rfl
  suffices h : ∀ index, decodeFrom index 0 (encode cs) = .ok cs from h 0
  induction cs with
  | nil => exact fun index => rfl
  | cons c cs ih =>
    intro index
    rw [encode_cons, decodeFrom_encodeChar, ih]
    rfl

theorem encode_injective {cs ds : List Char} (h : encode cs = encode ds) : cs = ds :=
  Except.ok.inj ((decode_eq_ok_iff.2 rfl).symm.trans (decode_eq_ok_iff.2 h))

theorem encode_map_ofNat {bytes : List Nat} (h : ∀ b ∈ bytes, b < 0x80) :
    encode (bytes.map Char.ofNat) = bytes := by
  induction bytes with
  | nil => rfl
  | cons b bytes ih =>
    obtain ⟨hb, hbytes⟩ := List.forall_mem_cons.1 h
    rw [List.map_cons, encode_cons, ih hbytes, (Sequence.one hb rfl).encodeChar_ofNat]
    rfl

/-! ## Strings -/

theorem encodeChar_eq (c : Char) : encodeChar c = (String.utf8EncodeChar c).map UInt8.toNat := by
  have hbounds := toNat_bounds c
  unfold encodeChar String.utf8EncodeChar
  simp only [show c.val.toNat = c.toNat from rfl]
  generalize c.toNat = n at hbounds
  split_ifs <;> simp <;> omega

/-- The bytes of a string. -/
def ofString (s : String) : List Nat := s.toUTF8.data.toList.map UInt8.toNat

/-- **What is written for a string are its bytes.** -/
theorem encode_toList (s : String) : encode s.toList = ofString s := by
  have hbytes : s.toUTF8.data.toList = s.toList.flatMap String.utf8EncodeChar := by
    rw [String.toUTF8_eq_toByteArray, ← String.ofList_toList (s := s), String.toByteArray_ofList,
      String.toList_ofList, List.utf8Encode, List.toList_data_toByteArray]
  rw [ofString, hbytes, List.map_flatMap, encode]
  exact List.flatMap_congr fun c _ => encodeChar_eq c

theorem lt_of_mem_ofString {s : String} {b : Nat} (h : b ∈ ofString s) : b < 256 := by
  obtain ⟨u, -, rfl⟩ := List.mem_map.1 h
  exact u.toNat_lt

end Scenario.Text.Utf8
