import Scenario.Proofs.Json.Fields
import Scenario.Proofs.Json.Text
import Scenario.Proofs.Resolve.Arguments
import Scenario.Proofs.Text.Base64
import Scenario.Proofs.Text.Utf8
import Scenario.Proofs.Text.Whole
import Scenario.Resolve.Functions

/-!
# Functions that fit together

The functions on text come with little said about them, and what one may expect is mostly that they
fit together: what was encoded can be decoded, and what was cut can be put together again.  Both are
easily said and hide the same difficulty, since the arguments are any texts.  A decoder must do
something with texts that nothing encodes to, and an index may be no number at all, have blanks and
signs around it, or lie outside the text.  Lengths and indexes count characters and not bytes.

## What is here

* `Library.evaluate_builtin_pure` — the variables of the caller have no part in what these functions
  give.
* `decodeBase64_inverts_encodeBase64` — decoding succeeds with a text just on its code, which is the
  one that the standard prescribes, and fails on everything else.
* `Function.Cut` says which part of a text some arguments are about, and `substring_eq_ok_iff` that
  a part is cut out just if it lies in the text.
* `substring_cuts` — the laws of parts and lengths.
-/

set_option autoImplicit false

namespace Scenario

open Text

namespace Library

/-- **Functions that are always there are pure**: what they give depends on their arguments
alone. -/
theorem evaluate_builtin_pure (store store' : Store) (name : String) (args : List String) :
    builtin.evaluate store name args = builtin.evaluate store' name args := by
  have hpure : ∀ p ∈ builtin.functions, p.2 store = p.2 store' := by
    simp [builtin, Function.ofTexts]
  rw [evaluate, evaluate]
  cases hf : builtin.functions.lookup name with
  | none => rfl
  | some f =>
    have hf : f store = f store' := hpure (name, f) (Fields.mem_of_get? hf)
    simp only [hf]

variable {name : String} {f : TextFunction} {store : Store} {args : List String}

/-- A function of the library gives its result. -/
theorem evaluate_builtin_eq_ok_iff {r : String}
    (hf : builtin.functions.lookup name = some (.ofTexts f)) :
    builtin.evaluate store name args = .ok r ↔ f args = .ok r := by
  simp only [evaluate, hf, Function.ofTexts]
  cases f args <;> simp [Except.mapError]

/-- A function of the library fails for a reason that it gives. -/
theorem evaluate_builtin_eq_error_iff {e : Failure}
    (hf : builtin.functions.lookup name = some (.ofTexts f)) :
    builtin.evaluate store name args = .error e ↔
      ∃ reason, f args = .error reason ∧ e = .function name reason := by
  simp only [evaluate, hf, Function.ofTexts]
  cases f args <;> simp [Except.mapError, eq_comm]

theorem lookup_encodeBase64 :
    builtin.functions.lookup "encodeBase64" = some (.ofTexts Function.encodeBase64) := rfl

theorem lookup_decodeBase64 :
    builtin.functions.lookup "decodeBase64" = some (.ofTexts Function.decodeBase64) := rfl

theorem lookup_substring :
    builtin.functions.lookup "substring" = some (.ofTexts Function.substring) := rfl

theorem lookup_concat :
    builtin.functions.lookup "concat" = some (.ofTexts Function.concat) := rfl

theorem lookup_stringLength :
    builtin.functions.lookup "stringLength" = some (.ofTexts Function.stringLength) := rfl

end Library

open Library

/-! ## Base64 -/

namespace Function

/-- **Text is written in Base64 as the standard says.** -/
theorem encodeBase64_eq_ok_iff {s t : String} :
    encodeBase64 [s] = .ok t ↔ Base64.Spells (Utf8.ofString s) t.toList := by
  rw [Base64.spells_iff fun b => Utf8.lt_of_mem_ofString, ← Utf8.encode_toList]
  change Except.ok (String.ofList _) = .ok t ↔ _
  rw [Except.ok.injEq]
  constructor
  · rintro rfl
    exact String.toList_ofList
  · intro h
    rw [← h, String.ofList_toList]

/-- Reading Base64 is reading bytes and then their text. -/
theorem decodeBase64_eq_ok_iff_decode {s t : String} : decodeBase64 [t] = .ok s ↔
    Base64.decode (Utf8.encode t.toList) = .ok (Utf8.encode s.toList) := by
  rw [decodeBase64, single]
  cases Base64.decode (Utf8.encode t.toList) with
  | error fault => exact iff_of_false (fun h => by cases h) (fun h => by cases h)
  | ok bytes =>
    rw [Except.ok.injEq, ← Utf8.decode_eq_ok_iff]
    dsimp only
    cases Utf8.decode bytes with
    | error flaw => exact iff_of_false (fun h => by cases h) (fun h => by cases h)
    | ok cs =>
      change Except.ok (String.ofList cs) = .ok s ↔ _
      rw [Except.ok.injEq, Except.ok.injEq, ← String.toList_inj, String.toList_ofList]

/-- **A text is read from Base64 just if it spells the result** as the standard says. -/
theorem decodeBase64_eq_ok_iff {s t : String} :
    decodeBase64 [t] = .ok s ↔ Base64.Spells (Utf8.ofString s) t.toList := by
  have hall : ∀ b ∈ Utf8.encode s.toList, b < 256 :=
    Utf8.encode_toList s ▸ fun b => Utf8.lt_of_mem_ofString
  have hascii := Utf8.encode_map_ofNat (Base64.lt_of_mem_encode (Utf8.encode s.toList))
  rw [decodeBase64_eq_ok_iff_decode, Base64.decode_eq_ok_iff, and_iff_left hall,
    ← Utf8.encode_toList, Base64.spells_iff hall]
  refine ⟨fun h => Utf8.encode_injective (h.trans hascii.symm), fun h => ?_⟩
  rw [h, hascii]

end Function

/-- **Base64 is read as it is written.**  Every text has a code, which is the one that the standard
prescribes for its bytes; a text is decoded just if it is such a code, and fails otherwise. -/
theorem decodeBase64_inverts_encodeBase64 (store : Store) (s t : String) :
    (Library.builtin.evaluate store "decodeBase64" [t] = .ok s ↔
      Library.builtin.evaluate store "encodeBase64" [s] = .ok t) ∧
    (Library.builtin.evaluate store "encodeBase64" [s] = .ok t ↔
      Base64.Spells (Utf8.ofString s) t.toList) ∧
    (∃ code, Library.builtin.evaluate store "encodeBase64" [s] = .ok code) ∧
    ((∃ reason, Library.builtin.evaluate store "decodeBase64" [t] =
        .error (.function "decodeBase64" reason)) ↔
      ∀ result : String, ¬ Base64.Spells (Utf8.ofString result) t.toList) := by
  have hencode {s t} := @evaluate_builtin_eq_ok_iff _ _ store [s] t lookup_encodeBase64
  have hdecode {s t} := @evaluate_builtin_eq_ok_iff _ _ store [t] s lookup_decodeBase64
  simp only [hencode, hdecode, evaluate_builtin_eq_error_iff lookup_decodeBase64]
  refine ⟨Function.decodeBase64_eq_ok_iff.trans Function.encodeBase64_eq_ok_iff.symm,
    Function.encodeBase64_eq_ok_iff, ⟨_, rfl⟩, ?_⟩
  simp only [← Function.decodeBase64_eq_ok_iff]
  cases Function.decodeBase64 [t] <;> simp

/-! ## Parts of a text -/

theorem isNameChar_of_isDigit {c : Char} (h : c.isDigit) : isNameChar c := by
  rw [isNameChar, isAsciiAlphanumeric, h, Bool.or_true, Bool.true_or]

theorem trim_write (n : Nat) : trim (Whole.write n) = Whole.write n :=
  Resolve.trim_of_not_blank fun _ hc =>
    Resolve.isBlank_of_isNameChar (isNameChar_of_isDigit (isDigit_of_mem_write hc))

theorem toList_toString_nat (n : Nat) : (toString n).toList = Whole.write n := String.toList_ofList

theorem denotes_write {bound n : Nat} (h : n ≤ bound) : Whole.Denotes bound (Whole.write n) n :=
  ⟨_, .inl rfl, write_ne_nil n, fun _ => isDigit_of_mem_write, Nat.ofDigitChars_ten_toDigits, h⟩

namespace Function

/-- An index is what the text without blanks around it denotes. -/
theorem index_eq_ok_iff {s : String} {n : Nat} :
    index s = .ok n ↔ Whole.Denotes Whole.max64 (Text.trim s.toList) n := by
  rw [← Whole.read_eq_ok_iff, index]
  cases Whole.read Whole.max64 (Text.trim s.toList) <;> simp [Except.mapError]

theorem index_toString {n : Nat} (h : n ≤ Whole.max64) : index (toString n) = .ok n := by
  rw [index_eq_ok_iff, toList_toString_nat, trim_write]
  exact denotes_write h

/-- The characters of a text from one index up to but without another. -/
def part (text : String) (first last : Nat) : String :=
  String.ofList ((text.toList.take last).drop first)

theorem length_part {text : String} {first last : Nat} (h : last ≤ text.length) :
    (part text first last).length = last - first := by
  have hlast : last ≤ text.toList.length := String.length_toList ▸ h
  simp [part, hlast]

theorem part_append_part (text : String) (k : Nat) :
    part text 0 k ++ part text k text.length = text := by
  rw [← String.toList_inj, String.toList_append, part, part, String.toList_ofList,
    String.toList_ofList, List.drop_zero, ← String.length_toList, List.take_length,
    List.take_append_drop]

theorem slice_eq_ok_iff {text : String} {first last : Nat} {r : String} :
    slice text.toList first last = .ok r ↔
      (first ≤ last ∧ last ≤ text.length) ∧ part text first last = r := by
  unfold slice
  rw [String.length_toList]
  split
  · exact iff_of_false nofun (by omega)
  · rw [Except.ok.injEq]
    exact (and_iff_right (by omega)).symm

/-- What the arguments behind the text say about the indexes. -/
inductive Cut (text : String) : List String → Nat → Nat → Prop
  | toEnd {first : String} {b : Nat} (hb : Whole.Denotes Whole.max64 (Text.trim first.toList) b) :
      Cut text [first] b text.length
  | between {first last : String} {b e : Nat}
      (hb : Whole.Denotes Whole.max64 (Text.trim first.toList) b)
      (he : Whole.Denotes Whole.max64 (Text.trim last.toList) e) : Cut text [first, last] b e

/-- **A part is cut out** just if it lies in the text. -/
theorem substring_eq_ok_iff {args : List String} {r : String} : substring args = .ok r ↔
    ∃ text indexes b e, args = text :: indexes ∧ Cut text indexes b e ∧ (b ≤ e ∧ e ≤ text.length) ∧
      part text b e = r := by
  constructor
  · intro h
    match args with
    | [] | [_] | _ :: _ :: _ :: _ :: _ => cases h
    | [text, first] =>
      obtain ⟨b, hb, h⟩ := exists_of_bind_eq_ok h
      rw [String.length_toList] at h
      exact ⟨text, _, b, text.length, rfl, .toEnd (index_eq_ok_iff.1 hb), slice_eq_ok_iff.1 h⟩
    | [text, first, last] =>
      obtain ⟨b, hb, h⟩ := exists_of_bind_eq_ok h
      obtain ⟨e, he, h⟩ := exists_of_bind_eq_ok h
      exact ⟨text, _, b, e, rfl, .between (index_eq_ok_iff.1 hb) (index_eq_ok_iff.1 he),
        slice_eq_ok_iff.1 h⟩
  · rintro ⟨text, indexes, b, e, rfl, hcut, hslice⟩
    cases hcut with
    | toEnd hb =>
      rw [substring, index_eq_ok_iff.2 hb, String.length_toList]
      exact slice_eq_ok_iff.2 hslice
    | between hb he =>
      rw [substring, index_eq_ok_iff.2 hb]
      change (index _ >>= _) = _
      rw [index_eq_ok_iff.2 he]
      exact slice_eq_ok_iff.2 hslice

theorem substring_between {text : String} {b e : Nat} (hb : b ≤ Whole.max64)
    (he : e ≤ Whole.max64) :
    substring [text, toString b, toString e] = slice text.toList b e := by
  rw [substring, index_toString hb]
  change (index _ >>= _) = _
  rw [index_toString he]
  rfl

/-- An index that is left out is the length of the text. -/
theorem substring_toEnd {text : String} (h : text.length ≤ Whole.max64) (first : String) :
    substring [text, first] = substring [text, first, toString text.length] := by
  rw [substring, substring, index_toString h, String.length_toList]
  rfl

end Function

/-- **Parts of a text fit together.**  Indexes count characters and are read up to the largest
number of 64 bits; a part is cut out just if it lies in the text, and has as many characters as its
indexes say.  A cut without a second index goes to the end, and two parts that meet at an index make
up the text.  Whatever the arguments are, the function fails or cuts a part out of its first
argument. -/
theorem substring_cuts (store : Store) (t : String) :
    let call (name : String) (args : List String) := Library.builtin.evaluate store name args
    call "stringLength" [t] = .ok (toString t.length) ∧
    (∀ b e : Nat, b ≤ Whole.max64 → e ≤ Whole.max64 →
      ((∃ r, call "substring" [t, toString b, toString e] = .ok r) ↔ b ≤ e ∧ e ≤ t.length) ∧
      ∀ r, call "substring" [t, toString b, toString e] = .ok r →
        call "stringLength" [r] = .ok (toString (e - b))) ∧
    (t.length ≤ Whole.max64 → ∀ first,
      call "substring" [t, first] = call "substring" [t, first, toString t.length]) ∧
    (∀ k ≤ t.length, k ≤ Whole.max64 → ∃ before behind,
      call "substring" [t, toString 0, toString k] = .ok before ∧
      call "substring" [t, toString k] = .ok behind ∧ call "concat" [before, behind] = .ok t) ∧
    ∀ args, (∃ reason, call "substring" args = .error (.function "substring" reason)) ∨
      ∃ text indexes b e, args = text :: indexes ∧ Function.Cut text indexes b e ∧
        (b ≤ e ∧ e ≤ text.length) ∧ call "substring" args = .ok (Function.part text b e) := by
  intro call
  have hlength (s r : String) : call "stringLength" [s] = .ok r ↔ toString s.length = r := by
    rw [evaluate_builtin_eq_ok_iff lookup_stringLength, ← String.length_toList]
    change Except.ok (toString s.toList.length) = .ok r ↔ _
    rw [Except.ok.injEq]
  have hpart {args : List String} {r : String} :=
    @evaluate_builtin_eq_ok_iff _ _ store args r lookup_substring
  refine ⟨(hlength ..).2 rfl, fun b e hb he => ⟨?_, fun r hr => ?_⟩, fun hfits first => ?_,
    fun k hk hfits => ?_, fun args => ?_⟩
  · simp only [call, hpart, Function.substring_between hb he, Function.slice_eq_ok_iff]
    simp
  · simp only [call, hpart, Function.substring_between hb he, Function.slice_eq_ok_iff] at hr
    obtain ⟨⟨-, hle⟩, rfl⟩ := hr
    rw [hlength, Function.length_part hle]
  · simp only [call, Library.evaluate, lookup_substring, Function.ofTexts,
      Function.substring_toEnd hfits]
  · refine ⟨Function.part t 0 k, Function.part t k t.length, ?_, ?_, ?_⟩
    · rw [hpart, Function.substring_between (Nat.zero_le _) hfits, Function.slice_eq_ok_iff]
      exact ⟨⟨Nat.zero_le k, hk⟩, rfl⟩
    · rw [hpart, Function.substring_eq_ok_iff]
      refine ⟨t, _, k, t.length, rfl, .toEnd ?_, ⟨hk, le_rfl⟩, rfl⟩
      exact Function.index_eq_ok_iff.1 (Function.index_toString hfits)
    · rw [evaluate_builtin_eq_ok_iff lookup_concat, Function.concat]
      simp [String.join, Function.part_append_part t k]
  · cases h : Function.substring args with
    | error reason =>
      exact .inl ⟨reason, (evaluate_builtin_eq_error_iff lookup_substring).2 ⟨reason, h, rfl⟩⟩
    | ok r =>
      obtain ⟨text, indexes, b, e, rfl, hcut, hrange, rfl⟩ := Function.substring_eq_ok_iff.1 h
      exact .inr ⟨text, indexes, b, e, rfl, hcut, hrange, hpart.2 h⟩

/-- Characters of one, two, three and four bytes, cut in the middle. -/
theorem substring_cuts_multibyte :
    let text := "aé日😀"
    let call (name : String) (args : List String) := Library.builtin.evaluate .empty name args
    (2 ≤ Whole.max64 ∧ text.length ≤ Whole.max64 ∧ 2 ≤ text.length) ∧
      (∃ r, call "substring" [text, toString 1, toString 2] = .ok r) ∧
      call "substring" [text, " +2 "] = call "substring" [text, " +2 ", toString text.length] ∧
      ∃ before behind, call "substring" [text, toString 0, toString 2] = .ok before ∧
        call "substring" [text, toString 2] = .ok behind ∧
        call "concat" [before, behind] = .ok text := by
  intro text call
  obtain ⟨-, hbetween, htoEnd, hmeet, -⟩ := substring_cuts .empty text
  have hbound : 2 ≤ Whole.max64 := by decide
  have hlength : text.length = 4 := by decide
  have hfits : text.length ≤ Whole.max64 := by rw [hlength]; decide
  refine ⟨⟨hbound, hfits, by omega⟩, ?_, htoEnd hfits " +2 ", hmeet 2 (by omega) hbound⟩
  exact (hbetween 1 2 (by decide) hbound).1.2 (by omega)

end Scenario
