import Scenario.Proofs.Json.Document
import Scenario.Proofs.Text.Whole

/-!
# Reading back what was written

A value is written without spaces and in one way only, and the reader takes each part of it for what
it was.  Every reader is given the text of its part with something behind it, and has to stop where
that begins; for numbers this takes a condition on what follows (`Text.Ends`), since digits could go
on.

Floating-point numbers are left out: they are read by one multiplication, which can be off in the
last place, so that not all of them are read back.

## What is here

* `Text.appendDigits_write`, `RawJson.readNumeral?_writeInt` — digits and integers are read back.
* `RawJson.readString?_flatMap` — so are characters inside quotes.
* `RawJson.readValue?_chars` — so are values, by induction on the value, whatever follows them.
* `RawJson.read?_text` — **the text of a value is read as this value.**
-/

set_option autoImplicit false

namespace Scenario

open Text

/-! ## Digits -/

namespace Text

/-- Whether a number that stands before this text ends where the text begins. -/
def Ends (r : List Char) : Prop := ∀ c ∈ r.head?, c.isDigit = false ∧ c ≠ '.' ∧ c ≠ 'e' ∧ c ≠ 'E'

theorem ends_nil : Ends [] := nofun

theorem ends_cons {c : Char} {r : List Char}
    (h : c.isDigit = false ∧ c ≠ '.' ∧ c ≠ 'e' ∧ c ≠ 'E') : Ends (c :: r) := by
  rintro _ ⟨⟩
  exact h

theorem isDigit_of_mem_write {n : Nat} {c : Char} (h : c ∈ Whole.write n) : c.isDigit = true :=
  Nat.isDigit_of_mem_toDigits (by decide) (by decide) h

theorem write_ne_nil (n : Nat) : Whole.write n ≠ [] := Nat.toDigits_ne_nil

/-- A number begins with a zero only if it is zero. -/
theorem head?_write {n : Nat} (h : 0 < n) : (Whole.write n).head? ≠ some '0' := by
  induction n using Nat.strongRecOn with
  | ind n ih =>
    rw [Whole.write, Nat.toDigits_eq_if (by decide)]
    split
    · next hlt =>
      have hdigit : ∀ m < 10, 0 < m → m.digitChar ≠ '0' := by decide
      simpa using hdigit n hlt h
    · next hge =>
      have hhead := ih (n / 10) (by omega) (by omega)
      cases hw : Whole.write (n / 10) with
      | nil => exact absurd hw (write_ne_nil _)
      | cons c cs =>
        rw [hw] at hhead
        rw [Whole.write] at hw
        rw [hw]
        exact hhead

theorem appendDigits_eq {ds : List Char} {s : Nat}
    (h : Nat.ofDigitChars 10 ds s ≤ RawJson.significandBound) :
    RawJson.appendDigits s ds = (Nat.ofDigitChars 10 ds s, []) := by
  induction ds generalizing s with
  | nil => rw [RawJson.appendDigits, Nat.ofDigitChars_nil]
  | cons c ds ih =>
    rw [Nat.ofDigitChars_cons, Nat.mul_comm] at h ⊢
    rw [RawJson.appendDigits]
    have hnext := Nat.le_trans (Whole.le_ofDigitChars ds _) h
    simp only [if_neg (Nat.not_lt.2 hnext)]
    exact ih h

/-- The digits of a number that fits 64 bits give this number. -/
theorem appendDigits_write {n : Nat} (h : n ≤ RawJson.significandBound) :
    RawJson.appendDigits 0 (Whole.write n) = (n, []) := by
  have hn : Nat.ofDigitChars 10 (Whole.write n) 0 = n := Nat.ofDigitChars_ten_toDigits
  rw [appendDigits_eq (by rwa [hn]), hn]

end Text

namespace RawJson

theorem takeWhole?_write (n : Nat) {r : List Char} (hr : Ends r) :
    takeWhole? (Whole.write n ++ r) = some (Whole.write n, r) := by
  have hall : ∀ c ∈ Whole.write n, c.isDigit = true := fun c => isDigit_of_mem_write
  have hstop : r.takeWhile Char.isDigit = [] ∧ r.dropWhile Char.isDigit = r := by
    cases r with
    | nil => exact ⟨rfl, rfl⟩
    | cons c r =>
      have hc := (hr c rfl).1
      exact ⟨List.takeWhile_cons_of_neg (by simp [hc]), List.dropWhile_cons_of_neg (by simp [hc])⟩
  have htake : takeDigits? (Whole.write n ++ r) = some (Whole.write n, r) := by
    rw [takeDigits?, List.takeWhile_append_of_pos hall, List.dropWhile_append_of_pos hall, hstop.1,
      hstop.2, List.append_nil]
    split
    · next hnil => exact absurd hnil (write_ne_nil n)
    · rfl
  rw [takeWhole?, htake, Option.filter_some_pos]
  rcases Nat.eq_zero_or_pos n with rfl | hpos
  · rfl
  · simp [head?_write hpos]

theorem takeFraction?_of_ends {r : List Char} (hr : Ends r) : takeFraction? r = some ([], r) := by
  rw [takeFraction?]
  rintro rest rfl
  exact (hr '.' rfl).2.1 rfl

theorem takeExponent?_of_ends {r : List Char} (hr : Ends r) : takeExponent? r = some (none, r) := by
  cases r with
  | nil => rfl
  | cons c r =>
    obtain ⟨-, -, he, hE⟩ := hr c rfl
    rw [takeExponent?, if_neg (by simp [he, hE])]

/-- The text of an integer as it was written. -/
theorem takeNumeral?_writeInt (i : Int) {r : List Char} (hr : Ends r) :
    takeNumeral? (Whole.writeInt i ++ r) = some (⟨i < 0, Whole.write i.natAbs, [], none⟩, r) := by
  have hrest : ∀ negative : Bool, ((takeWhole? (Whole.write i.natAbs ++ r)).bind fun whole =>
      (takeFraction? whole.2).bind fun fraction => (takeExponent? fraction.2).bind fun exponent =>
        some (NumeralText.mk negative whole.1 fraction.1 exponent.1, exponent.2)) =
      some (⟨negative, Whole.write i.natAbs, [], none⟩, r) := by
    intro negative
    rw [takeWhole?_write _ hr, Option.bind_some, takeFraction?_of_ends hr, Option.bind_some,
      takeExponent?_of_ends hr, Option.bind_some]
  rw [Whole.writeInt]
  split
  · next hneg =>
    rw [decide_eq_true hneg]
    exact hrest true
  · next hpos =>
    rw [decide_eq_false hpos]
    -- the first character is a digit and no sign
    cases hw : Whole.write i.natAbs with
    | nil => exact absurd hw (write_ne_nil _)
    | cons c cs =>
      have hc : c.isDigit = true := isDigit_of_mem_write (hw ▸ List.mem_cons_self)
      have hminus : c ≠ '-' := by
        rintro rfl
        cases hc
      rw [hw] at hrest
      rw [takeNumeral?]
      · exact hrest false
      · rintro rest ⟨⟩
        exact hminus rfl

/-- An integer that fits 64 bits is read back as this integer. -/
theorem readNumeral?_writeInt {i : Int} (hi : (Numeral.integer i).Fits false) {r : List Char}
    (hr : Ends r) :
    readNumeral? (Whole.writeInt i ++ r) = some (.number (.integer i), r) := by
  obtain ⟨hlow, hhigh⟩ := hi
  have hbound : i.natAbs ≤ significandBound := by
    rw [significandBound, Nat.pow_eq]
    omega
  rw [readNumeral?, takeNumeral?_writeInt i hr, Option.map_some]
  simp only [NumeralText.numeral?, appendDigits_write hbound, and_self, ↓reduceIte, ne_eq,
    not_true_eq_false, decide_eq_true_eq]
  by_cases hneg : i < 0
  · have hne : ¬ (i.natAbs = 0 ∨ Nat.pow 2 63 < i.natAbs) := by
      simp only [Nat.pow_eq]
      omega
    have hvalue : -(i.natAbs : Int) = i := by omega
    simp only [hneg, not_true_eq_false, ↓reduceIte, if_neg hne, hvalue]
  · have hvalue : (i.natAbs : Int) = i := by omega
    simp only [hneg, not_false_eq_true, ↓reduceIte, hvalue]

/-! ## Strings -/

theorem unit?_hexDigit : ∀ n < 32,
    unit? '0' '0' (hexDigit (n / 16)) (hexDigit (n % 16)) = some n := by decide

/-- A character is read back from its form inside quotes. -/
theorem readString?_escapeChar (c : Char) (read r : List Char) :
    readString? true none read (escapeChar c ++ r) = readString? true none (c :: read) r := by
  have hchar : ∀ {n : Nat}, c.toNat = n → c = Char.ofNat n := by
    rintro _ rfl
    exact (Char.ofNat_toNat c).symm
  unfold escapeChar
  split
  · next h => subst h; rfl
  split
  · next h => subst h; rfl
  split
  · next h => rw [hchar h]; rfl
  split
  · next h => rw [hchar h]; rfl
  split
  · next h => rw [hchar h]; rfl
  split
  · next h => rw [hchar h]; rfl
  split
  · next h => rw [hchar h]; rfl
  split
  · next h =>
    have hhigh : isHighHalf c.toNat = false := by simp [isHighHalf]; omega
    have hlow : isLowHalf c.toNat = false := by simp [isLowHalf]; omega
    simp only [List.cons_append, List.nil_append]
    rw [readString?]
    simp only [unit?_hexDigit _ h, hhigh, hlow, Bool.false_eq_true, ↓reduceIte, Char.ofNat_toNat]
  · next hquote hback _ _ _ _ _ hplain =>
    rw [List.cons_append, List.nil_append, readString?]
    · simp only [hback, or_false, if_neg hplain]
      rfl
    · exact fun h => hquote h
    · exact fun a b c d rest h _ => hback h
    · exact fun c rest h _ => hback h

/-- What is written of characters inside quotes is read as these characters. -/
theorem readString?_flatMap (cs read r : List Char) :
    readString? true none read (cs.flatMap escapeChar ++ '"' :: r) =
      some (some (String.ofList (read.reverse ++ cs)), r) := by
  induction cs generalizing read with
  | nil => simp [readString?]
  | cons c cs ih => simp [readString?_escapeChar, ih]

/-! ## Values -/

/-- The text of an integer begins with a digit or a sign. -/
theorem writeInt_eq_cons (i : Int) :
    ∃ c cs, Whole.writeInt i = c :: cs ∧ (c = '-' ∨ c.isDigit = true) := by
  rw [Whole.writeInt]
  split
  · exact ⟨_, _, rfl, .inl rfl⟩
  · cases hw : Whole.write i.natAbs with
    | nil => exact absurd hw (write_ne_nil _)
    | cons c cs => exact ⟨c, cs, rfl, .inr (isDigit_of_mem_write (hw ▸ List.mem_cons_self))⟩

/-- No word, string or container begins like a number. -/
theorem ne_of_number {c d : Char} (hc : c = '-' ∨ c.isDigit = true)
    (hd : d ≠ '-' ∧ d.isDigit = false) : c ≠ d := by
  rintro rfl
  rcases hc with h | h
  · exact hd.1 h
  · rw [h] at hd
    cases hd.2

/-- The text of a value does not begin with white space, nor like the end of an array. -/
theorem chars_eq_cons {d : Nat} {v : Json} (hv : (ofJson v).Fits false d) :
    ∃ c cs, v.chars = c :: cs ∧ isSpace c = false ∧ c ≠ ']' := by
  cases v with
  | null => exact ⟨'n', _, rfl, by decide, by decide⟩
  | bool b => cases b <;> exact ⟨_, _, rfl, by decide, by decide⟩
  | string s => exact ⟨'"', _, rfl, by decide, by decide⟩
  | array items => exact ⟨'[', _, rfl, by decide, by decide⟩
  | object members => exact ⟨'\x7b', _, rfl, by decide, by decide⟩
  | number n =>
    cases n with
    | float x =>
      cases hv with
      | number h => cases h
    | integer i =>
      obtain ⟨c, cs, hcs, hc⟩ := writeInt_eq_cons i
      have hspace : isSpace c = false := by
        simp only [isSpace, Bool.or_eq_false_iff, beq_eq_false_iff_ne]
        refine ⟨⟨⟨?_, ?_⟩, ?_⟩, ?_⟩ <;> exact ne_of_number hc (by decide)
      exact ⟨c, cs, hcs, hspace, ne_of_number hc (by decide)⟩

theorem skipSpace_cons {c : Char} {cs : List Char} (hc : isSpace c = false) :
    skipSpace (c :: cs) = c :: cs :=
  List.dropWhile_cons_of_neg (by simp [hc])

theorem skipSpace_chars {d : Nat} {v : Json} (hv : (ofJson v).Fits false d) (r : List Char) :
    skipSpace (v.chars ++ r) = v.chars ++ r := by
  obtain ⟨c, cs, hcs, hc, -⟩ := chars_eq_cons hv
  rw [hcs]
  exact skipSpace_cons hc

theorem itemChars_cons_cons (v w : Json) (rest : List Json) :
    Json.itemChars (v :: w :: rest) = v.chars ++ ',' :: Json.itemChars (w :: rest) := rfl

theorem memberChars_cons_cons (name : String) (v : Json) (m : String × Json) (rest : Fields Json) :
    Json.memberChars ((name, v) :: m :: rest) =
      quotedChars name.toList ++ ':' :: v.chars ++ ',' :: Json.memberChars (m :: rest) := rfl

/-- Nor does the text of several values. -/
theorem itemChars_eq_cons {d : Nat} {v : Json} (hv : (ofJson v).Fits false d) (rest : List Json) :
    ∃ c cs, Json.itemChars (v :: rest) = c :: cs ∧ isSpace c = false ∧ c ≠ ']' := by
  obtain ⟨c, cs, hcs, hc⟩ := chars_eq_cons hv
  cases rest with
  | nil => exact ⟨c, cs, hcs, hc⟩
  | cons w rest =>
    rw [itemChars_cons_cons, hcs]
    exact ⟨c, _, rfl, hc⟩

theorem memberChars_eq_cons (m : String × Json) (rest : Fields Json) :
    ∃ cs, Json.memberChars (m :: rest) = '"' :: cs := by
  cases rest with
  | nil => exact ⟨_, rfl⟩
  | cons w rest => exact ⟨_, rfl⟩

theorem readText?_quotedChars (s : String) (r : List Char) :
    readText? (s.toList.flatMap escapeChar ++ '"' :: r) = some (.string s, r) := by
  rw [readText?, readString?_flatMap]
  simp

/-- A number is read where no word, string or container begins. -/
theorem readValue?_integer {i : Int} (hi : (Numeral.integer i).Fits false) (n : Nat) {r : List Char}
    (hr : Ends r) :
    readValue? (n + 1) (Whole.writeInt i ++ r) = some (.number (.integer i), r) := by
  obtain ⟨c, cs, hcs, hc⟩ := writeInt_eq_cons i
  refine Eq.trans ?_ (readNumeral?_writeInt hi hr)
  rw [hcs, List.cons_append, readValue?] <;>
    exact fun rest heq => ne_of_number hc (by decide) (List.cons.inj heq).1

theorem ends_comma (r : List Char) : Ends (',' :: r) := ends_cons (by decide)

theorem ends_bracket (r : List Char) : Ends (']' :: r) := ends_cons (by decide)

theorem ends_brace (r : List Char) : Ends ('\x7d' :: r) := ends_cons (by decide)

/-- An array that is not empty. -/
theorem readValue?_bracket (n : Nat) {c : Char} {cs : List Char} (hspace : isSpace c = false)
    (hend : c ≠ ']') : readValue? (n + 1) ('[' :: c :: cs) =
      (readItems? n [] (c :: cs)).map fun (vs, tail) => (.array vs, tail) := by
  rw [readValue?, skipSpace_cons hspace]
  split
  · next heq => exact absurd (List.cons.inj heq).1 hend
  · rfl

/-- An object that is not empty. -/
theorem readValue?_brace (n : Nat) (cs : List Char) : readValue? (n + 1) ('\x7b' :: '"' :: cs) =
    (readMembers? n [] ('"' :: cs)).map fun (ms, tail) => (ofMembers ms, tail) := rfl

/-- The text of a member, and whatever follows it. -/
theorem quotedChars_append (name : String) (v : Json) (tail : List Char) :
    quotedChars name.toList ++ ':' :: (v.chars ++ tail) =
      '"' :: (name.toList.flatMap escapeChar ++ '"' :: ':' :: (v.chars ++ tail)) := by
  simp [quotedChars]

section Members

variable {d n : Nat} {name : String} {v : Json} (hv : (ofJson v).Fits false d)
  (read : List (Option String × RawJson))

include hv

/-- The last member of an object. -/
theorem readMembers?_last {r : List Char}
    (hvalue : readValue? n (v.chars ++ '\x7d' :: r) = some (ofJson v, '\x7d' :: r)) :
    readMembers? (n + 1) read (quotedChars name.toList ++ ':' :: (v.chars ++ '\x7d' :: r)) =
      some (((some name, ofJson v) :: read).reverse, r) := by
  rw [quotedChars_append, readMembers?, readString?_flatMap]
  simp only [skipSpace_cons (show isSpace ':' = false from rfl), skipSpace_chars hv, hvalue,
    skipSpace_cons (show isSpace '\x7d' = false from rfl), List.reverse_nil, List.nil_append,
    String.ofList_toList]

/-- A member that others follow. -/
theorem readMembers?_more {cs : List Char}
    (hvalue : readValue? n (v.chars ++ ',' :: '"' :: cs) = some (ofJson v, ',' :: '"' :: cs)) :
    readMembers? (n + 1) read (quotedChars name.toList ++ ':' :: (v.chars ++ ',' :: '"' :: cs)) =
      readMembers? n ((some name, ofJson v) :: read) ('"' :: cs) := by
  rw [quotedChars_append, readMembers?, readString?_flatMap]
  simp only [skipSpace_cons (show isSpace ':' = false from rfl), skipSpace_chars hv, hvalue,
    skipSpace_cons (show isSpace ',' = false from rfl),
    skipSpace_cons (show isSpace '"' = false from rfl), List.reverse_nil, List.nil_append,
    String.ofList_toList]

end Members

theorem ofMembers_some (members : Fields RawJson) :
    ofMembers (members.map fun m => (some m.1, m.2)) = .object members := by
  have hmapM : (members.map fun m => (some m.1, m.2)).mapM
      (fun (m : Option String × RawJson) => m.1.map (·, m.2)) = some members := by
    induction members with
    | nil => rfl
    | cons m rest ih => simp [ih]
  rw [ofMembers]
  simp [hmapM]

mutual

/-- A value is read back from its text, wherever it stands. -/
theorem readValue?_chars {d : Nat} : (v : Json) → (n : Nat) → (r : List Char) →
    (ofJson v).Fits false d → v.chars.length ≤ n → Ends r →
    readValue? n (v.chars ++ r) = some (ofJson v, r)
  | v, 0, r, hfits, hn, _ => by
    obtain ⟨c, cs, hcs, -⟩ := chars_eq_cons hfits
    rw [hcs] at hn
    cases hn
  | .null, n + 1, r, _, _, _ => rfl
  | .bool true, n + 1, r, _, _, _ => rfl
  | .bool false, n + 1, r, _, _, _ => rfl
  | .number (.float x), n + 1, r, hfits, _, _ => by
    cases hfits with
    | number h => cases h
  | .number (.integer i), n + 1, r, hfits, _, hr => by
    cases hfits with
    | number hi => exact readValue?_integer hi n hr
  | .string s, n + 1, r, _, _, _ => by
    simp only [Json.chars, quotedChars, List.cons_append, List.append_assoc, List.nil_append,
      readValue?, readText?_quotedChars, ofJson]
  | .array [], n + 1, r, _, _, _ => rfl
  | .array (v :: rest), n + 1, r, hfits, hn, hr => by
    cases hfits with
    | array hfits =>
      rw [Json.chars, List.length_append, List.length_cons, List.length_singleton] at hn
      have hitems := readItems?_chars v rest n [] r hfits (by omega)
      obtain ⟨c, cs, hcs, hspace, hend⟩ := itemChars_eq_cons (hfits _ List.mem_cons_self) rest
      have htext : (Json.array (v :: rest)).chars ++ r = '[' :: c :: (cs ++ ']' :: r) := by
        simp [Json.chars, hcs]
      rw [hcs, List.cons_append] at hitems
      rw [htext, readValue?_bracket n hspace hend, hitems]
      rfl
  | .object [], n + 1, r, _, _, _ => rfl
  | .object ((name, v) :: rest), n + 1, r, hfits, hn, hr => by
    cases hfits with
    | object hfits =>
      rw [Json.chars, List.length_append, List.length_cons, List.length_singleton] at hn
      have hmembers := readMembers?_chars name v rest n [] r hfits (by omega)
      obtain ⟨cs, hcs⟩ := memberChars_eq_cons (name, v) rest
      have htext : (Json.object ((name, v) :: rest)).chars ++ r =
          '\x7b' :: '"' :: (cs ++ '\x7d' :: r) := by
        simp [Json.chars, hcs]
      rw [hcs, List.cons_append] at hmembers
      rw [htext, readValue?_brace, hmembers, Option.map_some, List.reverse_nil, List.nil_append,
        ofJson, ← ofMembers_some]

/-- The items of an array are read back. -/
theorem readItems?_chars {d : Nat} : (v : Json) → (rest : List Json) → (n : Nat) →
    (read : List RawJson) → (r : List Char) → (∀ w ∈ ofItems (v :: rest), Fits false d w) →
    (Json.itemChars (v :: rest)).length + 1 ≤ n →
    readItems? n read (Json.itemChars (v :: rest) ++ ']' :: r) =
      some (read.reverse ++ ofItems (v :: rest), r)
  | v, rest, 0, read, r, _, hn => by omega
  | v, [], n + 1, read, r, hfits, hn => by
    rw [Json.itemChars] at hn ⊢
    rw [readItems?, readValue?_chars v n (']' :: r) (hfits _ List.mem_cons_self) (by omega)
      (ends_bracket r)]
    simp only [skipSpace_cons (show isSpace ']' = false from rfl), List.reverse_cons, ofItems]
  | v, w :: rest, n + 1, read, r, hfits, hn => by
    obtain ⟨hv, hrest⟩ := List.forall_mem_cons.1 hfits
    rw [itemChars_cons_cons, List.length_append, List.length_cons] at hn
    have hitems := readItems?_chars w rest n (ofJson v :: read) r hrest (by omega)
    obtain ⟨c, cs, hcs, hspace, -⟩ := itemChars_eq_cons (hrest _ List.mem_cons_self) rest
    rw [itemChars_cons_cons, List.append_assoc, List.cons_append, readItems?,
      readValue?_chars v n _ hv (by omega) (ends_comma _)]
    rw [hcs, List.cons_append] at hitems ⊢
    simp only [skipSpace_cons (show isSpace ',' = false from rfl), skipSpace_cons hspace, hitems]
    rw [List.reverse_cons, List.append_assoc]
    rfl

/-- The members of an object are read back. -/
theorem readMembers?_chars {d : Nat} : (name : String) → (v : Json) → (rest : Fields Json) →
    (n : Nat) → (read : List (Option String × RawJson)) → (r : List Char) →
    (∀ m ∈ ofFields ((name, v) :: rest), Fits false d m.2) →
    (Json.memberChars ((name, v) :: rest)).length + 1 ≤ n →
    readMembers? n read (Json.memberChars ((name, v) :: rest) ++ '\x7d' :: r) =
      some (read.reverse ++ (ofFields ((name, v) :: rest)).map fun m => (some m.1, m.2), r)
  | name, v, rest, 0, read, r, _, hn => by omega
  | name, v, [], n + 1, read, r, hfits, hn => by
    rw [Json.memberChars, List.length_append, List.length_cons] at hn
    have hv : (ofJson v).Fits false d := hfits _ List.mem_cons_self
    have hvalue := readValue?_chars v n ('\x7d' :: r) hv (by omega) (ends_brace r)
    rw [Json.memberChars, List.append_assoc, List.cons_append, readMembers?_last hv read hvalue,
      List.reverse_cons]
    rfl
  | name, v, (name', w) :: rest, n + 1, read, r, hfits, hn => by
    obtain ⟨hv, hrest⟩ := List.forall_mem_cons.1 hfits
    rw [memberChars_cons_cons, List.length_append, List.length_append, List.length_cons,
      List.length_cons] at hn
    have hmembers := readMembers?_chars name' w rest n ((some name, ofJson v) :: read) r hrest
      (by omega)
    obtain ⟨cs, hcs⟩ := memberChars_eq_cons (name', w) rest
    have hvalue := readValue?_chars v n (',' :: '"' :: (cs ++ '\x7d' :: r)) hv (by omega)
      (ends_comma _)
    have htext : Json.memberChars ((name, v) :: (name', w) :: rest) ++ '\x7d' :: r =
        quotedChars name.toList ++ ':' :: (v.chars ++ ',' :: '"' :: (cs ++ '\x7d' :: r)) := by
      simp [memberChars_cons_cons, hcs]
    rw [hcs, List.cons_append] at hmembers
    rw [htext, readMembers?_more hv read hvalue, hmembers, List.reverse_cons, List.append_assoc]
    rfl

end

/-- **A value is read back from its text** if there is no floating-point number in it and its
integers fit 64 bits. -/
theorem read?_text {d : Nat} {v : Json} (hfits : (ofJson v).Fits false d) :
    read? v.text = some (ofJson v) := by
  have hvalue := readValue?_chars v (v.chars.length + 1) [] hfits (Nat.le_succ _) ends_nil
  have hspace := skipSpace_chars hfits []
  rw [List.append_nil] at hvalue hspace
  rw [read?, Json.text, String.toList_ofList, readChars?, hspace, hvalue]
  rfl

end RawJson
end Scenario
