import Mathlib.Data.List.TakeWhile
import Mathlib.Data.String.Basic
import Mathlib.Tactic.Common

/-!
# Offsets

A place in a text can be given by the number of characters before it or by the number of their
bytes.  Only the first is safe to reckon with: of two places in characters the sum, the successor
and everything in between are places again as long as the text is long enough, but an offset in
bytes may lie within a character, and a text cannot be cut there.

* `cut?` cuts a text at an offset, and `between?` takes a part out of it; both refuse offsets that
  are no places in the text (`isSome_cut?_iff`) or not in order.
* `find?` is the offset of the first character of a kind; `find?_append_cons` and
  `find?_getD_eq` say where it is.
-/

set_option autoImplicit false

namespace Scenario.Text.Offset

open String (utf8Len)

/-- The two parts of a text at an offset in bytes. -/
def cut? : Nat → List Char → Option (List Char × List Char)
  | 0, cs => some ([], cs)
  | _ + 1, [] => none
  | i + 1, c :: cs =>
    if c.utf8Size ≤ i + 1 then
      (cut? (i + 1 - c.utf8Size) cs).map fun (before, behind) => (c :: before, behind)
    else none

variable {i first last : Nat} {cs before behind : List Char}

theorem cut?_cons {c : Char} (h : 0 < i) : cut? i (c :: cs) =
    if c.utf8Size ≤ i then
      (cut? (i - c.utf8Size) cs).map fun (before, behind) => (c :: before, behind)
    else none := by
  obtain ⟨j, rfl⟩ := Nat.exists_eq_add_one.2 h
  rfl

/-- **A text can be cut** behind the characters that make up the offset, and nowhere else. -/
theorem cut?_eq_some_iff :
    cut? i cs = some (before, behind) ↔ cs = before ++ behind ∧ utf8Len before = i := by
  induction cs generalizing i before with
  | nil =>
    cases i with
    | zero => cases before <;> simp [cut?, eq_comm]
    | succ i => cases before <;> simp [cut?]
  | cons c cs ih =>
    obtain rfl | hi := Nat.eq_zero_or_pos i
    · rw [String.utf8Len_eq_zero]
      constructor
      · intro h
        obtain ⟨rfl, rfl⟩ := Prod.mk.inj (Option.some.inj h)
        exact ⟨rfl, rfl⟩
      · rintro ⟨h, rfl⟩
        exact congrArg (fun rest => some ([], rest)) h
    · rw [cut?_cons hi]
      cases before with
      | nil =>
        split <;> simp [(Nat.ne_of_gt hi).symm]
      | cons d before =>
        have hwidth := c.utf8Size_pos
        simp only [Option.ite_none_right_eq_some, Option.map_eq_some_iff, Prod.exists,
          Prod.mk.injEq, List.cons.injEq, List.cons_append, String.utf8Len_cons]
        constructor
        · rintro ⟨hle, before, behind, hcut, ⟨rfl, rfl⟩, rfl⟩
          obtain ⟨rfl, hlen⟩ := ih.1 hcut
          exact ⟨⟨rfl, rfl⟩, by omega⟩
        · rintro ⟨⟨rfl, hcs⟩, hlen⟩
          exact ⟨by omega, before, behind, ih.2 ⟨hcs, by omega⟩, ⟨rfl, rfl⟩, rfl⟩

/-- **The offsets of a text** are the positions that are valid in it. -/
theorem isSome_cut?_iff {s : String} :
    (cut? i s.toList).isSome ↔ (⟨i⟩ : String.Pos.Raw).IsValid s := by
  simp only [Option.isSome_iff_exists, Prod.exists, cut?_eq_some_iff,
    String.Pos.Raw.isValid_iff_exists_append]
  constructor
  · rintro ⟨before, behind, hs, rfl⟩
    refine ⟨String.ofList before, String.ofList behind, ?_, ?_⟩
    · rw [← String.ofList_append, ← hs, String.ofList_toList]
    · rw [String.rawEndPos_ofList]
  · rintro ⟨before, behind, rfl, h⟩
    refine ⟨before.toList, behind.toList, String.toList_append, ?_⟩
    rw [← String.ofList_toList (s := before), String.rawEndPos_ofList] at h
    exact (congrArg String.Pos.Raw.byteIdx h).symm

theorem cut?_append : cut? (utf8Len before) (before ++ behind) = some (before, behind) :=
  cut?_eq_some_iff.2 ⟨rfl, rfl⟩

/-- The part of a text between two offsets. -/
def between? (first last : Nat) (cs : List Char) : Option (List Char) :=
  (cut? last cs).bind fun (before, _) => (cut? first before).map Prod.snd

theorem between?_append {inside : List Char} (hfirst : first = utf8Len before)
    (hlast : last = utf8Len before + utf8Len inside) :
    between? first last (before ++ (inside ++ behind)) = some inside := by
  subst hfirst hlast
  rw [between?, ← List.append_assoc, ← String.utf8Len_append, cut?_append]
  exact congrArg (Option.map Prod.snd) cut?_append

/-- The offset of the first character of a kind. -/
def find? (p : Char → Bool) : List Char → Option Nat
  | [] => none
  | c :: cs => if p c then some 0 else (find? p cs).map (c.utf8Size + ·)

variable {p : Char → Bool}

theorem find?_eq_none (h : ∀ c ∈ before, p c = false) : find? p before = none := by
  induction before with
  | nil => rfl
  | cons c before ih =>
    obtain ⟨hc, hbefore⟩ := List.forall_mem_cons.1 h
    rw [find?, hc, if_neg Bool.false_ne_true, ih hbefore, Option.map_none]

theorem find?_append_cons {c : Char} (h : ∀ d ∈ before, p d = false) (hc : p c = true) :
    find? p (before ++ c :: behind) = some (utf8Len before) := by
  induction before with
  | nil => exact if_pos hc
  | cons d before ih =>
    obtain ⟨hd, hbefore⟩ := List.forall_mem_cons.1 h
    rw [List.cons_append, find?, hd, if_neg Bool.false_ne_true, ih hbefore, Option.map_some,
      String.utf8Len_cons, Nat.add_comm]

/-- The characters of a kind at the start of a text end where the first other one is, or at the end
of the text. -/
theorem find?_getD_eq (p : Char → Bool) (cs : List Char) :
    (find? (!p ·) cs).getD (utf8Len cs) = utf8Len (cs.takeWhile p) := by
  have htake : ∀ c ∈ cs.takeWhile p, (!p c) = false := fun c hc => by
    simpa using List.mem_takeWhile_imp hc
  have hcs := List.takeWhile_append_dropWhile (p := p) (l := cs)
  cases hdrop : cs.dropWhile p with
  | nil =>
    rw [hdrop, List.append_nil] at hcs
    rw [hcs] at htake ⊢
    rw [find?_eq_none htake, Option.getD_none]
  | cons d rest =>
    have hd : (!p d) = true := by
      have := List.head_dropWhile_not p (by rw [hdrop]; simp : cs.dropWhile p ≠ [])
      simpa [hdrop] using this
    rw [hdrop] at hcs
    conv_lhs => rw [← hcs]
    rw [find?_append_cons htake hd, Option.getD_some]

end Scenario.Text.Offset
