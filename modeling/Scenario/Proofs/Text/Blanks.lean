import Mathlib
import Scenario.Text.Class

/-!
# Blanks at the ends of a text

What becomes of a text that was put together from parts when blanks are trimmed off.  Whether a
blank is trimmed off depends on what else stands on its side of the text, so trimming does not go
through the parts one by one unless something keeps them apart.

## What is here

* `trim_eq_self_iff` and `trim_between_blanks` — a text that neither begins nor ends with a blank is
  what is left of it with blanks around.
* `trim_append_append` — nothing is trimmed off between two such texts.
-/

set_option autoImplicit false

namespace Scenario.Text

variable {cs ds : List Char}

theorem trim_eq_nil_iff : trim cs = [] ↔ ∀ c ∈ cs, isBlank c := by
  have hstart : trimStart cs = [] ↔ ∀ c ∈ cs, isBlank c := List.dropWhile_eq_nil_iff
  rw [← hstart]
  constructor
  · intro h
    by_contra hne
    have hblank : ∀ c ∈ trimStart cs, isBlank c := List.rdropWhile_eq_nil_iff.1 h
    have hfirst := List.dropWhile_get_zero_not isBlank cs (List.length_pos_of_ne_nil hne)
    exact hfirst (hblank _ (List.get_mem _ _))
  · intro h
    rw [trim, h]
    rfl

/-- **What is trimmed** has a blank neither at its start nor at its end. -/
theorem trim_eq_self_iff :
    trim cs = cs ↔ (∀ c ∈ cs.head?, isBlank c = false) ∧ ∀ c ∈ cs.getLast?, isBlank c = false := by
  have hstart : trimStart cs = cs ↔ ∀ c ∈ cs.head?, isBlank c = false := by
    cases cs with
    | nil => simp [trimStart]
    | cons c cs => simp [trimStart, List.dropWhile_eq_self_iff]
  have hend : trimEnd cs = cs ↔ ∀ c ∈ cs.getLast?, isBlank c = false := by
    refine List.rdropWhile_eq_self_iff.trans ?_
    cases cs with
    | nil => simp
    | cons c cs => simp [List.getLast?_eq_some_getLast]
  rw [← hstart, ← hend]
  constructor
  · intro h
    have hlength := congrArg List.length h
    have hle := length_trimEnd_le (trimStart cs)
    have hsuffix : trimStart cs <:+ cs := List.dropWhile_suffix _
    have heq : trimStart cs = cs :=
      hsuffix.eq_of_length (Nat.le_antisymm hsuffix.length_le (hlength ▸ hle))
    exact ⟨heq, by rwa [trim, heq] at h⟩
  · rintro ⟨hs, he⟩
    rw [trim, hs, he]

/-- A text is what is trimmed of it, with blanks around. -/
theorem exists_trim_eq (cs : List Char) : ∃ before after, cs = before ++ (trim cs ++ after) ∧
    (∀ c ∈ before, isBlank c) ∧ ∀ c ∈ after, isBlank c := by
  refine ⟨cs.takeWhile isBlank, (trimStart cs).rtakeWhile isBlank, ?_,
    fun c => List.mem_takeWhile_imp, fun c => List.mem_rtakeWhile_imp⟩
  have hend : trim cs ++ (trimStart cs).rtakeWhile isBlank = trimStart cs :=
    List.rdropWhile_append_rtakeWhile
  rw [hend, trimStart, List.takeWhile_append_dropWhile]

/-- Blanks around a text are trimmed off. -/
theorem trim_between_blanks {before after : List Char} (hbefore : ∀ c ∈ before, isBlank c)
    (hafter : ∀ c ∈ after, isBlank c) (h : trim cs = cs) : trim (before ++ (cs ++ after)) = cs := by
  have hstart : trimStart (before ++ (cs ++ after)) = trimStart (cs ++ after) :=
    List.dropWhile_append_of_pos hbefore
  cases cs with
  | nil => exact trim_eq_nil_iff.2 (by simpa [or_imp, forall_and] using ⟨hbefore, hafter⟩)
  | cons c cs =>
    have hfirst : isBlank c = false := (trim_eq_self_iff.1 h).1 c rfl
    have hrest : trimStart (c :: cs ++ after) = c :: cs ++ after :=
      List.dropWhile_cons_of_neg (by simp [hfirst])
    have hall : (after.reverse ++ (c :: cs).reverse).dropWhile isBlank =
        (c :: cs).reverse.dropWhile isBlank :=
      List.dropWhile_append_of_pos fun d hd => hafter d (List.mem_reverse.1 hd)
    have hself : trimStart (c :: cs) = c :: cs := List.dropWhile_cons_of_neg (by simp [hfirst])
    rw [trim, hstart, hrest, trimEnd, List.reverse_append, hall, ← trimEnd]
    rwa [trim, hself] at h

theorem trim_trim (cs : List Char) : trim (trim cs) = trim cs := by
  have hprefix : trim cs <+: trimStart cs := List.rdropWhile_prefix _ _
  refine trim_eq_self_iff.2 ⟨fun c hc => ?_, fun c hc => ?_⟩
  · obtain ⟨after, hafter⟩ := hprefix
    have hfirst : (cs.dropWhile isBlank).head? = some c := by
      rw [← trimStart, ← hafter, List.head?_append, hc]
      rfl
    have hnot := List.head?_dropWhile_not isBlank cs
    rwa [hfirst] at hnot
  · have hne : trim cs ≠ [] := List.ne_nil_of_mem (List.mem_of_getLast? hc)
    have hnot : ¬ isBlank ((trim cs).getLast hne) := List.rdropWhile_last_not isBlank _ hne
    obtain rfl := Option.some.inj ((List.getLast?_eq_some_getLast hne).symm.trans hc)
    simpa using hnot

/-- Nothing is trimmed off between two texts without blanks at their ends. -/
theorem trim_append_append (hcs : trim cs = cs) (hcs' : cs ≠ []) (hds : trim ds = ds)
    (hds' : ds ≠ []) (between : List Char) :
    trim (cs ++ (between ++ ds)) = cs ++ (between ++ ds) := by
  refine trim_eq_self_iff.2 ⟨?_, ?_⟩
  · rw [List.head?_append_of_ne_nil _ hcs']
    exact (trim_eq_self_iff.1 hcs).1
  · rw [← List.append_assoc, List.getLast?_append_of_ne_nil _ hds']
    exact (trim_eq_self_iff.1 hds).2

end Scenario.Text
