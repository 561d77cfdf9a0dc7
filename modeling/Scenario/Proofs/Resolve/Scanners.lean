import Scenario.Proofs.Resolve.Parentheses
import Scenario.Proofs.Text.Offsets

/-!
# The scanners on offsets

On lists of characters nothing can go wrong with taking a call apart: a list can be cut anywhere,
and a count of parentheses that is taken from never falls below zero.  In memory neither is for
free.  There the scanners keep offsets in bytes and compute others from them, behind a name, a comma
or a parenthesis, and at each parenthesis that closes another they take one from a count.  Here they
are in this form, with a stop for everything that could go wrong.  None of them ever stops, and they
find what the scanners on lists find.

## What is here

* `closingAt` searches for the end of a call, `arguments` cuts the text in between into arguments,
  and `callAt` recognises a call.
* `depth_pos_step` — the invariant of the count: it is positive until the call ends.
* `closingAt_eq`, `arguments_eq` and `callAt_eq` — the scanners on offsets are those on lists.
-/

set_option autoImplicit false

namespace Scenario.Resolve.Offset

open Text Text.Offset
open String (utf8Len)

/-- Why a run on offsets ends without a text. -/
inductive Stop where
  /-- The text cannot be resolved. -/
  | failure (f : Failure)
  /-- An offset that is no place in the text, or two that are not in order. -/
  | cut
  /-- A count that would fall below zero. -/
  | underflow
  /-- More steps than allowed. -/
  | limit

/-- A part that has to be there. -/
def Stop.ofPart {α : Type} : Option α → Except Stop α
  | some part => .ok part
  | none => .error .cut

/-! ## The scanners -/

/-- The offset of the parenthesis that brings the count to zero. -/
def closing (s : Scan) (index : Nat) : List Char → Except Stop (Option Nat)
  | [] => .ok none
  | c :: rest =>
    if c = ')' ∧ s.bare then
      match s.depth with
      | 0 => .error .underflow
      | 1 => .ok (some index)
      | _ => closing (s.step c) (index + c.utf8Size) rest
    else closing (s.step c) (index + c.utf8Size) rest

/-- The offset of the parenthesis that closes the one at `opening`. -/
def closingAt (text : List Char) (opening : Nat) : Except Stop (Option Nat) := do
  let (_, rest) ← Stop.ofPart (cut? opening text)
  closing { depth := 0 } opening rest

/-- The arguments from `start` on, where the characters up to `index` have been seen. -/
def argumentsFrom (text : List Char) (start index depth : Nat) (quoted : Bool) :
    List Char → Except Stop (List (List Char))
  | [] => do
    let (_, last) ← Stop.ofPart (cut? start text)
    return [trim last]
  | c :: rest =>
    if c = ',' ∧ ¬ quoted ∧ depth = 0 then do
      let argument ← Stop.ofPart (between? start index text)
      let more ← argumentsFrom text (index + 1) (index + c.utf8Size) depth quoted rest
      return trim argument :: more
    else
      let quoted' := if c = '\'' then !quoted else quoted
      let depth' :=
        if quoted then depth
        else if c = '(' then depth + 1
        else if c = ')' then depth - 1
        else depth
      argumentsFrom text start (index + c.utf8Size) depth' quoted' rest

/-- The arguments between the parentheses of a call. -/
def arguments (text : List Char) : Except Stop (List (List Char)) :=
  if trim text = [] then .ok [] else argumentsFrom text 0 0 0 false text

/-- A call at the start of a text. -/
structure CallText where
  name : List Char
  inside : List Char
  /-- The offset behind the call. -/
  consumed : Nat

/-- The call at the start of a text. -/
def callAt (marker text : List Char) : Except Stop (Option CallText) :=
  match after? (marker ++ [':']) text with
  | some behind => do
    let length := (find? (!isNameChar ·) behind).getD (utf8Len behind)
    if length = 0 then return none
    let (name, _) ← Stop.ofPart (cut? length behind)
    let opening := utf8Len marker + 1 + length
    let (_, rest) ← Stop.ofPart (cut? opening text)
    if rest.head? ≠ some '(' then return none
    match ← closingAt text opening with
    | none => return none
    | some close =>
      let inside ← Stop.ofPart (between? (opening + 1) close text)
      return some ⟨name, inside, close + 1⟩
  | none => .ok none

/-- The call at the start of a text that follows `before`, if a word can start there. -/
def callBehind (marker before text : List Char) : Except Stop (Option CallText) :=
  if atWordStart before.getLast? then callAt marker text else .ok none

/-! ## The end of a call -/

theorem closes_iff {s : Scan} {c : Char} :
    s.closes c = true ↔ (c = ')' ∧ s.bare) ∧ s.depth = 1 := by
  simp [Scan.closes]

theorem depth_step (s : Scan) (c : Char) : (s.step c).depth =
    if c = '(' ∧ s.bare then s.depth + 1
    else if c = ')' ∧ s.bare then s.depth - 1
    else s.depth := by
  unfold Scan.step
  split_ifs <;> simp_all

/-- **The count is positive until the call ends**, so one can always be taken from it. -/
theorem depth_pos_step {s : Scan} {c : Char} (h : 0 < s.depth) (hno : ¬ s.closes c) :
    0 < (s.step c).depth := by
  rw [depth_step]
  split_ifs with hopen hclose
  · exact Nat.succ_pos _
  · have hne : s.depth ≠ 1 := fun hone => hno (closes_iff.2 ⟨hclose, hone⟩)
    omega
  · exact h

/-- While the count is positive the search stops at the end of the call and nowhere else. -/
theorem closing_cons {s : Scan} {index : Nat} {c : Char} {rest : List Char} (h : 0 < s.depth) :
    closing s index (c :: rest) =
      if s.closes c then .ok (some index) else closing (s.step c) (index + c.utf8Size) rest := by
  rw [closing]
  by_cases hclose : c = ')' ∧ s.bare
  · rw [if_pos hclose]
    obtain hone | hmore := Nat.eq_or_lt_of_le (Nat.succ_le_of_lt h)
    · rw [if_pos (closes_iff.2 ⟨hclose, hone.symm⟩), ← hone]
      rfl
    · rw [if_neg fun h => hmore.ne' (closes_iff.1 h).2]
      split
      · omega
      · omega
      · rfl
  · rw [if_neg hclose, if_neg fun h => hclose (closes_iff.1 h).1]

/-- **The search on offsets is the search on lists.** -/
theorem closing_eq {s : Scan} {index : Nat} {cs : List Char} (h : 0 < s.depth) :
    closing s index cs =
      .ok ((closing? s cs).map fun (inside, _) => index + utf8Len inside) := by
  induction cs generalizing s index with
  | nil => rfl
  | cons c cs ih =>
    rw [closing_cons h, closing?]
    split
    · rfl
    next hno =>
      rw [ih (depth_pos_step h hno), Option.map_map]
      congr 2
      funext parts
      simp only [Function.comp_apply, String.utf8Len_cons]
      omega

theorem ofPart_cut?_append (before behind : List Char) :
    Stop.ofPart (cut? (utf8Len before) (before ++ behind)) = .ok (before, behind) :=
  congrArg Stop.ofPart cut?_append

theorem closingAt_eq (before rest : List Char) :
    closingAt (before ++ '(' :: rest) (utf8Len before) = .ok ((closing? {} rest).map
      fun (inside, _) => utf8Len (before ++ '(' :: inside)) := by
  rw [closingAt, ofPart_cut?_append]
  change closing { depth := 0 } (utf8Len before) ('(' :: rest) = _
  rw [closing, if_neg (by simp)]
  change closing {} (utf8Len before + 1) rest = _
  rw [closing_eq Nat.one_pos]
  congr 2
  funext parts
  simp only [String.utf8Len_append, String.utf8Len_cons]
  change _ = _ + (_ + 1)
  omega

/-! ## The arguments of a call -/

/-- The arguments that are still to come: the rest of one of which some has been seen, and those
behind it. -/
theorem argumentsFrom_eq (depth : Nat) (quoted : Bool) (before seen rest : List Char) :
    argumentsFrom (before ++ (seen ++ rest)) (utf8Len before) (utf8Len before + utf8Len seen)
        depth quoted rest =
      .ok (trim (seen ++ (splitComma depth quoted rest).1) ::
        ((splitComma depth quoted rest).2.map splitParts).getD []) := by
  induction rest generalizing before seen depth quoted with
  | nil =>
    rw [argumentsFrom, ofPart_cut?_append, splitComma]
    rfl
  | cons c rest ih =>
    rw [argumentsFrom, splitComma]
    split
    next hcomma =>
      obtain ⟨rfl, hquoted, rfl⟩ := hcomma
      obtain rfl : quoted = false := by simpa using hquoted
      have hargument : between? (utf8Len before) (utf8Len before + utf8Len seen)
          (before ++ (seen ++ ',' :: rest)) = some seen := between?_append rfl rfl
      -- Nothing has been seen of the next argument, and the comma belongs to what is before it.
      have hmore := ih 0 false (before ++ (seen ++ [','])) []
      simp only [List.append_assoc, List.cons_append, List.nil_append, String.utf8Len_append,
        String.utf8Len_cons, String.utf8Len_nil, Nat.zero_add, Nat.add_zero, ← Nat.add_assoc]
        at hmore
      rw [hargument, List.append_nil, Option.map_some, Option.getD_some, splitParts_eq]
      exact congrArg (· >>= fun more => Except.ok (trim seen :: more)) hmore
    next hno =>
      -- The character is seen as a part of the argument.
      have hseen := fun depth quoted => ih depth quoted before (seen ++ [c])
      simp only [List.append_assoc, List.cons_append, List.nil_append, String.utf8Len_append,
        String.utf8Len_cons, String.utf8Len_nil, Nat.zero_add, ← Nat.add_assoc] at hseen
      exact hseen _ _

/-- **Splitting on offsets is splitting on lists.** -/
theorem arguments_eq (text : List Char) : arguments text = .ok (splitArguments text) := by
  rw [arguments, splitArguments]
  split
  · rfl
  · exact (argumentsFrom_eq 0 false [] [] text).trans (congrArg Except.ok (splitParts_eq text).symm)

/-! ## Calls -/

section

variable {marker behind more : List Char}

/-- Without a name or a parenthesis there is no call. -/
theorem call?_append_eq_none
    (h : behind.takeWhile isNameChar = [] ∨ (behind.dropWhile isNameChar).head? ≠ some '(') :
    call? marker (marker ++ ':' :: behind) = none := by
  simp only [call?, after?_append]
  split <;> simp_all

/-- Behind a name and a parenthesis the search for its partner decides. -/
theorem call?_append_open (hname : behind.takeWhile isNameChar ≠ [])
    (hopen : behind.dropWhile isNameChar = '(' :: more) :
    call? marker (marker ++ ':' :: behind) = (closing? {} more).map fun (inside, tail) =>
      ⟨behind.takeWhile isNameChar, inside, tail⟩ := by
  simp only [call?, after?_append, hopen]
  split <;> simp_all

end

/-! The offsets in a call are sums of the lengths of its parts, and of one for each of the colon and
the parentheses. -/

section

variable (marker name inside tail : List Char)

theorem utf8Len_opening : utf8Len (marker ++ ':' :: name) = utf8Len marker + 1 + utf8Len name := by
  rw [String.utf8Len_append, String.utf8Len_cons, Nat.add_comm (utf8Len name), Nat.add_assoc]
  rfl

theorem utf8Len_inside : utf8Len (marker ++ ':' :: name ++ '(' :: inside) =
    utf8Len (marker ++ ':' :: name) + 1 + utf8Len inside := by
  rw [String.utf8Len_append, String.utf8Len_cons, Nat.add_comm (utf8Len inside), ← Nat.add_assoc]
  rfl

theorem called_nil :
    called marker name inside [] = (marker ++ ':' :: name ++ '(' :: inside) ++ [')'] := by
  simp [called]

theorem called_append : called marker name inside tail = called marker name inside [] ++ tail := by
  simp [called]

theorem utf8Len_called : utf8Len (called marker name inside []) =
    utf8Len (marker ++ ':' :: name ++ '(' :: inside) + 1 := by
  rw [called_nil, String.utf8Len_append]
  rfl

theorem between?_called : between? (utf8Len (marker ++ ':' :: name) + 1)
    (utf8Len (marker ++ ':' :: name ++ '(' :: inside)) (called marker name inside tail) =
      some inside := by
  have happend : called marker name inside tail =
      (marker ++ ':' :: name ++ ['(']) ++ (inside ++ ')' :: tail) := by
    simp [called]
  have hopen : utf8Len (marker ++ ':' :: name ++ ['(']) = utf8Len (marker ++ ':' :: name) + 1 :=
    String.utf8Len_append ..
  rw [happend]
  exact between?_append hopen.symm (by rw [hopen, utf8Len_inside])

end

/-- Behind the marker and the colon stands a name, and behind the name all cuts are made. -/
theorem callAt_append {marker name rest : List Char}
    (hname : (name ++ rest).takeWhile isNameChar = name) :
    callAt marker (marker ++ ':' :: (name ++ rest)) =
      if name = [] ∨ rest.head? ≠ some '(' then .ok none
      else do
        match ← closingAt (marker ++ ':' :: (name ++ rest)) (utf8Len (marker ++ ':' :: name)) with
        | none => return none
        | some close =>
          let inside ← Stop.ofPart (between? (utf8Len (marker ++ ':' :: name) + 1) close
            (marker ++ ':' :: (name ++ rest)))
          return some ⟨name, inside, close + 1⟩ := by
  have hopening := ofPart_cut?_append (marker ++ ':' :: name) rest
  rw [List.append_assoc, List.cons_append] at hopening
  have hafter : after? (marker ++ [':']) (marker ++ ':' :: (name ++ rest)) = some (name ++ rest) :=
    after?_eq_some_iff.2 (List.append_cons ..)
  rw [callAt, hafter]
  dsimp only
  rw [find?_getD_eq, hname, ← utf8Len_opening, hopening, ofPart_cut?_append]
  simp only [String.utf8Len_eq_zero]
  by_cases hempty : name = []
  · rw [if_pos hempty, if_pos (.inl hempty)]
    rfl
  · rw [if_neg hempty]
    by_cases hopen : rest.head? = some '('
    · rw [if_neg (not_or.2 ⟨hempty, not_not.2 hopen⟩)]
      exact if_neg (not_not.2 hopen)
    · rw [if_pos (.inr hopen)]
      exact if_pos hopen

/-- **Recognising a call on offsets is recognising it on lists.** -/
theorem callAt_eq (marker text : List Char) :
    callAt marker text = .ok ((call? marker text).map fun call =>
      ⟨call.name, call.inside, utf8Len (called marker call.name call.inside [])⟩) := by
  by_cases hafter : ∃ behind, text = marker ++ ':' :: behind
  · obtain ⟨behind, rfl⟩ := hafter
    have hbehind := List.takeWhile_append_dropWhile (p := isNameChar) (l := behind)
    have hread := @callAt_append marker _ (behind.dropWhile isNameChar)
      (congrArg (List.takeWhile isNameChar) hbehind)
    rw [hbehind] at hread
    rw [hread]
    split
    next hno =>
      rw [call?_append_eq_none hno]
      rfl
    next hcall =>
      obtain ⟨hname, hopen⟩ := not_or.1 hcall
      obtain ⟨more, hmore⟩ := List.head?_eq_some_iff.1 (not_not.1 hopen)
      rw [call?_append_open hname hmore]
      generalize behind.takeWhile isNameChar = name at *
      rw [hmore] at hbehind
      subst hbehind
      have hclosing := closingAt_eq (marker ++ ':' :: name) more
      rw [List.append_assoc, List.cons_append] at hclosing
      rw [hclosing]
      cases hfound : closing? {} more with
      | none => rfl
      | some parts =>
        obtain ⟨inside, tail⟩ := parts
        obtain rfl := eq_append_of_closing? hfound
        change (do
          let inside ← Stop.ofPart (between? (utf8Len (marker ++ ':' :: name) + 1)
            (utf8Len (marker ++ ':' :: name ++ '(' :: inside)) (called marker name inside tail))
          return some (CallText.mk name inside _)) = _
        rw [between?_called, Option.map_some, Option.map_some, utf8Len_called]
        rfl
  · have hnone : after? (marker ++ [':']) text = none :=
      Option.eq_none_iff_forall_ne_some.2 fun behind h =>
        hafter ⟨behind, (after?_eq_some_iff.1 h).trans (List.append_cons ..).symm⟩
    rw [callAt, hnone, call?_eq_none_iff.2 fun behind h => absurd ⟨behind, h⟩ hafter]
    rfl

theorem callBehind_eq (marker before text : List Char) :
    callBehind marker before text =
      .ok ((callAfter? marker before.getLast? text).map fun call =>
        ⟨call.name, call.inside, utf8Len (called marker call.name call.inside [])⟩) := by
  rw [callBehind, callAfter?]
  split
  · exact callAt_eq marker text
  · rfl

end Scenario.Resolve.Offset
