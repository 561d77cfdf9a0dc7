import Mathlib
import Scenario.Resolve.Basic

/-!
# Arguments as they are written

The text of a call is scanned twice.  The first scan goes from the opening parenthesis to the one
that closes the call; the second one goes over what lies between and cuts it at commas.  Both have
to know which characters count, and each keeps an account of its own: quotes hide parentheses and
commas from both, but references hide parentheses from the first scan only, and the second one
takes further parentheses into account instead.

Here texts are considered that are to be one argument each, wherever they stand in a list of
arguments, and it is said of them what either scan makes of them.

## What is here

* `Sealed` — the first scan goes over the text as if nothing was there.  Quoted texts are sealed,
  references are, and so is every list of sealed arguments; `closing?_of_sealed` is what this is
  good for.
* `Nesting` is the account of the second scan, `Nesting.Covers` says that it cuts nowhere in a text,
  and `Contained` that it cuts nowhere and is at the end where it was at the start.
* `KeepApart` says of a list of arguments that each but the last is contained and the last is
  covered.  `splitArguments_separated_iff` — this is exactly what it takes for the second scan to
  give the arguments back.
-/

set_option autoImplicit false

namespace Scenario.Resolve

open Text

/-! ## Written arguments -/

/-- A text in quotes. -/
def quoted (cs : List Char) : List Char := '\'' :: (cs ++ ['\''])

/-- A reference with some inside. -/
def braced (inside : List Char) : List Char := '$' :: '\x7b' :: (inside ++ ['\x7d'])

/-- Arguments one after the other, with a comma and a gap between them. -/
def separated (gap : List Char) (arguments : List (List Char)) : List Char :=
  (',' :: gap).intercalate arguments

@[simp] theorem separated_singleton (gap a : List Char) : separated gap [a] = a := by
  simp [separated, List.intercalate]

@[simp] theorem separated_cons_cons (gap a b : List Char) (rest : List (List Char)) :
    separated gap (a :: b :: rest) = a ++ ',' :: (gap ++ separated gap (b :: rest)) := by
  simp [separated, List.intercalate_cons_cons]

theorem exists_separated_eq (gap a : List Char) (rest : List (List Char)) :
    ∃ tail, separated gap (a :: rest) = a ++ tail := by
  cases rest with
  | nil => exact ⟨[], by simp⟩
  | cons b rest => exact ⟨_, separated_cons_cons gap a b rest⟩

theorem unquote_quoted (cs : List Char) : unquote (quoted cs) = cs := by
  rw [quoted, unquote, if_pos List.getLast?_concat, List.dropLast_concat]

theorem unquote_braced (inside : List Char) : unquote (braced inside) = braced inside := rfl

/-! ## Blanks -/

theorem ne_of_isBlank {c d : Char} (hc : isBlank c = true) (hd : isBlank d = false) : c ≠ d := by
  rintro rfl
  exact absurd hc (by simp [hd])

/-- Blanks in front of a text are trimmed off. -/
theorem trim_append_of_blank {gap : List Char} (h : ∀ c ∈ gap, isBlank c) (cs : List Char) :
    trim (gap ++ cs) = trim cs := by
  rw [trim, trim, trimStart, trimStart, List.dropWhile_append_of_pos h]

/-- Between characters that are not blank nothing is trimmed off. -/
theorem trim_between {c d : Char} (hc : isBlank c = false) (hd : isBlank d = false)
    (cs : List Char) : trim (c :: (cs ++ [d])) = c :: (cs ++ [d]) := by
  simp [trim, trimStart, trimEnd, hc, hd]

theorem trimStart_of_not_blank {cs : List Char} (h : ∀ c ∈ cs, isBlank c = false) :
    trimStart cs = cs := by
  cases cs with
  | nil => rfl
  | cons c cs => exact List.dropWhile_cons_of_neg (by simp [h c])

/-- A text without blanks is trimmed. -/
theorem trim_of_not_blank {cs : List Char} (h : ∀ c ∈ cs, isBlank c = false) : trim cs = cs := by
  have hreverse : trimStart cs.reverse = cs.reverse :=
    trimStart_of_not_blank fun c hc => h c (List.mem_reverse.1 hc)
  rw [trim, trimStart_of_not_blank h]
  exact (congrArg List.reverse hreverse).trans (List.reverse_reverse cs)

theorem toNat_of_isNameChar {c : Char} (h : isNameChar c) :
    (48 ≤ c.toNat ∧ c.toNat ≤ 57) ∨ (65 ≤ c.toNat ∧ c.toNat ≤ 90) ∨ c.toNat = 95 ∨
      (97 ≤ c.toNat ∧ c.toNat ≤ 122) := by
  simp only [isNameChar, isAsciiAlphanumeric, Char.isAlpha, Char.isUpper, Char.isLower,
    Char.isDigit, Bool.or_eq_true, decide_eq_true_eq, Bool.and_eq_true, beq_iff_eq,
    UInt32.le_iff_toNat_le, ge_iff_le] at h
  rcases h with ((hupper | hlower) | hdigit) | rfl
  · exact .inr (.inl hupper)
  · exact .inr (.inr (.inr hlower))
  · exact .inl hdigit
  · exact .inr (.inr (.inl rfl))

/-- No letter, digit or underscore is blank. -/
theorem isBlank_of_isNameChar {c : Char} (h : isNameChar c) : isBlank c = false := by
  have hbounds := toNat_of_isNameChar h
  have hascii : c.toNat < asciiBound := by rw [asciiBound]; omega
  have hspace : c ≠ ' ' := by rintro rfl; simp at hbounds
  simp [isBlank, hascii, hspace]
  omega

/-- What is trimmed is not blank at its start. -/
theorem isBlank_of_trim_eq {c : Char} {cs : List Char} (h : trim (c :: cs) = c :: cs) :
    isBlank c = false := by
  by_contra hblank
  have hstart : trimStart (c :: cs) = trimStart cs :=
    List.dropWhile_cons_of_pos (by simpa using hblank)
  have hlength := congrArg List.length h
  rw [trim, hstart] at hlength
  have hend := length_trimEnd_le (trimStart cs)
  have hrest := length_trimStart_le cs
  simp only [List.length_cons] at hlength
  omega

/-- All up to a character that is not blank is left at the end of a text. -/
theorem length_lt_trimEnd {d : Char} (hd : isBlank d = false) (cs ds : List Char) :
    cs.length < (trimEnd (cs ++ d :: ds)).length := by
  have hsub : (d :: cs.reverse).Sublist ((ds.reverse ++ d :: cs.reverse).dropWhile isBlank) := by
    rw [List.dropWhile_append]
    split
    · rw [List.dropWhile_cons_of_neg (by simp [hd])]
    · exact List.sublist_append_right ..
  have hle := hsub.length_le
  rw [List.length_cons, List.length_reverse] at hle
  simpa [trimEnd] using Nat.lt_of_succ_le hle

section Trimmed

variable {a : List Char} (ha : trim a = a) (hne : a ≠ [])
include ha hne

/-- Behind a text without blanks at its ends only the end is left to be trimmed. -/
theorem trim_append_of_trim_eq (cs : List Char) : trim (a ++ cs) = trimEnd (a ++ cs) := by
  obtain ⟨c, a, rfl⟩ := List.exists_cons_of_ne_nil hne
  rw [trim, trimStart, List.cons_append,
    List.dropWhile_cons_of_neg (by simp [isBlank_of_trim_eq ha])]

theorem trim_append_ne_nil (cs : List Char) : trim (a ++ cs) ≠ [] := by
  rw [trim_append_of_trim_eq ha hne]
  obtain ⟨c, a, rfl⟩ := List.exists_cons_of_ne_nil hne
  exact List.ne_nil_of_length_pos (length_lt_trimEnd (isBlank_of_trim_eq ha) [] (a ++ cs))

theorem length_lt_trim_append {d : Char} (hd : isBlank d = false) (cs : List Char) :
    a.length < (trim (a ++ d :: cs)).length := by
  rw [trim_append_of_trim_eq ha hne]
  exact length_lt_trimEnd hd a cs

end Trimmed

/-! ## The end of a call -/

namespace Scan

variable {s : Scan} {cs ds : List Char} {c : Char}

/-- The scan after some characters. -/
def after (s : Scan) (cs : List Char) : Scan := cs.foldl step s

/-- Whether none of the characters closes the call. -/
def Passes : Scan → List Char → Prop
  | _, [] => True
  | s, c :: rest => s.closes c = false ∧ (s.step c).Passes rest

/-- Whether the scan is where it was at first: one parenthesis is open and nothing hides the next
character. -/
structure AtTop (s : Scan) : Prop where
  depth : s.depth = 1
  unquoted : s.quoted = false
  outside : s.inReference = false

/-- Whether all that a scan learns from a character is whether it is a dollar sign. -/
def Ignores (s : Scan) (c : Char) : Prop :=
  s.closes c = false ∧ s.step c = { s with afterDollar := c == '$' }

theorem passes_append : s.Passes (cs ++ ds) ↔ s.Passes cs ∧ (s.after cs).Passes ds := by
  induction cs generalizing s with
  | nil => exact (true_and _).to_iff.symm
  | cons c cs ih =>
    rw [List.cons_append, Passes, ih, Passes, and_assoc]
    rfl

theorem after_append : s.after (cs ++ ds) = (s.after cs).after ds := List.foldl_append

/-- A scan goes through characters that it ignores, whether they follow a dollar sign or not. -/
theorem passes_of_ignores (h : ∀ c ∈ cs, ∀ b, ({ s with afterDollar := b } : Scan).Ignores c) :
    s.Passes cs ∧ ∃ b, s.after cs = { s with afterDollar := b } := by
  induction cs generalizing s with
  | nil => exact ⟨trivial, s.afterDollar, rfl⟩
  | cons c cs ih =>
    obtain ⟨hc, hcs⟩ := List.forall_mem_cons.1 h
    obtain ⟨hcloses, hstep⟩ := hc s.afterDollar
    obtain ⟨hpasses, b, hafter⟩ := ih (s := s.step c) fun d hd b => by
      rw [hstep]
      exact hcs d hd b
    refine ⟨⟨hcloses, hpasses⟩, b, hafter.trans ?_⟩
    rw [hstep]

/-- In quotes only a quote counts. -/
theorem ignores_of_quoted (hquoted : s.quoted = true) (houtside : s.inReference = false)
    (hc : c ≠ '\'') : s.Ignores c := by
  simp [Ignores, closes, step, bare, hquoted, houtside, hc]

/-- In a reference only a closing brace counts. -/
theorem ignores_of_inReference (hunquoted : s.quoted = false) (hinside : s.inReference = true)
    (hc : c ≠ '\x7d') : s.Ignores c := by
  refine ⟨by simp [closes, bare, hinside], ?_⟩
  obtain ⟨depth, quoted, inReference, afterDollar⟩ := s
  obtain rfl : inReference = true := hinside
  simp [step, bare, hc]

/-- A character that neither hides others nor is a parenthesis does not count. -/
theorem AtTop.ignores (h : s.AtTop) (hquote : c ≠ '\'') (hbrace : c ≠ '\x7b') (hopen : c ≠ '(')
    (hclose : c ≠ ')') : s.Ignores c := by
  simp [Ignores, closes, step, bare, h.outside, hquote, hbrace, hopen, hclose]

/-- A scan that ignores all between two ends is at the top again if the second one brings it
there. -/
theorem passes_between (hcs : s.Passes cs) {t : Scan} (ht : s.after cs = t)
    (hds : ∀ d ∈ ds, ∀ b, ({ t with afterDollar := b } : Scan).Ignores d) (hc : c ≠ ')')
    (htop : ∀ b, (({ t with afterDollar := b } : Scan).step c).AtTop) :
    s.Passes (cs ++ (ds ++ [c])) ∧ (s.after (cs ++ (ds ++ [c]))).AtTop := by
  obtain ⟨hpasses, b, hafter⟩ := passes_of_ignores hds
  have hcloses : ∀ u : Scan, u.closes c = false := fun u => by simp [closes, hc]
  rw [passes_append, passes_append, after_append, after_append, ht]
  refine ⟨⟨hcs, hpasses, hcloses _, trivial⟩, ?_⟩
  rw [hafter]
  exact htop b

end Scan

/-- What none of the characters closes is closed behind them. -/
theorem closing?_append {s : Scan} {cs : List Char} (h : s.Passes cs) (rest : List Char) :
    closing? s (cs ++ rest) =
      (closing? (s.after cs) rest).map fun (inside, tail) => (cs ++ inside, tail) := by
  induction cs generalizing s with
  | nil => cases h' : closing? s rest <;> simp [Scan.after, h']
  | cons c cs ih =>
    rw [List.cons_append, closing?, if_neg (by simp [h.1]), ih h.2, Option.map_map]
    rfl

/-- Whether a scan goes over a text as if nothing was there. -/
def Sealed (cs : List Char) : Prop := ∀ s : Scan, s.AtTop → s.Passes cs ∧ (s.after cs).AtTop

section Sealed

variable {cs ds : List Char}

theorem sealed_nil : Sealed [] := fun _ h => ⟨trivial, h⟩

theorem Sealed.append (hcs : Sealed cs) (hds : Sealed ds) : Sealed (cs ++ ds) := by
  intro s h
  obtain ⟨hpasses, hafter⟩ := hcs s h
  obtain ⟨hpasses', hafter'⟩ := hds _ hafter
  rw [Scan.passes_append, Scan.after_append]
  exact ⟨⟨hpasses, hpasses'⟩, hafter'⟩

theorem sealed_of_plain
    (h : ∀ c ∈ cs, c ≠ '\'' ∧ c ≠ '\x7b' ∧ c ≠ '(' ∧ c ≠ ')') : Sealed cs := by
  intro s hs
  obtain ⟨hpasses, b, hafter⟩ := Scan.passes_of_ignores (s := s) fun c hc b =>
    Scan.AtTop.ignores ⟨hs.depth, hs.unquoted, hs.outside⟩ (h c hc).1 (h c hc).2.1 (h c hc).2.2.1
      (h c hc).2.2.2
  rw [hafter]
  exact ⟨hpasses, hs.depth, hs.unquoted, hs.outside⟩

/-- What stands between two arguments is sealed. -/
theorem sealed_gap {gap : List Char} (h : ∀ c ∈ gap, isBlank c) : Sealed (',' :: gap) := by
  refine sealed_of_plain (List.forall_mem_cons.2 ⟨by decide, fun c hc => ?_⟩)
  exact ⟨ne_of_isBlank (h c hc) (by decide), ne_of_isBlank (h c hc) (by decide),
    ne_of_isBlank (h c hc) (by decide), ne_of_isBlank (h c hc) (by decide)⟩

/-- **Quotes seal a text** without quotes. -/
theorem sealed_quoted (h : '\'' ∉ cs) : Sealed (quoted cs) := by
  intro s hs
  have hopen : s.after ['\''] = { s with quoted := true, afterDollar := false } := by
    simp [Scan.after, Scan.step, hs.unquoted, hs.outside]
  have hlead : s.Passes ['\''] := ⟨by simp [Scan.closes], trivial⟩
  refine Scan.passes_between hlead hopen (fun c hc b => ?_) (by decide) fun b => ?_
  · exact Scan.ignores_of_quoted rfl hs.outside fun heq => h (heq ▸ hc)
  · constructor <;> simp [Scan.step, hs.depth, hs.outside]

/-- **References are sealed**, whatever else stands in them. -/
theorem sealed_braced (h : '\x7d' ∉ cs) : Sealed (braced cs) := by
  intro s hs
  have hopen : s.after ['$', '\x7b'] = { s with inReference := true, afterDollar := false } := by
    simp [Scan.after, Scan.step, Scan.bare, hs.unquoted]
  have hlead : s.Passes ['$', '\x7b'] := ⟨by simp [Scan.closes], by simp [Scan.closes], trivial⟩
  refine Scan.passes_between hlead hopen (fun c hc b => ?_) (by decide) fun b => ?_
  · exact Scan.ignores_of_inReference hs.unquoted rfl fun heq => h (heq ▸ hc)
  · constructor <;> simp [Scan.step, hs.depth, hs.unquoted]

theorem sealed_separated {gap : List Char} (hgap : Sealed (',' :: gap))
    {arguments : List (List Char)}
    (h : ∀ a ∈ arguments, Sealed a) : Sealed (separated gap arguments) := by
  induction arguments with
  | nil => exact sealed_nil
  | cons a rest ih =>
    obtain ⟨ha, hrest⟩ := List.forall_mem_cons.1 h
    cases rest with
    | nil => rwa [separated_singleton]
    | cons b rest =>
      rw [separated_cons_cons]
      exact ha.append (hgap.append (ih hrest))

end Sealed

/-- **A sealed text between parentheses** is what the first scan finds there. -/
theorem closing?_of_sealed {cs : List Char} (h : Sealed cs) (rest : List Char) :
    closing? {} (cs ++ ')' :: rest) = some (cs, rest) := by
  obtain ⟨hpasses, hafter⟩ := h {} ⟨rfl, rfl, rfl⟩
  have hcloses : (({} : Scan).after cs).closes ')' = true := by
    simp [Scan.closes, Scan.bare, hafter.depth, hafter.unquoted, hafter.outside]
  rw [closing?_append hpasses, closing?, if_pos hcloses]
  simp

/-! ## Cuts between arguments -/

/-- What the characters seen so far mean for a comma. -/
structure Nesting where
  /-- Parentheses that are open. -/
  depth : Nat := 0
  quoted : Bool := false
deriving DecidableEq, Repr

namespace Nesting

/-- Whether a comma ends an argument. -/
def isBare (n : Nesting) : Bool := !n.quoted && n.depth == 0

/-- Whether the character ends an argument. -/
def cuts (n : Nesting) (c : Char) : Bool := c == ',' && n.isBare

/-- What holds after a character that ends no argument. -/
def step (n : Nesting) (c : Char) : Nesting where
  depth :=
    if n.quoted then n.depth
    else if c = '(' then n.depth + 1
    else if c = ')' then n.depth - 1
    else n.depth
  quoted := if c = '\'' then !n.quoted else n.quoted

/-- What holds after some characters. -/
def after (n : Nesting) (cs : List Char) : Nesting := cs.foldl step n

/-- Whether none of the characters ends an argument. -/
def covers : Nesting → List Char → Bool
  | _, [] => true
  | n, c :: rest => !n.cuts c && (n.step c).covers rest

variable {n : Nesting} {cs ds : List Char} {c : Char}

theorem isBare_iff : n.isBare ↔ n = {} := by
  obtain ⟨depth, quoted⟩ := n
  cases quoted <;> simp [isBare]

theorem covers_append : n.covers (cs ++ ds) = (n.covers cs && (n.after cs).covers ds) := by
  induction cs generalizing n with
  | nil => rfl
  | cons c cs ih => rw [List.cons_append, covers, ih, covers, Bool.and_assoc]; rfl

theorem after_append : n.after (cs ++ ds) = (n.after cs).after ds := List.foldl_append

/-- A character that the account of the second scan does not mention changes nothing. -/
theorem step_of_plain (hquote : c ≠ '\'') (hopen : c ≠ '(') (hclose : c ≠ ')') : n.step c = n := by
  simp [step, hquote, hopen, hclose]

theorem covers_of_plain (h : ∀ c ∈ cs, c ∉ [',', '\'', '(', ')']) :
    n.covers cs = true ∧ n.after cs = n := by
  induction cs with
  | nil => exact ⟨rfl, rfl⟩
  | cons c cs ih =>
    obtain ⟨hc, hcs⟩ := List.forall_mem_cons.1 h
    simp only [List.mem_cons, List.not_mem_nil, or_false, not_or] at hc
    obtain ⟨hcomma, hquote, hopen, hclose⟩ := hc
    obtain ⟨hcovers, hafter⟩ := ih hcs
    rw [covers, after, List.foldl_cons, step_of_plain hquote hopen hclose]
    exact ⟨by simp [cuts, hcomma, hcovers], hafter⟩

/-- What is around a text does not matter if the account does not mention it. -/
theorem covers_between {es : List Char} (hcs : ∀ c ∈ cs, c ∉ [',', '\'', '(', ')'])
    (hes : ∀ c ∈ es, c ∉ [',', '\'', '(', ')']) (ds : List Char) :
    n.covers (cs ++ (ds ++ es)) = n.covers ds ∧ n.after (cs ++ (ds ++ es)) = n.after ds := by
  obtain ⟨hcovers, hafter⟩ := covers_of_plain (n := n) hcs
  obtain ⟨hcovers', hafter'⟩ := covers_of_plain (n := n.after ds) hes
  rw [covers_append, covers_append, after_append, after_append, hafter, hcovers, hcovers', hafter']
  simp

/-- In quotes only a quote counts. -/
theorem covers_of_quoted (hn : n.quoted = true) (h : '\'' ∉ cs) :
    n.covers cs = true ∧ n.after cs = n := by
  induction cs with
  | nil => exact ⟨rfl, rfl⟩
  | cons c cs ih =>
    rw [List.mem_cons, not_or] at h
    have hstep : n.step c = n := by
      obtain ⟨depth, quoted⟩ := n
      obtain rfl : quoted = true := hn
      simp [step, Ne.symm h.1]
    obtain ⟨hcovers, hafter⟩ := ih h.2
    rw [covers, after, List.foldl_cons, hstep]
    exact ⟨by simp [cuts, isBare, hn, hcovers], hafter⟩

/-- Where a comma ends an argument there is a first one that does. -/
theorem exists_of_not_covers (h : n.covers cs = false) :
    ∃ ds es, cs = ds ++ ',' :: es ∧ n.covers ds ∧ (n.after ds).isBare := by
  induction cs generalizing n with
  | nil => cases h
  | cons c cs ih =>
    cases hc : n.cuts c with
    | true =>
      rw [cuts, Bool.and_eq_true, beq_iff_eq] at hc
      obtain ⟨rfl, hbare⟩ := hc
      exact ⟨[], cs, rfl, rfl, hbare⟩
    | false =>
      rw [covers, hc, Bool.not_false, Bool.true_and] at h
      obtain ⟨ds, es, rfl, hds, hbare⟩ := ih h
      exact ⟨c :: ds, es, rfl, by rw [covers, hc, hds]; rfl, hbare⟩

end Nesting

theorem splitComma_cons (n : Nesting) (c : Char) (rest : List Char) :
    splitComma n.depth n.quoted (c :: rest) =
      if n.cuts c then ([], some rest)
      else
        (c :: (splitComma (n.step c).depth (n.step c).quoted rest).1,
          (splitComma (n.step c).depth (n.step c).quoted rest).2) := by
  rw [splitComma]
  simp [Nesting.cuts, Nesting.isBare, Nesting.step]

theorem splitComma_of_isBare {n : Nesting} (h : n.isBare) (rest : List Char) :
    splitComma n.depth n.quoted (',' :: rest) = ([], some rest) := by
  rw [splitComma_cons, if_pos (by simp [Nesting.cuts, h])]

/-- The second scan goes through what is covered. -/
theorem splitComma_append {n : Nesting} {cs : List Char} (h : n.covers cs) (rest : List Char) :
    splitComma n.depth n.quoted (cs ++ rest) =
      (cs ++ (splitComma (n.after cs).depth (n.after cs).quoted rest).1,
        (splitComma (n.after cs).depth (n.after cs).quoted rest).2) := by
  induction cs generalizing n with
  | nil => rfl
  | cons c cs ih =>
    rw [Nesting.covers, Bool.and_eq_true] at h
    rw [List.cons_append, splitComma_cons, if_neg (by simpa using h.1), ih h.2]
    rfl

/-- The first cut, and those behind it. -/
theorem splitParts_eq (cs : List Char) :
    splitParts cs = trim (splitComma 0 false cs).1 ::
      ((splitComma 0 false cs).2.map splitParts).getD [] := by
  rw [splitParts]
  split
  · next h => simp [h]
  · next h => simp [h]

/-- Whether the second scan cuts a text nowhere and is at the end where it was at the start. -/
def Contained (cs : List Char) : Prop := Nesting.covers {} cs ∧ Nesting.after {} cs = {}

instance (cs : List Char) : Decidable (Contained cs) := inferInstanceAs (Decidable (_ ∧ _))

/-- Whether the second scan cuts between arguments and nowhere else: each is contained, but the last
one need not be at the end where it was at the start. -/
def KeepApart (arguments : List (List Char)) : Prop :=
  (∀ a ∈ arguments.dropLast, Contained a) ∧ ∀ a ∈ arguments.getLast?, Nesting.covers {} a

instance (arguments : List (List Char)) : Decidable (KeepApart arguments) :=
  inferInstanceAs (Decidable (_ ∧ _))

/-- **Quotes contain a text** without quotes. -/
theorem contained_quoted {cs : List Char} (h : '\'' ∉ cs) : Contained (quoted cs) := by
  obtain ⟨hcovers, hafter⟩ := Nesting.covers_of_quoted (n := { quoted := true }) rfl h
  have hopen : Nesting.step {} '\'' = { quoted := true } := by decide
  constructor
  · rw [quoted, Nesting.covers, hopen, Nesting.covers_append, hcovers, hafter]
    rfl
  · rw [quoted, Nesting.after, List.foldl_cons, hopen]
    exact Nesting.after_append.trans (by rw [hafter]; rfl)

theorem keepApart_of_contained {arguments : List (List Char)} (h : ∀ a ∈ arguments, Contained a) :
    KeepApart arguments :=
  ⟨fun a ha => h a (List.dropLast_subset _ ha), fun a ha => (h a (List.mem_of_getLast? ha)).1⟩

theorem keepApart_map_congr {α : Type} {f g : α → List Char}
    (h : ∀ x, Nesting.covers {} (f x) = Nesting.covers {} (g x) ∧
      Nesting.after {} (f x) = Nesting.after {} (g x)) (l : List α) :
    KeepApart (l.map f) ↔ KeepApart (l.map g) := by
  simp [KeepApart, Contained, ← List.map_dropLast, h]

section Separated

variable {gap lead : List Char} {arguments : List (List Char)}

theorem keepApart_cons_cons {a b : List Char} {rest : List (List Char)} :
    KeepApart (a :: b :: rest) ↔ Contained a ∧ KeepApart (b :: rest) := by
  simp [KeepApart, and_assoc]

/-- Blanks do not matter for what comes after them. -/
theorem covers_blank (h : ∀ c ∈ gap, isBlank c) (n : Nesting) :
    n.covers gap = true ∧ n.after gap = n := by
  refine Nesting.covers_of_plain fun c hc => ?_
  have hblank := h c hc
  simp only [List.mem_cons, List.not_mem_nil, or_false, not_or]
  exact ⟨ne_of_isBlank hblank (by decide), ne_of_isBlank hblank (by decide),
    ne_of_isBlank hblank (by decide), ne_of_isBlank hblank (by decide)⟩

/-- The second scan behind a gap and a covered argument. -/
theorem splitComma_lead (hlead : ∀ c ∈ lead, isBlank c) {a : List Char}
    (ha : Nesting.covers {} a) (rest : List Char) :
    splitComma 0 false (lead ++ (a ++ rest)) =
      (lead ++ (a ++ (splitComma (Nesting.after {} a).depth (Nesting.after {} a).quoted rest).1),
        (splitComma (Nesting.after {} a).depth (Nesting.after {} a).quoted rest).2) := by
  obtain ⟨hcovers, hafter⟩ := covers_blank hlead {}
  have hscan := splitComma_append hcovers (a ++ rest)
  rw [hafter] at hscan
  exact hscan.trans (by rw [splitComma_append ha])

/-- The second scan behind a gap and a contained argument. -/
theorem splitParts_lead_cons (hlead : ∀ c ∈ lead, isBlank c) {a : List Char}
    (ha : Contained a) (rest : List Char) :
    splitParts (lead ++ (a ++ ',' :: rest)) = trim a :: splitParts rest := by
  have hcut : splitComma (Nesting.after {} a).depth (Nesting.after {} a).quoted (',' :: rest) =
      ([], some rest) := splitComma_of_isBare (Nesting.isBare_iff.2 ha.2) rest
  rw [splitParts_eq, splitComma_lead hlead ha.1, hcut, List.append_nil,
    trim_append_of_blank hlead]
  rfl

theorem splitParts_lead (hlead : ∀ c ∈ lead, isBlank c) {a : List Char}
    (ha : Nesting.covers {} a) : splitParts (lead ++ a) = [trim a] := by
  have hscan := splitComma_lead hlead ha []
  rw [List.append_nil, splitComma, List.append_nil] at hscan
  rw [splitParts_eq, hscan, trim_append_of_blank hlead]
  rfl

/-- Arguments that keep apart are found again. -/
theorem splitParts_separated (hgap : ∀ c ∈ gap, isBlank c) (hlead : ∀ c ∈ lead, isBlank c)
    (hne : arguments ≠ []) (h : KeepApart arguments) :
    splitParts (lead ++ separated gap arguments) = arguments.map trim := by
  induction arguments generalizing lead with
  | nil => exact absurd rfl hne
  | cons a rest ih =>
    cases rest with
    | nil => rw [separated_singleton, splitParts_lead hlead (h.2 a rfl)]; rfl
    | cons b rest =>
      obtain ⟨ha, hrest⟩ := keepApart_cons_cons.1 h
      rw [separated_cons_cons, splitParts_lead_cons hlead ha,
        ih hgap (List.cons_ne_nil b rest) hrest]
      rfl

/-- An argument in front of which the second scan cuts too early or too late is not found. -/
theorem keepApart_of_splitParts (hgap : ∀ c ∈ gap, isBlank c) (hlead : ∀ c ∈ lead, isBlank c)
    (hargs : ∀ a ∈ arguments, trim a = a ∧ a ≠ [])
    (h : splitParts (lead ++ separated gap arguments) = arguments) : KeepApart arguments := by
  induction arguments generalizing lead with
  | nil => exact ⟨nofun, nofun⟩
  | cons a rest ih =>
    obtain ⟨⟨htrim, hne⟩, hrest⟩ := List.forall_mem_cons.1 hargs
    have hhead : trim (splitComma 0 false (lead ++ separated gap (a :: rest))).1 = a := by
      rw [splitParts_eq] at h
      exact (List.cons.inj h).1
    obtain ⟨tail, htail⟩ := exists_separated_eq gap a rest
    have hcovers : Nesting.covers {} a := by
      -- a cut inside the argument leaves less than the argument
      by_contra hcut
      obtain ⟨ds, es, rfl, hds, hbare⟩ := Nesting.exists_of_not_covers (by simpa using hcut)
      rw [htail, List.append_assoc, splitComma_lead hlead hds, List.cons_append,
        splitComma_of_isBare hbare, List.append_nil, trim_append_of_blank hlead] at hhead
      have hle := length_trim_le ds
      rw [hhead, List.length_append, List.length_cons] at hle
      omega
    cases rest with
    | nil =>
      refine ⟨nofun, fun b hb => ?_⟩
      obtain rfl := Option.some.inj hb
      exact hcovers
    | cons b rest =>
      have hbare : (Nesting.after {} a).isBare := by
        -- without a cut behind the argument the comma is taken for a part of it
        by_contra hcut
        have hnext := splitComma_cons (Nesting.after {} a) ',' (gap ++ separated gap (b :: rest))
        rw [if_neg (by simpa [Nesting.cuts] using hcut)] at hnext
        rw [separated_cons_cons, splitComma_lead hlead hcovers, hnext,
          trim_append_of_blank hlead] at hhead
        have hlt := congrArg List.length hhead
        exact absurd hlt (Nat.ne_of_gt (length_lt_trim_append htrim hne (by decide) _))
      have hcontained : Contained a := ⟨hcovers, Nesting.isBare_iff.1 hbare⟩
      rw [separated_cons_cons, splitParts_lead_cons hlead hcontained, htrim] at h
      exact keepApart_cons_cons.2 ⟨hcontained, ih hgap hrest (List.cons.inj h).2⟩

/-- **The second scan gives the arguments back just if they keep apart.** -/
theorem splitArguments_separated_iff (hgap : ∀ c ∈ gap, isBlank c)
    (hargs : ∀ a ∈ arguments, trim a = a ∧ a ≠ []) :
    splitArguments (separated gap arguments) = arguments ↔ KeepApart arguments := by
  cases arguments with
  | nil => exact ⟨fun _ => ⟨nofun, nofun⟩, fun _ => rfl⟩
  | cons a rest =>
    have htrims : (a :: rest).map trim = a :: rest :=
      (List.map_congr_left fun b hb => (hargs b hb).1).trans (List.map_id _)
    have hblank : trim (separated gap (a :: rest)) ≠ [] := by
      obtain ⟨tail, htail⟩ := exists_separated_eq gap a rest
      rw [htail]
      exact trim_append_ne_nil (hargs a List.mem_cons_self).1 (hargs a List.mem_cons_self).2 tail
    rw [splitArguments, if_neg hblank]
    have hlead : ∀ c ∈ ([] : List Char), isBlank c := List.forall_mem_nil _
    refine ⟨keepApart_of_splitParts hgap hlead hargs, fun h => ?_⟩
    exact (splitParts_separated hgap hlead (List.cons_ne_nil a rest) h).trans htrims

end Separated

end Scenario.Resolve
