import Scenario.Proofs.Resolve.Settled

/-!
# Parentheses that match

The search for the end of a call keeps a count and three flags, and it stops where the count comes
back to zero.  That it stops at the right place can be said without the flags: leave out of a text
what quotes and references hide, and count the parentheses in what is left.  The search stops behind
the first part of the text that has as many closing parentheses as opening ones, and it does not
stop where there is no such part.  A quote or a reference that is not closed hides all that follows,
so the parts that are compared need not be complete in any way.

* `bare` is what quotes and references leave of a text, and a text is `Level` if its parentheses
  match in number.
* `Balanced.level` — texts that are balanced are level.
* `exists_closing?_of_count` — the search overlooks nothing: it stops within a part of the text that
  closes more parentheses than are open.
* `shortestLevel_of_closing?` — the search stops behind the shortest level part, and
  `not_level_of_closing?` that it stops if there is one.
-/

set_option autoImplicit false

namespace Scenario.Resolve

/-! ## What quotes and references hide -/

/-- The characters of a text that neither quotes nor references hide, without the marks that begin
and end these. -/
def bare (cs : List Char) : List Char :=
  match cs with
  | [] => []
  | '\'' :: rest => bare (rest.dropWhile (· != '\'')).tail
  | '$' :: '\x7b' :: rest => bare (rest.dropWhile (· != '\x7d')).tail
  | c :: rest => c :: bare rest
termination_by cs.length
decreasing_by
  · have := (List.dropWhile_sublist (· != '\'') (l := rest)).length_le
    simp only [List.length_tail, List.length_cons]
    omega
  · have := (List.dropWhile_sublist (· != '\x7d') (l := rest)).length_le
    simp only [List.length_tail, List.length_cons]
    omega
  · simp

/-- Whether as many parentheses are closed as are opened. -/
def Level (cs : List Char) : Prop := (bare cs).count '(' = (bare cs).count ')'

section Bare

variable {c : Char} {inside rest : List Char}

theorem tail_dropWhile_append (h : c ∉ inside) :
    ((inside ++ c :: rest).dropWhile (· != c)).tail = rest := by
  have hinside : ∀ d ∈ inside, (d != c) = true := fun _ hd =>
    bne_iff_ne.2 (ne_of_mem_of_not_mem hd h)
  rw [List.dropWhile_append_of_pos hinside, List.dropWhile_cons_of_neg (by simp), List.tail_cons]

theorem dropWhile_eq_nil (h : c ∉ rest) : rest.dropWhile (· != c) = [] :=
  List.dropWhile_eq_nil_iff.2 fun _ hd => bne_iff_ne.2 (ne_of_mem_of_not_mem hd h)

theorem bare_quoted (h : '\'' ∉ inside) :
    bare ('\'' :: (inside ++ '\'' :: rest)) = bare rest := by
  rw [bare, tail_dropWhile_append h]

theorem bare_quoted_open (h : '\'' ∉ rest) : bare ('\'' :: rest) = [] := by
  rw [bare, dropWhile_eq_nil h, List.tail_nil, bare]

theorem bare_reference (h : '\x7d' ∉ inside) :
    bare ('$' :: '\x7b' :: (inside ++ '\x7d' :: rest)) = bare rest := by
  rw [bare, tail_dropWhile_append h]

theorem bare_reference_open (h : '\x7d' ∉ rest) : bare ('$' :: '\x7b' :: rest) = [] := by
  rw [bare, dropWhile_eq_nil h, List.tail_nil, bare]

theorem bare_cons (hquote : c ≠ '\'') (hbrace : c = '$' → rest.head? ≠ some '\x7b') :
    bare (c :: rest) = c :: bare rest := by
  rw [bare]
  · exact fun h => hquote h
  · rintro more rfl rfl
    exact hbrace rfl rfl

theorem bare_open : bare ('(' :: rest) = '(' :: bare rest :=
  bare_cons (by decide) fun h => absurd h (by decide)

theorem bare_close : bare (')' :: rest) = ')' :: bare rest :=
  bare_cons (by decide) fun h => absurd h (by decide)

end Bare

/-- A balanced text is bare on its own, unless a brace behind it makes a reference of its end. -/
theorem Balanced.bare_append {cs : List Char} (h : Balanced cs) {more : List Char}
    (hmore : more.head? ≠ some '\x7b') : bare (cs ++ more) = bare cs ++ bare more := by
  induction h generalizing more with
  | nil => rw [bare, List.nil_append, List.nil_append]
  | @plain c rest hc hbrace hrest ih =>
    have hquote : c ≠ '\'' := fun heq => hc (by simp [heq])
    rw [List.cons_append, bare_cons hquote hbrace, bare_cons hquote, ih hmore, List.cons_append]
    intro hdollar
    rw [List.head?_append]
    cases hrest : rest.head? with
    | none => exact hmore
    | some d => exact fun h => hbrace hdollar (hrest.trans h)
  | @quoted inside rest hinside hrest ih =>
    rw [bare_quoted hinside, List.cons_append, List.append_assoc, List.cons_append,
      bare_quoted hinside, ih hmore]
  | @reference inside rest hinside hrest ih =>
    rw [bare_reference hinside, List.cons_append, List.cons_append, List.append_assoc,
      List.cons_append, bare_reference hinside, ih hmore]
  | @nested inside rest hinside hrest ihinside ihrest =>
    have hopen (tail : List Char) :
        bare ('(' :: (inside ++ ')' :: tail)) = '(' :: (bare inside ++ ')' :: bare tail) := by
      rw [bare_open, ihinside (by simp), bare_close]
    rw [List.cons_append, List.append_assoc, List.cons_append, hopen, hopen, ihrest hmore]
    simp

/-- **Balanced texts are level.** -/
theorem Balanced.level {cs : List Char} (h : Balanced cs) : Level cs := by
  unfold Level
  induction h with
  | nil => rw [bare]; rfl
  | @plain c rest hc hbrace hrest ih =>
    simp only [List.mem_cons, List.not_mem_nil, or_false, not_or] at hc
    rw [bare_cons hc.1 hbrace, List.count_cons_of_ne hc.2.1, List.count_cons_of_ne hc.2.2, ih]
  | @quoted inside rest hinside hrest ih => rwa [bare_quoted hinside]
  | @reference inside rest hinside hrest ih => rwa [bare_reference hinside]
  | @nested inside rest hinside hrest ihinside ihrest =>
    rw [bare_open, hinside.bare_append (by simp), bare_close]
    simp only [List.count_cons, List.count_append, ihinside, ihrest, beq_self_eq_true, if_true]
    simp
    omega

/-! ## The search overlooks nothing -/

/-- How a text starts: with a parenthesis, with a balanced piece that a search passes over as a
whole, or with a mark that hides all that follows. -/
inductive Start : List Char → Prop
  | opening (rest : List Char) : Start ('(' :: rest)
  | closing (rest : List Char) : Start (')' :: rest)
  | piece (lead : List Char) (c : Char) (rest : List Char) (hlead : Balanced (lead ++ [c]))
      (hdollar : c = '$' → rest.head? ≠ some '\x7b')
      (hcount : ∀ d ∈ ['(', ')'], (bare (lead ++ c :: rest)).count d = (bare rest).count d) :
      Start (lead ++ c :: rest)
  | hidden {cs : List Char} (hbare : bare cs = []) : Start cs

/-- Every text starts in one of these ways. -/
theorem start (cs : List Char) : Start cs := by
  cases cs with
  | nil => exact .hidden (by rw [bare])
  | cons c rest =>
    by_cases hspecial : c ∈ ['\'', '(', ')']
    · simp only [List.mem_cons, List.not_mem_nil, or_false] at hspecial
      obtain rfl | rfl | rfl := hspecial
      · by_cases hclosed : '\'' ∈ rest
        · obtain ⟨text, rest, rfl, htext⟩ := List.eq_append_cons_of_mem hclosed
          exact .piece ('\'' :: text) '\'' rest (.quoted htext .nil) nofun fun d _ =>
            congrArg (List.count d) (bare_quoted htext)
        · exact .hidden (bare_quoted_open hclosed)
      · exact .opening rest
      · exact .closing rest
    · by_cases hopens : c = '$' ∧ rest.head? = some '\x7b'
      · obtain ⟨rfl, hhead⟩ := hopens
        obtain ⟨rest, rfl⟩ := List.head?_eq_some_iff.1 hhead
        by_cases hclosed : '\x7d' ∈ rest
        · obtain ⟨name, rest, rfl, hname⟩ := List.eq_append_cons_of_mem hclosed
          exact .piece ('$' :: '\x7b' :: name) '\x7d' rest (.reference hname .nil) nofun fun d _ =>
            congrArg (List.count d) (bare_reference hname)
        · exact .hidden (bare_reference_open hclosed)
      · have hdollar : c = '$' → rest.head? ≠ some '\x7b' := fun h h' => hopens ⟨h, h'⟩
        refine .piece [] c rest (.plain hspecial nofun .nil) hdollar fun d hd => ?_
        have hquote : c ≠ '\'' := fun h => hspecial (by simp [h])
        have hne : c ≠ d := fun h => hspecial (List.mem_cons_of_mem _ (h ▸ hd))
        exact (congrArg (List.count d) (bare_cons hquote hdollar)).trans (List.count_cons_of_ne hne)

/-- What a scan passes over decides whether the next character follows a dollar sign. -/
theorem Scan.Leads.afterDollar {s t : Scan} {lead : List Char} {c : Char}
    (h : s.Leads (lead ++ [c]) t) : t.afterDollar = (c == '$') := by
  rw [← h.2, Scan.after_append]
  rfl

/-- A search that passes over the start of a text stops where it stops in the rest. -/
theorem Scan.Leads.exists_closing? {s t : Scan} {lead cs : List Char} {bound : Nat}
    (h : s.Leads lead t)
    (hcs : ∃ inside tail, closing? t cs = some (inside, tail) ∧ inside.length < bound) :
    ∃ inside tail, closing? s (lead ++ cs) = some (inside, tail) ∧
      inside.length < bound + lead.length := by
  obtain ⟨inside, tail, hinside, hlt⟩ := hcs
  refine ⟨lead ++ inside, tail, ?_, by simp only [List.length_append]; omega⟩
  rw [closing?_append h.1, h.2, hinside, Option.map_some]

/-- **A part of a text that closes more parentheses than are open** makes the search stop within it.
The induction is on the length of the part, since balanced pieces are passed over as a whole. -/
theorem exists_closing?_of_count {n : Nat} {b : Bool} {part : List Char} (more : List Char)
    (hb : b = true → part.head? ≠ some '\x7b')
    (hcount : (bare part).count ')' = (bare part).count '(' + (n + 1)) :
    ∃ inside tail, closing? (.shallow (n + 1) b) (part ++ more) = some (inside, tail) ∧
      inside.length < part.length := by
  induction hlen : part.length using Nat.strongRecOn generalizing n b part with
  | ind len ih =>
    subst hlen
    cases start part with
    | opening rest =>
      have hleads : (Scan.shallow (n + 1) b).Leads ['('] (.shallow (n + 2) false) :=
        .cons (by simp [Scan.closes]) ⟨trivial, Scan.shallow_step_open⟩
      rw [bare_open, List.count_cons_of_ne (by decide : '(' ≠ ')'), List.count_cons_self] at hcount
      exact hleads.exists_closing?
        (ih rest.length (by simp) (absurd · Bool.false_ne_true) (by omega) rfl)
    | closing rest =>
      rw [bare_close, List.count_cons_of_ne (by decide : ')' ≠ '('), List.count_cons_self] at hcount
      cases n with
      | zero => exact ⟨[], rest ++ more, if_pos (Scan.shallow_closes.2 ⟨rfl, rfl⟩), by simp⟩
      | succ n =>
        have hleads : (Scan.shallow (n + 2) b).Leads [')'] (.shallow (n + 1) false) :=
          .cons (Bool.eq_false_iff.2 fun h => absurd (Scan.shallow_closes.1 h).2 (by simp))
            ⟨trivial, Scan.shallow_step_close⟩
        exact hleads.exists_closing?
          (ih rest.length (by simp) (absurd · Bool.false_ne_true) (by omega) rfl)
    | piece lead c rest hlead hdollar hsame =>
      rw [hsame '(' (by decide), hsame ')' (by decide)] at hcount
      rw [List.append_cons, List.head?_append_of_ne_nil _ (by simp)] at hb
      obtain ⟨b', hleads⟩ := hlead.leads (n := n) hb
      have hb' : b' = true → rest.head? ≠ some '\x7b' := fun h =>
        hdollar (beq_iff_eq.1 (hleads.afterDollar.symm.trans h))
      rw [List.append_cons, List.append_assoc, List.length_append,
        Nat.add_comm (lead ++ [c]).length]
      exact hleads.exists_closing? (ih rest.length (by simp; omega) hb' hcount rfl)
    | hidden hbare =>
      rw [hbare] at hcount
      cases hcount

/-! ## The shortest level part -/

/-- A level part at the start of a text that is not empty and as short as such a part can be. -/
structure ShortestLevel (cs part : List Char) : Prop where
  nonempty : part ≠ []
  starts : part <+: cs
  level : Level part
  shortest : ∀ p ≠ [], p <+: cs → Level p → part.length ≤ p.length

variable {cs inside tail part : List Char}

/-- A level part holds the end of the call. -/
theorem exists_closing?_of_level (hne : part ≠ []) (hpart : part <+: '(' :: cs)
    (hlevel : Level part) :
    ∃ inside tail, closing? {} cs = some (inside, tail) ∧ inside.length + 2 ≤ part.length := by
  obtain ⟨d, rest, rfl⟩ := List.exists_cons_of_ne_nil hne
  obtain ⟨rfl, more, rfl⟩ := List.cons_prefix_cons.1 hpart
  rw [Level, bare_open, List.count_cons_self,
    List.count_cons_of_ne (by decide : '(' ≠ ')')] at hlevel
  obtain ⟨inside, tail, hclosing, hlt⟩ :=
    exists_closing?_of_count (n := 0) (b := false) more nofun hlevel.symm
  exact ⟨inside, tail, hclosing, Nat.succ_le_succ hlt⟩

/-- **The search stops behind the shortest level part.** -/
theorem shortestLevel_of_closing? (h : closing? {} cs = some (inside, tail)) :
    ShortestLevel ('(' :: cs) ('(' :: (inside ++ [')'])) where
  nonempty := List.cons_ne_nil _ _
  starts := by
    rw [eq_append_of_closing? h]
    exact ⟨tail, by simp⟩
  level := (Balanced.nested (closing?_eq_some_iff.1 h).2 .nil).level
  shortest p hne hp hlevel := by
    obtain ⟨inside', tail', h', hle⟩ := exists_closing?_of_level hne hp hlevel
    obtain ⟨rfl, rfl⟩ := Prod.mk.inj (Option.some.inj (h.symm.trans h'))
    rw [List.length_cons, List.length_append]
    exact hle

/-- **Where the search does not stop** there is no level part. -/
theorem not_level_of_closing? (h : closing? {} cs = none) (hne : part ≠ [])
    (hpart : part <+: '(' :: cs) : ¬ Level part := by
  intro hlevel
  obtain ⟨inside, tail, h', -⟩ := exists_closing?_of_level hne hpart hlevel
  cases h.symm.trans h'

end Scenario.Resolve
