import Scenario.Proofs.Resolve.Calls

/-!
# Settled texts

A text in which nothing is left to be resolved comes out as it went in.  This sounds as if it was
said of texts without a dollar sign and without the marker of function calls, but far more texts are
meant: a dollar sign on its own stands for itself, so does a marker that goes on a word, and so does
the start of a call whose parenthesis is never closed.  The last one is where the scan has to look
ahead to the end of the text before it can put out a single letter, and what it looks for there is
said without a scan: a text between parentheses with quotes, references and further parentheses
that are all complete.

## What is here

* `Balanced` is the grammar of what can stand between the parentheses of a call, and
  `closing?_eq_some_iff` says that the scan for the end of a call finds just that.
* `ClosedCall` is the text of a call behind its marker, and `call?_eq_none_iff` says where there is
  no call.
* `Settled` says of a text that there is no start of a reference in it, and no call at the start of
  a word.  `planOf_eq_literals_iff` — these are the texts that are read as letters and nothing else.
* `resolve_settled` — the main result: a settled text resolves to itself, so resolving a second time
  adds nothing where the first result is settled.
-/

set_option autoImplicit false

namespace Scenario

open Text

namespace Resolve

/-! ## What stands between parentheses -/

/-- Texts with quotes, references and parentheses that are all complete.  No parenthesis counts in
quotes or in a reference, no quote counts in a reference, and no brace counts in quotes. -/
inductive Balanced : List Char → Prop
  | nil : Balanced []
  /-- A character that opens nothing and closes nothing. -/
  | plain {c : Char} {rest : List Char} (hc : c ∉ ['\'', '(', ')'])
      (hbrace : c = '$' → rest.head? ≠ some '\x7b') (hrest : Balanced rest) : Balanced (c :: rest)
  | quoted {inside rest : List Char} (hinside : '\'' ∉ inside) (hrest : Balanced rest) :
      Balanced ('\'' :: (inside ++ '\'' :: rest))
  | reference {inside rest : List Char} (hinside : '\x7d' ∉ inside) (hrest : Balanced rest) :
      Balanced ('$' :: '\x7b' :: (inside ++ '\x7d' :: rest))
  | nested {inside rest : List Char} (hinside : Balanced inside) (hrest : Balanced rest) :
      Balanced ('(' :: (inside ++ ')' :: rest))

/-- Texts that close some parentheses and are balanced before, between and behind them. -/
def Unwinds : Nat → List Char → Prop
  | 0, cs => Balanced cs
  | n + 1, cs => ∃ inside rest, cs = inside ++ ')' :: rest ∧ Balanced inside ∧ Unwinds n rest

namespace Unwinds

variable {n : Nat} {cs : List Char}

/-- What can be put in front of a balanced text can be put in front of one that closes some
parentheses. -/
theorem append (h : Unwinds n cs) (lead : List Char)
    (hlead : ∀ inside rest, cs = inside ++ rest → Balanced inside → Balanced (lead ++ inside)) :
    Unwinds n (lead ++ cs) := by
  cases n with
  | zero => exact hlead cs [] (List.append_nil cs).symm h
  | succ n =>
    obtain ⟨inside, rest, rfl, hinside, hrest⟩ := h
    exact ⟨lead ++ inside, rest, (List.append_assoc ..).symm, hlead _ _ rfl hinside, hrest⟩

theorem plain {c : Char} (hc : c ∉ ['\'', '(', ')'])
    (hbrace : c = '$' → cs.head? ≠ some '\x7b') (h : Unwinds n cs) : Unwinds n (c :: cs) := by
  refine h.append [c] fun inside rest hcs hinside => ?_
  refine .plain hc (fun hdollar hhead => hbrace hdollar ?_) hinside
  change inside.head? = some '\x7b' at hhead
  rw [hcs, List.head?_append, hhead]
  rfl

theorem quoted {inside : List Char} (hinside : '\'' ∉ inside) (h : Unwinds n cs) :
    Unwinds n ('\'' :: (inside ++ '\'' :: cs)) := by
  have hquoted := h.append (Resolve.quoted inside) fun rest _ _ hrest => by
    simpa [Resolve.quoted] using Balanced.quoted hinside hrest
  simpa [Resolve.quoted] using hquoted

theorem reference {inside : List Char} (hinside : '\x7d' ∉ inside) (h : Unwinds n cs) :
    Unwinds n ('$' :: '\x7b' :: (inside ++ '\x7d' :: cs)) := by
  have hbraced := h.append (braced inside) fun rest _ _ hrest => by
    simpa [braced] using Balanced.reference hinside hrest
  simpa [braced] using hbraced

/-- An opening parenthesis takes one closing parenthesis away. -/
theorem nested (h : Unwinds (n + 1) cs) : Unwinds n ('(' :: cs) := by
  obtain ⟨inside, rest, rfl, hinside, hrest⟩ := h
  have hnested := hrest.append ('(' :: (inside ++ [')'])) fun after _ _ hafter => by
    simpa using Balanced.nested hinside hafter
  simpa using hnested

/-- A closing parenthesis adds one. -/
theorem closed (h : Unwinds n cs) : Unwinds (n + 1) (')' :: cs) := ⟨[], cs, rfl, .nil, h⟩

end Unwinds

/-! ## The search for the end of a call -/

theorem closing?_cons_eq_some {s : Scan} {c : Char} {cs inside tail : List Char}
    (h : closing? s (c :: cs) = some (inside, tail)) :
    (s.closes c ∧ inside = [] ∧ tail = cs) ∨
      (s.closes c = false ∧ ∃ rest, inside = c :: rest ∧
        closing? (s.step c) cs = some (rest, tail)) := by
  rw [closing?] at h
  split at h
  · next hcloses =>
    obtain ⟨rfl, rfl⟩ : [] = inside ∧ cs = tail := by simpa using h
    exact .inl ⟨hcloses, rfl, rfl⟩
  · next hcloses =>
    obtain ⟨⟨rest, more⟩, hrest, heq⟩ := Option.map_eq_some_iff.1 h
    obtain ⟨rfl, rfl⟩ : c :: rest = inside ∧ more = tail := by simpa using heq
    exact .inr ⟨by simpa using hcloses, rest, rfl, hrest⟩

/-- The text is cut at a closing parenthesis. -/
theorem eq_append_of_closing? {s : Scan} {cs inside tail : List Char}
    (h : closing? s cs = some (inside, tail)) : cs = inside ++ ')' :: tail := by
  induction cs generalizing s inside with
  | nil => cases h
  | cons c cs ih =>
    obtain ⟨hcloses, rfl, rfl⟩ | ⟨-, rest, rfl, hrest⟩ := closing?_cons_eq_some h
    · obtain ⟨⟨rfl, -⟩, -⟩ : (c = ')' ∧ _) ∧ _ := by simpa [Scan.closes] using hcloses
      rfl
    · rw [List.cons_append, ← ih hrest]

/-- Where all characters but one are ignored, the search goes on behind the first of these. -/
theorem exists_of_closing?_ignores {s : Scan} {d : Char} {cs inside tail : List Char}
    (hd : d ≠ ')') (hignores : ∀ c ≠ d, ∀ b, ({ s with afterDollar := b } : Scan).Ignores c)
    (h : closing? s cs = some (inside, tail)) :
    ∃ lead more rest b, inside = lead ++ d :: rest ∧ d ∉ lead ∧ more.length < cs.length ∧
      closing? (({ s with afterDollar := b } : Scan).step d) more = some (rest, tail) := by
  induction cs generalizing s inside with
  | nil => cases h
  | cons c cs ih =>
    obtain rfl | hc := eq_or_ne c d
    · obtain ⟨hcloses, -⟩ | ⟨-, rest, rfl, hrest⟩ := closing?_cons_eq_some h
      · simp [Scan.closes, hd] at hcloses
      · exact ⟨[], cs, rest, s.afterDollar, rfl, List.not_mem_nil, by simp, hrest⟩
    · obtain ⟨hno, hstep⟩ := hignores c hc s.afterDollar
      obtain ⟨hcloses, -⟩ | ⟨-, rest, rfl, hrest⟩ := closing?_cons_eq_some h
      · exact absurd hcloses (by rw [hno]; exact Bool.false_ne_true)
      · rw [hstep] at hrest
        obtain ⟨lead, more, rest, b, rfl, hlead, hlt, hmore⟩ :=
          ih (s := { s with afterDollar := c == '$' }) hignores hrest
        refine ⟨c :: lead, more, rest, b, rfl, ?_, Nat.lt_succ_of_lt hlt, hmore⟩
        exact fun hmem => (List.mem_cons.1 hmem).elim hc.symm hlead

/-- A scan that nothing hides, with some parentheses open. -/
def Scan.shallow (depth : Nat) (afterDollar : Bool) : Scan :=
  { depth := depth, afterDollar := afterDollar }

namespace Scan

variable {n : Nat} {b : Bool} {c : Char}

theorem shallow_closes : (shallow (n + 1) b).closes c = true ↔ c = ')' ∧ n = 0 := by
  simp [shallow, closes, bare]

theorem shallow_step_quote : (shallow n b).step '\'' = { depth := n, quoted := true } := by
  simp [shallow, step]

theorem shallow_step_open : (shallow n b).step '(' = shallow (n + 1) false := by
  simp [shallow, step, bare]

theorem shallow_step_close : (shallow (n + 1) b).step ')' = shallow n false := by
  simp [shallow, step, bare]

theorem shallow_step_brace :
    (shallow n true).step '\x7b' = { depth := n, inReference := true } := by
  simp [shallow, step]

theorem shallow_step_plain (hc : c ∉ ['\'', '(', ')']) (hbrace : b = true → c ≠ '\x7b') :
    (shallow n b).step c = shallow n (c == '$') := by
  simp only [List.mem_cons, List.not_mem_nil, or_false, not_or] at hc
  have hopen : ¬ (c = '\x7b' ∧ b = true) := fun h => hbrace h.2 h.1
  simp [shallow, step, bare, hc, hopen]

end Scan

section Closing

variable {n : Nat} {b : Bool} {cs inside tail : List Char}

/-- A search in quotes goes on behind the next quote. -/
theorem exists_of_closing?_quoted
    (h : closing? { depth := n, quoted := true } cs = some (inside, tail)) :
    ∃ text more rest, inside = text ++ '\'' :: rest ∧ '\'' ∉ text ∧ more.length < cs.length ∧
      closing? (.shallow n false) more = some (rest, tail) := by
  obtain ⟨text, more, rest, b, rfl, htext, hlt, hmore⟩ :=
    exists_of_closing?_ignores (by decide) (fun c hc b => Scan.ignores_of_quoted rfl rfl hc) h
  exact ⟨text, more, rest, rfl, htext, hlt, by simpa [Scan.step, Scan.shallow] using hmore⟩

/-- A search in a reference goes on behind the next closing brace. -/
theorem exists_of_closing?_inReference
    (h : closing? { depth := n, inReference := true } cs = some (inside, tail)) :
    ∃ name more rest, inside = name ++ '\x7d' :: rest ∧ '\x7d' ∉ name ∧ more.length < cs.length ∧
      closing? (.shallow n false) more = some (rest, tail) := by
  obtain ⟨name, more, rest, b, rfl, hname, hlt, hmore⟩ := exists_of_closing?_ignores (d := '\x7d')
    (by decide) (fun c hc b => Scan.ignores_of_inReference rfl rfl hc) h
  exact ⟨name, more, rest, rfl, hname, hlt, by simpa [Scan.step, Scan.shallow] using hmore⟩

/-- A search that has just met a dollar sign goes on in a reference at an opening brace. -/
theorem closing?_of_opening_brace (h : closing? (.shallow n true) cs = some (inside, tail))
    (hhead : inside.head? = some '\x7b') :
    ∃ more rest, inside = '\x7b' :: rest ∧ more.length < cs.length ∧
      closing? { depth := n, inReference := true } more = some (rest, tail) := by
  cases cs with
  | nil => cases h
  | cons c more =>
    obtain ⟨-, rfl, -⟩ | ⟨-, rest, rfl, hrest⟩ := closing?_cons_eq_some h
    · cases hhead
    · obtain rfl : c = '\x7b' := by simpa using hhead
      rw [Scan.shallow_step_brace] at hrest
      exact ⟨more, rest, rfl, by simp, hrest⟩

/-- **What the search passes over is balanced**, but for the parentheses that were open before it.
The induction is on the length, since quotes and references are passed over as a whole. -/
theorem unwinds_of_closing? (h : closing? (.shallow (n + 1) b) cs = some (inside, tail))
    (hb : b = true → inside.head? ≠ some '\x7b') : Unwinds n inside := by
  induction hlen : cs.length using Nat.strongRecOn generalizing n b cs inside with
  | ind len ih =>
    subst hlen
    cases cs with
    | nil => cases h
    | cons c cs =>
      obtain ⟨hcloses, rfl, rfl⟩ | ⟨hno, rest, rfl, hrest⟩ := closing?_cons_eq_some h
      · obtain ⟨-, rfl⟩ := Scan.shallow_closes.1 hcloses
        exact .nil
      have ih' : ∀ {m more inner}, more.length ≤ cs.length →
          closing? (.shallow (m + 1) false) more = some (inner, tail) → Unwinds m inner :=
        fun hle h => ih _ (Nat.lt_succ_of_le hle) h nofun rfl
      by_cases hspecial : c ∈ ['\'', '(', ')']
      · simp only [List.mem_cons, List.not_mem_nil, or_false] at hspecial
        obtain rfl | rfl | rfl := hspecial
        · rw [Scan.shallow_step_quote] at hrest
          obtain ⟨text, more, rest, rfl, htext, hlt, hmore⟩ := exists_of_closing?_quoted hrest
          exact .quoted htext (ih' hlt.le hmore)
        · rw [Scan.shallow_step_open] at hrest
          exact .nested (ih' le_rfl hrest)
        · cases n with
          | zero => exact absurd (Scan.shallow_closes.2 ⟨rfl, rfl⟩) (Bool.eq_false_iff.1 hno)
          | succ n =>
            rw [Scan.shallow_step_close] at hrest
            exact .closed (ih' le_rfl hrest)
      · have hbrace : b = true → c ≠ '\x7b' := fun hb' hc => hb hb' (by simp [hc])
        rw [Scan.shallow_step_plain hspecial hbrace] at hrest
        by_cases hopens : c = '$' ∧ rest.head? = some '\x7b'
        · obtain ⟨rfl, hhead⟩ := hopens
          obtain ⟨more, rest, rfl, hlt, hmore⟩ := closing?_of_opening_brace hrest hhead
          obtain ⟨name, more', rest, rfl, hname, hlt', hmore'⟩ :=
            exists_of_closing?_inReference hmore
          exact .reference hname (ih' (hlt'.trans hlt).le hmore')
        · refine .plain hspecial (fun hc hhead => hopens ⟨hc, hhead⟩)
            (ih _ (Nat.lt_succ_self _) hrest (fun hc hhead => hopens ⟨?_, hhead⟩) rfl)
          exact beq_iff_eq.1 hc

end Closing

/-! ## The search finds what is balanced -/

/-- Whether a scan passes over a text to another scan. -/
def Scan.Leads (s : Scan) (cs : List Char) (t : Scan) : Prop := s.Passes cs ∧ s.after cs = t

namespace Scan.Leads

variable {s t u : Scan} {cs ds : List Char} {c : Char}

theorem cons (hc : s.closes c = false) (h : (s.step c).Leads cs t) : s.Leads (c :: cs) t :=
  ⟨⟨hc, h.1⟩, h.2⟩

theorem append (hcs : s.Leads cs t) (hds : t.Leads ds u) : s.Leads (cs ++ ds) u := by
  obtain ⟨hpasses, rfl⟩ := hcs
  exact ⟨passes_append.2 ⟨hpasses, hds.1⟩, after_append.trans hds.2⟩

/-- A scan that ignores all characters but one goes on behind the first of these. -/
theorem of_ignores (hcs : ∀ d ∈ cs, ∀ b, ({ s with afterDollar := b } : Scan).Ignores d)
    (hc : c ≠ ')') (ht : ∀ b, (({ s with afterDollar := b } : Scan).step c).Leads ds t) :
    s.Leads (cs ++ c :: ds) t := by
  obtain ⟨hpasses, b, hafter⟩ := passes_of_ignores hcs
  exact append ⟨hpasses, hafter⟩ (cons (by simp [closes, hc]) (ht b))

end Scan.Leads

/-- **A balanced text is passed over** however many parentheses are open, and leaves none open. -/
theorem Balanced.leads {cs : List Char} (h : Balanced cs) {n : Nat} {b : Bool}
    (hb : b = true → cs.head? ≠ some '\x7b') :
    ∃ b', (Scan.shallow (n + 1) b).Leads cs (.shallow (n + 1) b') := by
  induction h generalizing n b with
  | nil => exact ⟨b, trivial, rfl⟩
  | @plain c rest hc hbrace hrest ih =>
    have hne : c ≠ ')' := fun heq => hc (by simp [heq])
    have hstep := Scan.shallow_step_plain (n := n + 1) hc fun hb' hc' => hb hb' (by simp [hc'])
    obtain ⟨b', hleads⟩ := ih (n := n) (b := c == '$') fun hc => hbrace (beq_iff_eq.1 hc)
    exact ⟨b', .cons (by simp [Scan.closes, hne]) (by rwa [hstep])⟩
  | @quoted inside rest hinside hrest ih =>
    obtain ⟨b', hleads⟩ := ih (n := n) (b := false) fun h => absurd h Bool.false_ne_true
    refine ⟨b', .cons (by simp [Scan.closes]) ?_⟩
    rw [Scan.shallow_step_quote]
    refine .of_ignores (fun c hc b => ?_) (by decide) fun b => by
      simpa [Scan.step, Scan.shallow] using hleads
    exact Scan.ignores_of_quoted rfl rfl fun heq => hinside (heq ▸ hc)
  | @reference inside rest hinside hrest ih =>
    obtain ⟨b', hleads⟩ := ih (n := n) (b := false) fun h => absurd h Bool.false_ne_true
    refine ⟨b', .cons (by simp [Scan.closes]) (.cons (by simp [Scan.closes]) ?_)⟩
    rw [Scan.shallow_step_plain (by decide) fun _ => by decide, beq_self_eq_true,
      Scan.shallow_step_brace]
    refine .of_ignores (fun c hc b => ?_) (by decide) fun b => by
      simpa [Scan.step, Scan.shallow] using hleads
    exact Scan.ignores_of_inReference rfl rfl fun heq => hinside (heq ▸ hc)
  | @nested inside rest hinside hrest ihinside ihrest =>
    obtain ⟨b₁, hleads₁⟩ := ihinside (n := n + 1) (b := false) fun h => absurd h Bool.false_ne_true
    obtain ⟨b₂, hleads₂⟩ := ihrest (n := n) (b := false) fun h => absurd h Bool.false_ne_true
    refine ⟨b₂, .cons (by simp [Scan.closes]) ?_⟩
    rw [Scan.shallow_step_open]
    refine hleads₁.append (.cons ?_ (by rwa [Scan.shallow_step_close]))
    exact Bool.eq_false_iff.2 fun h => absurd (Scan.shallow_closes.1 h).2 (Nat.succ_ne_zero n)

/-- **The search for the end of a call finds what is balanced**, and nothing else. -/
theorem closing?_eq_some_iff {cs inside tail : List Char} :
    closing? {} cs = some (inside, tail) ↔ cs = inside ++ ')' :: tail ∧ Balanced inside := by
  constructor
  · intro h
    exact ⟨eq_append_of_closing? h, unwinds_of_closing? (n := 0) (b := false) h nofun⟩
  · rintro ⟨rfl, hinside⟩
    obtain ⟨b, hpasses, hafter⟩ := hinside.leads (n := 0) (b := false) nofun
    have hcloses : (Scan.shallow 1 b).closes ')' = true := Scan.shallow_closes.2 ⟨rfl, rfl⟩
    refine (closing?_append hpasses (')' :: tail)).trans ?_
    rw [hafter, closing?, if_pos hcloses]
    simp

/-! ## Where there is no call -/

theorem after?_eq_some_iff {lead cs rest : List Char} :
    after? lead cs = some rest ↔ cs = lead ++ rest := by
  constructor
  · intro h
    induction lead generalizing cs with
    | nil => exact Option.some.inj h
    | cons d lead ih =>
      cases cs with
      | nil => cases h
      | cons c cs =>
        rw [after?] at h
        split at h
        · next heq => rw [ih h, heq, List.cons_append]
        · cases h
  · rintro rfl
    exact after?_append lead rest

/-- **A call** is a marker with a colon, a name, and a balanced text in parentheses. -/
theorem call?_eq_some_iff {marker cs : List Char} {call : Call} :
    call? marker cs = some call ↔ cs = called marker call.name call.inside call.rest ∧
      call.name ≠ [] ∧ (∀ c ∈ call.name, isNameChar c) ∧ Balanced call.inside := by
  obtain ⟨name, inside, tail⟩ := call
  constructor
  · intro h
    unfold call? at h
    split at h
    case h_2 => cases h
    case h_1 rest hafter =>
      obtain rfl := after?_eq_some_iff.1 hafter
      split at h
      · cases h
      · next more hdrop hne =>
        split at h
        · next hclosing =>
          obtain ⟨rfl, rfl, rfl⟩ := Call.mk.inj (Option.some.inj h)
          obtain ⟨rfl, hinside⟩ := closing?_eq_some_iff.1 hclosing
          refine ⟨?_, hne, fun c => List.mem_takeWhile_imp, hinside⟩
          rw [called, ← hdrop, List.takeWhile_append_dropWhile]
        · cases h
      · cases h
  · rintro ⟨rfl, hne, hname, hinside⟩
    exact call?_of_closing? hne hname (closing?_eq_some_iff.2 ⟨rfl, hinside⟩)

/-- What makes a marker with a colon into a call: a name, and a parenthesis that is closed. -/
def ClosedCall (cs : List Char) : Prop :=
  ∃ name inside tail, cs = name ++ '(' :: (inside ++ ')' :: tail) ∧ name ≠ [] ∧
    (∀ c ∈ name, isNameChar c) ∧ Balanced inside

theorem call?_eq_none_iff {marker cs : List Char} :
    call? marker cs = none ↔ ∀ rest, cs = marker ++ ':' :: rest → ¬ ClosedCall rest := by
  rw [Option.eq_none_iff_forall_ne_some]
  constructor
  · rintro hno rest rfl ⟨name, inside, tail, rfl, hcall⟩
    exact hno ⟨name, inside, tail⟩ (call?_eq_some_iff.2 ⟨rfl, hcall⟩)
  · intro hno call hcall
    obtain ⟨rfl, hclosed⟩ := call?_eq_some_iff.1 hcall
    exact hno _ rfl ⟨call.name, call.inside, call.rest, rfl, hclosed⟩

theorem callAfter?_eq_none_iff {marker cs : List Char} {before : Option Char} :
    callAfter? marker before cs = none ↔
      ∀ rest, cs = marker ++ ':' :: rest → before.any isWordChar ∨ ¬ ClosedCall rest := by
  rw [callAfter?, atWordStart]
  cases before.any isWordChar with
  | false => simp [call?_eq_none_iff]
  | true => simp

theorem reference?_eq_none_iff {cs : List Char} :
    reference? cs = none ↔ ¬ ['$', '\x7b'] <+: cs := by
  unfold reference?
  split
  · simp
  · next hno =>
    refine ⟨fun _ => ?_, fun _ => rfl⟩
    rintro ⟨rest, rfl⟩
    exact hno rest rfl

/-! ## Letters and nothing else -/

theorem plan_cons_eq_literal_iff {marker : List Char} {before : Option Char} {c : Char}
    {rest : List Char} {p : List Segment} :
    plan marker before (c :: rest) = .literal c :: p ↔
      (reference? (c :: rest) = none ∧ callAfter? marker before (c :: rest) = none) ∧
        plan marker (some c) rest = p := by
  cases hr : reference? (c :: rest) with
  | some found =>
    cases found with
    | none => simp [plan_unterminated hr]
    | some parts => simp [plan_reference hr]
  | none =>
    cases hc : callAfter? marker before (c :: rest) with
    | some call => simp [plan_call hr hc]
    | none => simp [plan_literal hr hc]

/-- What stands before the rest of a text stands before it in a longer text. -/
theorem getLast?_cons_or (c : Char) (left : List Char) (before : Option Char) :
    (c :: left).getLast?.or before = left.getLast?.or (some c) := by
  rw [List.getLast?_cons]
  cases left.getLast? <;> rfl

/-- A text is read as letters just if neither a reference nor a call starts anywhere in it. -/
theorem plan_eq_literals_iff {marker : List Char} {before : Option Char} {cs : List Char} :
    plan marker before cs = cs.map .literal ↔
      ∀ left right, cs = left ++ right →
        reference? right = none ∧ callAfter? marker (left.getLast?.or before) right = none := by
  induction cs generalizing before with
  | nil =>
    refine ⟨fun _ left right h => ?_, fun _ => plan_nil⟩
    obtain ⟨rfl, rfl⟩ := List.append_eq_nil_iff.1 h.symm
    exact ⟨rfl, callAfter?_eq_none_iff.2 fun rest h => absurd h (by simp)⟩
  | cons c rest ih =>
    rw [List.map_cons, plan_cons_eq_literal_iff, ih]
    constructor
    · rintro ⟨hfirst, hrest⟩ (_ | ⟨d, left⟩) right heq
      · rwa [← show c :: rest = right from heq]
      · obtain ⟨rfl, rfl⟩ := List.cons.inj heq
        rw [getLast?_cons_or]
        exact hrest left right rfl
    · intro h
      refine ⟨h [] (c :: rest) rfl, fun left right heq => ?_⟩
      rw [← getLast?_cons_or c left before]
      exact h (c :: left) right (congrArg (c :: ·) heq)

end Resolve

open Resolve

/-- Whether nothing is left to be resolved in a text: no reference starts in it, and wherever a
marker with a colon stands, it goes on a word or is no call. -/
structure Settled (marker text : String) : Prop where
  noReference : ¬ ['$', '\x7b'] <:+: text.toList
  noCall : ∀ left right, text.toList = left ++ (marker.toList ++ ':' :: right) →
    left.getLast?.any isWordChar ∨ ¬ ClosedCall right

/-- **Settled texts are those that are read as letters** and nothing else. -/
theorem planOf_eq_literals_iff {marker text : String} :
    planOf marker text = text.toList.map .literal ↔ Settled marker text := by
  rw [planOf, plan_eq_literals_iff]
  constructor
  · intro h
    refine ⟨?_, fun left right heq => ?_⟩
    · rintro ⟨left, right, heq⟩
      have hnone := (h left _ (heq.symm.trans (List.append_assoc ..))).1
      exact reference?_eq_none_iff.1 hnone (List.prefix_append ..)
    · have hnone := (h left _ heq).2
      rw [Option.or_none] at hnone
      exact callAfter?_eq_none_iff.1 hnone right rfl
  · rintro ⟨hreference, hcall⟩ left right heq
    rw [Option.or_none]
    refine ⟨reference?_eq_none_iff.2 fun h => hreference ?_, callAfter?_eq_none_iff.2 ?_⟩
    · exact heq ▸ h.isInfix.trans (List.suffix_append left right).isInfix
    · rintro rest rfl
      exact hcall left rest heq

/-- Letters stand for themselves. -/
theorem Segment.evalAll_literals (lib : Library) (store : Store) (cs : List Char) :
    Segment.evalAll lib store (cs.map .literal) = .ok (String.ofList cs) := by
  induction cs with
  | nil => rfl
  | cons c cs ih =>
    rw [List.map_cons, Segment.evalAll, Segment.eval, ih]
    exact congrArg Except.ok (by simp)

/-- **Settled texts are fixed points.**  A text that is settled resolves to itself under every
store, so a second pass over a result that is settled changes nothing, whatever the variables have
become in the meantime. -/
theorem resolve_settled {lib : Library} {text : String} (h : Settled lib.marker text)
    (store : Store) :
    resolve lib store text = .ok text ∧
      ∀ (earlier : Store) (first : String), resolve lib earlier first = .ok text →
        (resolve lib earlier first >>= resolve lib store) = resolve lib earlier first := by
  have hfixed : resolve lib store text = .ok text := by
    rw [resolve_eq_evalAll, planOf_eq_literals_iff.2 h, Segment.evalAll_literals,
      String.ofList_toList]
  refine ⟨hfixed, fun earlier first hfirst => ?_⟩
  rw [hfirst]
  exact hfixed

/-- A dollar sign on its own, a call that goes on a word, a marker without a name, and a call whose
parenthesis stands in quotes that are never closed, with a letter of three bytes at the end of all.
The text comes out as it is, and where it is the value of a variable it is not read again. -/
theorem resolve_settled_mixed :
    let text := "$5, x_core:a('b') core:(c) core:f(d, ')日"
    let store := Store.ofFields [("t", .string text)]
    Settled Library.builtin.marker text ∧ resolve Library.builtin store text = .ok text ∧
      (resolve Library.builtin store "$\x7bt\x7d" >>= resolve Library.builtin store) =
        resolve Library.builtin store "$\x7bt\x7d" := by
  intro text store
  have hsettled : Settled Library.builtin.marker text := planOf_eq_literals_iff.1 (by cbv)
  obtain ⟨hfixed, htwice⟩ := resolve_settled hsettled store
  exact ⟨hsettled, hfixed, htwice store "$\x7bt\x7d" (by cbv)⟩

end Scenario
