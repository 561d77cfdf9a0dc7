import Mathlib
import Scenario.Text.Words

/-!
# Words that are replaced

A word is not an occurrence of its letters: `i` stands in `i<=i_max` once, not twice.  What stands
in a text is settled by cutting the text at every character that belongs to no word.  Between two of
them there is a run of the others, which cannot be made longer, and which may be empty.  A text has
just one such layout, and the word is replaced in it run by run; an empty run is no word, even where
the word that is looked for is empty.

The replacement is a text of its own.  It may be empty, or begin with a sign, so it need not be a
run, and the layout of the new text may be another one.  Yet no word arises at the seams, since
there is a separator or an end of the text on either side of each replacement.

## What is here

* `substituteWord_append_cons` — a character that belongs to no word keeps apart what is before and
  behind it.
* `Layout` is a text cut into its runs, and `existsUnique_layout` says that there is one for each
  text.
* `StandsIn` says of a word that it stands alone somewhere in a text, and `Layout.standsIn_text_iff`
  that the words that do so are the runs of the layout.
* `substituteWord_text` — the word is replaced run by run.
* `substituteWord_eq_self_iff` — replacing a word leaves a text as it is just if the word does not
  stand in it, or is replaced by itself.
* `standsIn_substituteWord_iff` — which words stand in the new text.
* `whole_words_replaced` — the main result: the layout, and the laws that follow from it.
-/

set_option autoImplicit false

namespace Scenario.Text

variable {word replacement cs ds : List Char}

/-! ## What keeps words apart -/

theorem substituteFrom_append_cons {c : Char} (hc : isWordChar c = false)
    (token cs ds : List Char) :
    substituteFrom word replacement token (cs ++ c :: ds) =
      substituteFrom word replacement token cs ++ c :: substituteFrom word replacement [] ds := by
  induction cs generalizing token with
  | nil => simp [substituteFrom, hc]
  | cons d cs ih =>
    rw [List.cons_append, substituteFrom, substituteFrom, ih, ih]
    split <;> simp

/-- **A character that belongs to no word** keeps apart what is before and behind it. -/
theorem substituteWord_append_cons {c : Char} (hc : isWordChar c = false) (cs ds : List Char) :
    substituteWord word replacement (cs ++ c :: ds) =
      substituteWord word replacement cs ++ c :: substituteWord word replacement ds :=
  substituteFrom_append_cons hc [] cs ds

theorem substituteWord_cons {c : Char} (hc : isWordChar c = false) (cs : List Char) :
    substituteWord word replacement (c :: cs) = c :: substituteWord word replacement cs :=
  substituteWord_append_cons hc [] cs

/-- Between two texts no word is replaced that goes from one into the other, if the first one ends
or the second one begins with a character that belongs to no word. -/
theorem substituteWord_append (h : (∀ c ∈ cs.getLast?, isWordChar c = false) ∨
    ∀ c ∈ ds.head?, isWordChar c = false) :
    substituteWord word replacement (cs ++ ds) =
      substituteWord word replacement cs ++ substituteWord word replacement ds := by
  have hnil : substituteWord word replacement [] = [] := rfl
  obtain hcs | hds := h
  · obtain rfl | ⟨cs, c, rfl⟩ := List.eq_nil_or_concat' cs
    · rfl
    have hc : isWordChar c = false := hcs c (by simp)
    rw [List.append_assoc, List.singleton_append, substituteWord_append_cons hc,
      substituteWord_append_cons hc, hnil, List.append_assoc, List.singleton_append]
  · cases ds with
    | nil => rw [hnil, List.append_nil, List.append_nil]
    | cons d ds =>
      have hd : isWordChar d = false := hds d rfl
      rw [substituteWord_append_cons hd, substituteWord_cons hd]

/-- Where there are no words none is replaced. -/
theorem substituteWord_of_no_words (h : ∀ c ∈ cs, isWordChar c = false) :
    substituteWord word replacement cs = cs := by
  induction cs with
  | nil => rfl
  | cons c cs ih =>
    rw [substituteWord_cons (h c List.mem_cons_self),
      ih fun d hd => h d (List.mem_cons_of_mem c hd)]

/-! ## Layouts -/

/-- Characters that words consist of, one behind the other. -/
abbrev Run := { cs : List Char // ∀ c ∈ cs, isWordChar c }

/-- A character that belongs to no word. -/
abbrev Separator := { c : Char // isWordChar c = false }

/-- A text that is cut at its separators: a run in front of each of them, and one at the end. -/
inductive Layout where
  | last (run : Run)
  | next (run : Run) (separator : Separator) (rest : Layout)

namespace Layout

/-- The separators where they are, and between them what is made of the runs. -/
def textWith (f : Run → List Char) : Layout → List Char
  | last run => f run
  | next run separator rest => f run ++ separator.1 :: rest.textWith f

/-- The text that has this layout. -/
def text (layout : Layout) : List Char := layout.textWith Subtype.val

/-- The runs from left to right. -/
def runs : Layout → List Run
  | last run => [run]
  | next run _ rest => run :: rest.runs

/-- The layout with one more character in front of its first run. -/
def grow (c : Char) (hc : isWordChar c) : Layout → Layout
  | last run => last ⟨c :: run.1, List.forall_mem_cons.2 ⟨hc, run.2⟩⟩
  | next run separator rest =>
    next ⟨c :: run.1, List.forall_mem_cons.2 ⟨hc, run.2⟩⟩ separator rest

/-- Cuts a text. -/
def ofText : List Char → Layout
  | [] => last ⟨[], List.forall_mem_nil _⟩
  | c :: cs =>
    if hc : isWordChar c then (ofText cs).grow c hc
    else next ⟨[], List.forall_mem_nil _⟩ ⟨c, eq_false_of_ne_true hc⟩ (ofText cs)

theorem text_grow {c : Char} (hc : isWordChar c) (layout : Layout) :
    (layout.grow c hc).text = c :: layout.text := by
  cases layout <;> rfl

theorem text_ofText (cs : List Char) : (ofText cs).text = cs := by
  induction cs with
  | nil => rfl
  | cons c cs ih =>
    rw [ofText]
    split
    · rw [text_grow, ih]
    · exact congrArg (c :: ·) ih

theorem ofText_run (run : Run) : ofText run.1 = last run := by
  obtain ⟨cs, hcs⟩ := run
  induction cs with
  | nil => rfl
  | cons c cs ih =>
    obtain ⟨hc, hcs'⟩ := List.forall_mem_cons.1 hcs
    rw [ofText, dif_pos hc, ih hcs', grow]

theorem ofText_run_append_cons (run : Run) (separator : Separator) (rest : List Char) :
    ofText (run.1 ++ separator.1 :: rest) = next run separator (ofText rest) := by
  obtain ⟨cs, hcs⟩ := run
  induction cs with
  | nil => exact dif_neg (ne_true_of_eq_false separator.2)
  | cons c cs ih =>
    obtain ⟨hc, hcs'⟩ := List.forall_mem_cons.1 hcs
    rw [List.cons_append, ofText, dif_pos hc, ih hcs', grow]

theorem ofText_text (layout : Layout) : ofText layout.text = layout := by
  induction layout with
  | last run => exact ofText_run run
  | next run separator rest ih =>
    rw [text, textWith, ofText_run_append_cons, ← text, ih]

end Layout

/-- **A text has just one layout.** -/
theorem existsUnique_layout (cs : List Char) : ∃! layout : Layout, layout.text = cs :=
  ⟨.ofText cs, Layout.text_ofText cs, fun layout h => h ▸ (layout.ofText_text).symm⟩

/-! ## Texts with something in place of their runs -/

namespace Layout

variable {f g : Run → List Char}

theorem length_textWith_le (h : ∀ run, (f run).length ≤ (g run).length) (layout : Layout) :
    (layout.textWith f).length ≤ (layout.textWith g).length := by
  induction layout with
  | last run => exact h run
  | next run separator rest ih =>
    simp only [textWith, List.length_append, List.length_cons]
    exact Nat.add_le_add (h run) (Nat.succ_le_succ ih)

/-- Nothing can be made up for from one run to another, if none of them gets shorter. -/
theorem textWith_eq_iff (h : ∀ run, (f run).length ≤ (g run).length) (layout : Layout) :
    layout.textWith f = layout.textWith g ↔ ∀ run ∈ layout.runs, f run = g run := by
  induction layout with
  | last run => simp [textWith, runs]
  | next run separator rest ih =>
    rw [runs, List.forall_mem_cons, ← ih, textWith, textWith]
    constructor
    · intro heq
      have hlength := congrArg List.length heq
      have hrest := rest.length_textWith_le h
      simp only [List.length_append, List.length_cons] at hlength
      obtain ⟨hrun, hbehind⟩ := List.append_inj heq (Nat.le_antisymm (h run) (by omega))
      exact ⟨hrun, (List.cons.inj hbehind).2⟩
    · rintro ⟨hrun, hrest⟩
      rw [hrun, hrest]

end Layout

/-! ## The words that stand in a text -/

/-- Whether a word stands alone somewhere in a text: it consists of characters that words consist
of, and neither before nor behind it there is one more of them. -/
def StandsIn (word cs : List Char) : Prop :=
  ∃ left right, cs = left ++ (word ++ right) ∧ word ≠ [] ∧ (∀ c ∈ word, isWordChar c) ∧
    (∀ c ∈ left.getLast?, isWordChar c = false) ∧ ∀ c ∈ right.head?, isWordChar c = false

theorem StandsIn.append_cons {c : Char} (h : StandsIn word ds) (hc : isWordChar c = false)
    (cs : List Char) : StandsIn word (cs ++ c :: ds) := by
  obtain ⟨left, right, rfl, hne, hword, hleft, hright⟩ := h
  refine ⟨cs ++ c :: left, right, by simp, hne, hword, ?_, hright⟩
  rw [List.getLast?_append, List.getLast?_cons]
  cases hlast : left.getLast? with
  | none => simpa using hc
  | some d => simpa using hleft d hlast

theorem StandsIn.cons_append {c : Char} (h : StandsIn word cs) (hc : isWordChar c = false)
    (ds : List Char) : StandsIn word (cs ++ c :: ds) := by
  obtain ⟨left, right, rfl, hne, hword, hleft, hright⟩ := h
  refine ⟨left, right ++ c :: ds, by simp, hne, hword, hleft, ?_⟩
  cases right with
  | nil => simpa using hc
  | cons d right => simpa using hright

/-- A separator keeps the words on its two sides apart. -/
theorem standsIn_append_cons_iff {c : Char} (hc : isWordChar c = false) :
    StandsIn word (cs ++ c :: ds) ↔ StandsIn word cs ∨ StandsIn word ds := by
  constructor
  · rintro ⟨left, right, heq, hne, hword, hleft, hright⟩
    have hnot : c ∉ word := fun hmem => ne_true_of_eq_false hc (hword c hmem)
    -- The separator is in front of the word or behind it, since it is none of its letters.
    obtain ⟨between, rfl, hrest⟩ | ⟨between, rfl, hrest⟩ := List.append_eq_append_iff.1 heq
    · obtain ⟨-, hhead⟩ | ⟨between, rfl, rfl⟩ := List.cons_eq_append_iff.1 hrest
      · obtain ⟨hnil, -⟩ | ⟨tail, rfl, -⟩ := List.append_eq_cons_iff.1 hhead
        · exact absurd hnil hne
        · exact absurd List.mem_cons_self hnot
      · refine .inr ⟨between, right, rfl, hne, hword, fun d hd => hleft d ?_, hright⟩
        rw [List.getLast?_append, List.getLast?_cons, hd]
        rfl
    · obtain ⟨after, rfl, rfl⟩ | ⟨after, rfl, hend⟩ := List.append_eq_append_iff.1 hrest
      · refine .inl ⟨left, after, rfl, hne, hword, hleft, fun d hd => hright d ?_⟩
        rw [List.head?_append, hd]
        rfl
      · obtain ⟨rfl, -⟩ | ⟨tail, rfl, -⟩ := List.cons_eq_append_iff.1 hend
        · exact .inl ⟨left, [], by simp, hne, hword, hleft, nofun⟩
        · exact absurd (List.mem_append_right between List.mem_cons_self) hnot
  · rintro (h | h)
    · exact h.cons_append hc ds
    · exact h.append_cons hc cs

/-- Only one word stands in a run, which is all of it. -/
theorem standsIn_run_iff (run : Run) : StandsIn word run.1 ↔ word = run.1 ∧ word ≠ [] := by
  constructor
  · rintro ⟨left, right, heq, hne, -, hleft, hright⟩
    have hall : ∀ c ∈ left ++ (word ++ right), isWordChar c := heq ▸ run.2
    have hleft' : left = [] := by
      refine List.getLast?_eq_none_iff.1 (Option.eq_none_iff_forall_not_mem.2 fun c hc => ?_)
      exact ne_true_of_eq_false (hleft c hc)
        (hall c (List.mem_append_left _ (List.mem_of_getLast? hc)))
    have hright' : right = [] := by
      refine List.head?_eq_none_iff.1 (Option.eq_none_iff_forall_not_mem.2 fun c hc => ?_)
      exact ne_true_of_eq_false (hright c hc)
        (hall c (List.mem_append_right _ (List.mem_append_right _ (List.mem_of_head? hc))))
    rw [heq, hleft', hright', List.nil_append, List.append_nil]
    exact ⟨rfl, hne⟩
  · rintro ⟨rfl, hne⟩
    exact ⟨[], [], by simp, hne, run.2, nofun, nofun⟩

namespace Layout

theorem standsIn_textWith_iff (f : Run → List Char) (layout : Layout) :
    StandsIn word (layout.textWith f) ↔ ∃ run ∈ layout.runs, StandsIn word (f run) := by
  induction layout with
  | last run => simp [textWith, runs]
  | next run separator rest ih =>
    rw [textWith, standsIn_append_cons_iff separator.2, ih, runs]
    simp

/-- **The words that stand in a text** are its runs, but for the empty ones. -/
theorem standsIn_text_iff (layout : Layout) :
    StandsIn word layout.text ↔ (∃ run ∈ layout.runs, run.1 = word) ∧ word ≠ [] := by
  rw [text, standsIn_textWith_iff]
  simp only [standsIn_run_iff]
  constructor
  · rintro ⟨run, hrun, rfl, hne⟩
    exact ⟨⟨run, hrun, rfl⟩, hne⟩
  · rintro ⟨⟨run, hrun, rfl⟩, hne⟩
    exact ⟨run, hrun, rfl, hne⟩

end Layout

instance (word cs : List Char) : Decidable (StandsIn word cs) :=
  decidable_of_iff ((∃ run ∈ (Layout.ofText cs).runs, run.1 = word) ∧ word ≠ []) <| by
    rw [← Layout.standsIn_text_iff, Layout.text_ofText]

/-! ## Replacing a word run by run -/

/-- A word is read to its end before it is replaced. -/
theorem substituteFrom_of_word (h : ∀ c ∈ cs, isWordChar c) (token : List Char) :
    substituteFrom word replacement token cs =
      substituteFrom word replacement (cs.reverse ++ token) [] := by
  induction cs generalizing token with
  | nil => rfl
  | cons c cs ih =>
    have hrest := ih (fun d hd => h d (List.mem_cons_of_mem c hd)) (c :: token)
    conv_lhs => rw [substituteFrom]
    rw [if_pos (h c List.mem_cons_self), hrest, List.reverse_cons, List.append_assoc,
      List.singleton_append]

/-- What becomes of a run. -/
def replacedRun (word replacement : List Char) (run : Run) : List Char :=
  if run.1 = word ∧ word ≠ [] then replacement else run.1

theorem substituteWord_run (word replacement : List Char) (run : Run) :
    substituteWord word replacement run.1 = replacedRun word replacement run := by
  have hread : substituteWord word replacement run.1 =
      if run.1 = [] then [] else replacedWord word replacement run.1 := by
    rw [substituteWord, substituteFrom_of_word run.2, List.append_nil, substituteFrom]
    simp
  rw [hread, replacedRun, replacedWord]
  split
  · next hnil => rw [if_neg fun h => h.2 (h.1.symm.trans hnil), hnil]
  · next hne => exact if_congr (and_iff_left_of_imp fun h => h ▸ hne).symm rfl rfl

/-- Whatever is between the separators of a text, the word is looked for in each part on its own. -/
theorem substituteWord_textWith (f : Run → List Char) (layout : Layout) :
    substituteWord word replacement (layout.textWith f) =
      layout.textWith fun run => substituteWord word replacement (f run) := by
  induction layout with
  | last run => rfl
  | next run separator rest ih =>
    rw [Layout.textWith, substituteWord_append_cons separator.2, ih]
    rfl

/-- **A word is replaced run by run.** -/
theorem substituteWord_text (word replacement : List Char) (layout : Layout) :
    substituteWord word replacement layout.text =
      layout.textWith (replacedRun word replacement) := by
  rw [Layout.text, substituteWord_textWith]
  exact congrArg (layout.textWith ·) (funext (substituteWord_run word replacement))

/-! ## Texts that are left as they are -/

theorem length_le_length_replacedRun (h : word.length ≤ replacement.length) (run : Run) :
    run.1.length ≤ (replacedRun word replacement run).length := by
  rw [replacedRun]
  split
  · next hrun => rwa [hrun.1]
  · exact Nat.le_refl _

theorem length_replacedRun_le (h : replacement.length ≤ word.length) (run : Run) :
    (replacedRun word replacement run).length ≤ run.1.length := by
  rw [replacedRun]
  split
  · next hrun => rwa [hrun.1]
  · exact Nat.le_refl _

theorem replacedRun_eq_self_iff (run : Run) : replacedRun word replacement run = run.1 ↔
    word = replacement ∨ ¬ StandsIn word run.1 := by
  rw [standsIn_run_iff, replacedRun]
  split
  · next h =>
    obtain ⟨rfl, hne⟩ := h
    simp [hne, eq_comm]
  · next h => exact iff_of_true rfl (.inr fun hstands => h ⟨hstands.1.symm, hstands.2⟩)

/-- **A text is left as it is** just if the word does not stand in it, or is replaced by itself. -/
theorem substituteWord_eq_self_iff :
    substituteWord word replacement cs = cs ↔ word = replacement ∨ ¬ StandsIn word cs := by
  obtain ⟨layout, rfl, -⟩ := existsUnique_layout cs
  -- The runs that are replaced all get longer, or they all get shorter.
  have hruns : layout.textWith (replacedRun word replacement) = layout.text ↔
      ∀ run ∈ layout.runs, replacedRun word replacement run = run.1 := by
    obtain hle | hle := Nat.le_total word.length replacement.length
    · rw [eq_comm, Layout.text, Layout.textWith_eq_iff (length_le_length_replacedRun hle)]
      simp only [eq_comm]
    · exact layout.textWith_eq_iff (length_replacedRun_le hle)
  rw [substituteWord_text, hruns, Layout.text, Layout.standsIn_textWith_iff]
  simp only [replacedRun_eq_self_iff]
  by_cases hsame : word = replacement <;> simp [hsame]

/-! ## The words of the new text -/

theorem standsIn_replacedRun_iff {other : List Char} (run : Run) :
    StandsIn other (replacedRun word replacement run) ↔
      other ≠ word ∧ StandsIn other run.1 ∨ StandsIn word run.1 ∧ StandsIn other replacement := by
  by_cases h : StandsIn word run.1
  · obtain ⟨heq, hne⟩ := (standsIn_run_iff run).1 h
    have hnot : ¬ (other ≠ word ∧ StandsIn other run.1) := fun ⟨hother, hstands⟩ =>
      hother (((standsIn_run_iff run).1 hstands).1.trans heq.symm)
    rw [replacedRun, if_pos ⟨heq.symm, hne⟩, or_iff_right hnot, and_iff_right h]
  · have hother : StandsIn other run.1 → other ≠ word := by
      rintro hstands rfl
      exact h hstands
    have hkept : ¬ (run.1 = word ∧ word ≠ []) := fun hrun =>
      h ((standsIn_run_iff run).2 ⟨hrun.1.symm, hrun.2⟩)
    rw [replacedRun, if_neg hkept, or_iff_left fun hboth => h hboth.1, and_iff_right_of_imp hother]

/-- **Which words stand in the new text**: those that stood in the old one, but for the one that is
replaced, and where this one stood also those of its replacement. -/
theorem standsIn_substituteWord_iff {other : List Char} :
    StandsIn other (substituteWord word replacement cs) ↔
      other ≠ word ∧ StandsIn other cs ∨ StandsIn word cs ∧ StandsIn other replacement := by
  obtain ⟨layout, rfl, -⟩ := existsUnique_layout cs
  rw [substituteWord_text, Layout.text]
  simp only [Layout.standsIn_textWith_iff, standsIn_replacedRun_iff]
  constructor
  · rintro ⟨run, hrun, ⟨hother, hstands⟩ | ⟨hword, hstands⟩⟩
    · exact .inl ⟨hother, run, hrun, hstands⟩
    · exact .inr ⟨⟨run, hrun, hword⟩, hstands⟩
  · rintro (⟨hother, run, hrun, hstands⟩ | ⟨⟨run, hrun, hword⟩, hstands⟩)
    · exact ⟨run, hrun, .inl ⟨hother, hstands⟩⟩
    · exact ⟨run, hrun, .inr ⟨hword, hstands⟩⟩

/-- **Only whole words are replaced**, and all of them.

* A text has just one layout.  Its separators stay where they are, and of its runs just those that
  are the word become the replacement.  The word stands in the text just if there is such a run.
* A text can be cut in front of or behind any separator: it does not matter to the word whether its
  two parts are looked through together or on their own.
* A word that is replaced by itself leaves each text as it is.  Any other replacement leaves just
  those texts as they are in which the word does not stand.
* A second time changes nothing more, unless the word stood in the text and stands in what it was
  replaced by, which is not the word itself. -/
theorem whole_words_replaced (word replacement : List Char) :
    let written := substituteWord word replacement
    (∀ cs, ∃! layout : Layout, layout.text = cs) ∧
    (∀ layout : Layout,
      (written layout.text = layout.textWith fun run =>
        if run.1 = word ∧ word ≠ [] then replacement else run.1) ∧
      (StandsIn word layout.text ↔ (∃ run ∈ layout.runs, run.1 = word) ∧ word ≠ [])) ∧
    (∀ cs ds, ((∀ c ∈ cs.getLast?, isWordChar c = false) ∨ ∀ c ∈ ds.head?, isWordChar c = false) →
      written (cs ++ ds) = written cs ++ written ds) ∧
    (∀ cs, substituteWord word word cs = cs) ∧
    (∀ cs, written cs = cs ↔ word = replacement ∨ ¬ StandsIn word cs) ∧
    ∀ cs, written (written cs) = written cs ↔
      word = replacement ∨ ¬ (StandsIn word cs ∧ StandsIn word replacement) := by
  intro written
  refine ⟨existsUnique_layout,
    fun layout => ⟨substituteWord_text word replacement layout, layout.standsIn_text_iff⟩,
    fun cs ds => substituteWord_append,
    fun cs => substituteWord_eq_self_iff.2 (.inl rfl),
    fun cs => substituteWord_eq_self_iff, fun cs => ?_⟩
  have hstands : StandsIn word (written cs) ↔ StandsIn word cs ∧ StandsIn word replacement := by
    rw [standsIn_substituteWord_iff]
    exact or_iff_right fun h => h.1 rfl
  rw [substituteWord_eq_self_iff, hstands]

/-- A word at the start and at the end, within longer words and next to two separators, and a
negative number in its place. -/
theorem whole_words_replaced_negative :
    let written := substituteWord "i".toList "-1".toList
    written "i<=i_max,,ni*i".toList = "-1<=i_max,,ni*-1".toList ∧
      ((∀ c ∈ "n=".toList.getLast?, isWordChar c = false) ∧
        written ("n=".toList ++ "i".toList) = written "n=".toList ++ written "i".toList) ∧
      (¬ StandsIn "i".toList "limit".toList ∧ written "limit".toList = "limit".toList) ∧
      (StandsIn "i".toList "i<=3".toList ∧ ¬ StandsIn "i".toList "-1".toList ∧
        written (written "i<=3".toList) = written "i<=3".toList) := by
  obtain ⟨-, hruns, hcut, -, hkept, htwice⟩ := whole_words_replaced "i".toList "-1".toList
  have hword : ¬ StandsIn "i".toList "-1".toList := by decide
  have hlonger : ¬ StandsIn "i".toList "limit".toList := by decide +kernel
  have hend : ∀ c ∈ "n=".toList.getLast?, isWordChar c = false := by
    rintro c ⟨⟩
    decide
  refine ⟨?_, ⟨hend, hcut _ _ (.inl hend)⟩, ⟨hlonger, (hkept _).2 (.inr hlonger)⟩,
    by decide +kernel, hword, (htwice _).2 (.inr fun h => hword h.2)⟩
  have hreplaced := (hruns (.ofText "i<=i_max,,ni*i".toList)).1
  rw [Layout.text_ofText] at hreplaced
  exact hreplaced.trans (by decide +kernel)

end Scenario.Text
