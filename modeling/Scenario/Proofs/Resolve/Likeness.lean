import Scenario.Resolve.Matchers
import Scenario.Proofs.Resolve.Calls
import Scenario.Proofs.Text.Blanks

/-!
# Matchers with an argument in quotes

A matcher expression is taken apart by its ends: the signs around it, the first parenthesis and the
last one.  What stands between the parentheses is read as the arguments of a call are, so quotes
protect it there.  The two readings do not get into each other's way, because neither of them
searches the argument for an end of its own: whatever signs, parentheses and commas a text in quotes
has, it is one argument, and nothing but a quote could end it early.

## What is here

* `Expectation.inside?_signed` and `Expectation.splitMatcher?_called` take a written expression
  apart.
* `Likeness` — the four matchers that compare a text with one argument, and what they mean.
* `Expectation.meets_quoted` — the main result: an expectation that is written with a text in quotes
  holds just if the actual text is like what the text resolves to, and fails only if this does.
-/

set_option autoImplicit false

namespace Scenario

open Text Resolve

/-! ## Likeness of texts -/

/-- How a text can be like another one. -/
inductive Likeness where
  | contains
  | startsWith
  | endsWith
  | equalsIgnoreCase
deriving DecidableEq, Repr

namespace Likeness

/-- The name of the matcher. -/
def name : Likeness → String
  | contains => "contains"
  | startsWith => "startsWith"
  | endsWith => "endsWith"
  | equalsIgnoreCase => "equalsIgnoreCase"

/-- Whether an actual text is like an expected one. -/
def Holds : Likeness → (expected actual : List Char) → Prop
  | contains, expected, actual => expected <:+: actual
  | startsWith, expected, actual => expected <+: actual
  | endsWith, expected, actual => expected <:+ actual
  | equalsIgnoreCase, expected, actual => lower expected = lower actual

instance : (k : Likeness) → (expected actual : List Char) → Decidable (k.Holds expected actual)
  | contains, expected, actual => inferInstanceAs (Decidable (expected <:+: actual))
  | startsWith, expected, actual => inferInstanceAs (Decidable (expected <+: actual))
  | endsWith, expected, actual => inferInstanceAs (Decidable (expected <:+ actual))
  | equalsIgnoreCase, expected, actual =>
    inferInstanceAs (Decidable (lower expected = lower actual))

theorem occursIn_iff {part cs : List Char} : Matcher.occursIn part cs = true ↔ part <:+: cs := by
  induction cs with
  | nil => rw [Matcher.occursIn, List.isEmpty_iff, List.infix_nil]
  | cons c cs ih =>
    rw [Matcher.occursIn, Bool.or_eq_true, ih, List.isPrefixOf_iff_prefix, List.infix_cons_iff]

/-- Each likeness is what the matcher of its name decides. -/
theorem lookup_name (k : Likeness) : Matcher.builtin.lookup k.name =
    some (Matcher.single k.name fun actual expected => .ok (decide (k.Holds expected actual))) := by
  have hsingle : ∀ {name : String} {f g : List Char → List Char → Bool},
      (∀ actual expected, f actual expected = true ↔ g actual expected = true) →
        some (Matcher.single name fun actual expected => .ok (f actual expected)) =
          some (Matcher.single name fun actual expected => .ok (g actual expected)) := by
    intro name f g h
    have heq : f = g := funext₂ fun actual expected => Bool.eq_iff_iff.2 (h actual expected)
    rw [heq]
  cases k with
  | contains => exact hsingle fun _ _ => occursIn_iff.trans decide_eq_true_iff.symm
  | startsWith => exact hsingle fun _ _ => List.isPrefixOf_iff_prefix.trans decide_eq_true_iff.symm
  | endsWith => exact hsingle fun _ _ => List.isSuffixOf_iff_suffix.trans decide_eq_true_iff.symm
  | equalsIgnoreCase =>
    exact hsingle fun _ _ => (beq_iff_eq.trans eq_comm).trans decide_eq_true_iff.symm

end Likeness

namespace Expectation

/-- What stands between two signs is found, whatever it is. -/
theorem inside?_signed {before after : List Char} (hbefore : ∀ c ∈ before, isBlank c)
    (hafter : ∀ c ∈ after, isBlank c) (inside : List Char) :
    inside? (before ++ (('@' :: (inside ++ ['@'])) ++ after)) = some inside := by
  have hsigned : trim ('@' :: (inside ++ ['@'])) = '@' :: (inside ++ ['@']) :=
    trim_between (by decide) (by decide) inside
  rw [inside?, trim_between_blanks hbefore hafter hsigned]
  simp

/-- The name and the arguments are found, whatever the arguments are. -/
theorem splitMatcher?_called {name : List Char} (hname : '(' ∉ name) (arguments : List Char) :
    splitMatcher? (name ++ '(' :: (arguments ++ [')'])) = some (trim name, arguments) := by
  have hplain : ∀ c ∈ name, (c != '(') = true := fun c hc =>
    bne_iff_ne.2 fun (heq : c = '(') => hname (heq ▸ hc)
  have htake : (name ++ '(' :: (arguments ++ [')'])).takeWhile (· != '(') = name := by
    rw [List.takeWhile_append_of_pos hplain, List.takeWhile_cons_of_neg (by decide),
      List.append_nil]
  have hdrop : (name ++ '(' :: (arguments ++ [')'])).dropWhile (· != '(') =
      '(' :: (arguments ++ [')']) := by
    rw [List.dropWhile_append_of_pos hplain, List.dropWhile_cons_of_neg (by decide)]
  simp [splitMatcher?, htake, hdrop]

/-- A text in quotes is one argument. -/
theorem splitArguments_quoted {cs : List Char} (h : '\'' ∉ cs) :
    splitArguments (quoted cs) = [quoted cs] := by
  have hgap : ∀ c ∈ ([] : List Char), isBlank c := List.forall_mem_nil _
  have hargs : ∀ a ∈ [quoted cs], trim a = a ∧ a ≠ [] :=
    List.forall_mem_singleton.2 ⟨trim_between (by decide) (by decide) cs, List.cons_ne_nil _ _⟩
  have hapart : KeepApart [quoted cs] :=
    keepApart_of_contained (List.forall_mem_singleton.2 (contained_quoted h))
  have hsplit := (splitArguments_separated_iff hgap hargs).2 hapart
  rwa [separated_singleton] at hsplit

end Expectation

/-! ## Expressions as they are written -/

/-- A matcher expression with some arguments. -/
def matcherText (name arguments : String) : String := "@" ++ name ++ "(" ++ arguments ++ ")@"

theorem toList_matcherText (name arguments : String) : (matcherText name arguments).toList =
    '@' :: ((name.toList ++ '(' :: (arguments.toList ++ [')'])) ++ ['@']) := by
  simp [matcherText]

namespace Expectation

variable (lib : Library) (store : Store)

/-- A matcher is applied to what a text in quotes resolves to. -/
theorem meets_matcherText {name text : String} (hname : ∀ c ∈ name.toList, isNameChar c)
    (htext : '\'' ∉ text.toList) {before after : String} (hbefore : ∀ c ∈ before.toList, isBlank c)
    (hafter : ∀ c ∈ after.toList, isBlank c) {matcher : Matcher}
    (hmatcher : Matcher.builtin.lookup name = some matcher) (actual : String) :
    meets lib store (before ++ matcherText name (quoteText text) ++ after) actual =
      resolve lib store text >>= fun value =>
        (matcher actual [value]).mapError fun e =>
          .validation s!"matcher '{name}' failed: {e}" := by
  have hopen : '(' ∉ name.toList := fun hmem => absurd (hname _ hmem) (by decide)
  have htrim : trim name.toList = name.toList :=
    trim_of_not_blank fun c hc => isBlank_of_isNameChar (hname c hc)
  have hinside : inside? (before ++ matcherText name (quoteText text) ++ after).toList =
      some (name.toList ++ '(' :: (quoted text.toList ++ [')'])) := by
    rw [String.toList_append, String.toList_append, toList_matcherText, toList_quoteText,
      List.append_assoc]
    exact inside?_signed hbefore hafter _
  have hresolved : resolveArguments lib store [quoted text.toList] =
      resolve lib store text >>= fun value => .ok [value] := by
    rw [resolveArguments, unquote_quoted, String.ofList_toList, resolveArguments]
    rfl
  rw [meets, hinside]
  simp only [splitMatcher?_called hopen, htrim, String.ofList_toList, hmatcher,
    splitArguments_quoted htext, hresolved, bind_assoc]
  rfl

end Expectation

theorem Likeness.isNameChar_of_mem_name (k : Likeness) : ∀ c ∈ k.name.toList, isNameChar c := by
  cases k <;> simp [name, isNameChar, isAsciiAlphanumeric]

/-- **A text in quotes is the argument of a matcher, whatever it is.**  With blanks around it or
not, the expression holds of a text just if this is like what the text in quotes resolves to, and
there is no failure but that of resolving it.  A value that is validated with the expression fails
besides only where the expression does not hold of it. -/
theorem Expectation.meets_quoted (lib : Library) (store : Store) (k : Likeness) {text : String}
    (htext : '\'' ∉ text.toList) {before after : String} (hbefore : ∀ c ∈ before.toList, isBlank c)
    (hafter : ∀ c ∈ after.toList, isBlank c) (actual : String) :
    let expected := before ++ matcherText k.name (quoteText text) ++ after
    meets lib store expected actual =
        (resolve lib store text).map (fun value => decide (k.Holds value.toList actual.toList)) ∧
      ∀ path, validate lib store path expected actual =
        resolve lib store text >>= fun value =>
          if k.Holds value.toList actual.toList then .ok ()
          else .error (.validation
            s!"value at '{path}' was '{actual}' but expected '{expected}'") := by
  intro expected
  have hmeets : meets lib store expected actual =
      (resolve lib store text).map (fun value => decide (k.Holds value.toList actual.toList)) := by
    rw [meets_matcherText lib store k.isNameChar_of_mem_name htext hbefore hafter k.lookup_name]
    cases resolve lib store text <;> rfl
  refine ⟨hmeets, fun path => ?_⟩
  rw [validate, hmeets]
  cases resolve lib store text with
  | error f => rfl
  | ok value =>
    change (if decide (k.Holds value.toList actual.toList) = true then _ else _) = _
    simp only [decide_eq_true_eq]
    rfl

/-- All that takes an expression apart, in the text in quotes: signs, parentheses, commas, a
reference and a call; with blanks around the expression.  Without the variable it fails as the
reference does. -/
theorem Expectation.meets_quoted_hostile :
    let text := "@), ($\x7bv\x7d core:upperCase(b))@"
    let expected := " \t" ++ matcherText "endsWith" (quoteText text) ++ "\n"
    let store := Store.ofFields [("v", .string "a'")]
    expected = " \t@endsWith('@), ($\x7bv\x7d core:upperCase(b))@')@\n" ∧
    meets Library.builtin store expected "x@), (a' B)@" = .ok true ∧
    meets Library.builtin store expected "@), (a' B)@x" = .ok false ∧
    meets Library.builtin {} expected "x" =
      .error (.unresolvable "$\x7bv\x7d" "variable 'v' is not defined") := by
  intro text expected store
  have hquoted := fun store => @meets_quoted Library.builtin store .endsWith text (by decide)
    " \t" "\n" (by simp [isBlank, asciiBound]) (by simp [isBlank, asciiBound])
  have hvalue : resolve Library.builtin store text = .ok "@), (a' B)@" := by cbv
  have hfailure : resolve Library.builtin {} text =
    .error (.unresolvable "$\x7bv\x7d" "variable 'v' is not defined") := by cbv
  refine ⟨by cbv, (hquoted store _).1.trans ?_, (hquoted store _).1.trans ?_,
    (hquoted {} _).1.trans ?_⟩
  · rw [hvalue]
    exact congrArg Except.ok (decide_eq_true (by decide))
  · rw [hvalue]
    exact congrArg Except.ok (decide_eq_false (by decide))
  · rw [hfailure]
    rfl

end Scenario
