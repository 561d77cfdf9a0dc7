import Scenario.Proofs.Resolve.Arguments
import Scenario.Proofs.Resolve.Plan

/-!
# Calls as they are written

Whoever writes a call has values in mind that the function is to get, and writes one argument for
each.  This file says when the function gets them.  Both scans have a part in it: the first one
must find the end of the call and not a parenthesis in an argument, and the second one must cut
between the arguments and nowhere in them.  What follows the call is read as if it was the start of
a text, since no word goes on behind a parenthesis.

## What is here

* `callText` is a call with its arguments, and `resolve_callText` resolves it together with what
  follows, for all arguments that are sealed for the first scan.
* `resolve_callText_quoteText` — **quotes are faithful**: an argument in quotes may hold anything
  but a quote, and both scans respect it.
* `callText_references` — references respect the first scan and not the second one, which knows no
  braces.  A list of references is taken for what it is just if their fallbacks keep apart.
-/

set_option autoImplicit false

namespace Scenario

open Text Resolve

/-! ## Finding a call -/

namespace Resolve

theorem after?_append (lead cs : List Char) : after? lead (lead ++ cs) = some cs := by
  induction lead with
  | nil => rfl
  | cons d lead ih => rw [List.cons_append, after?, if_pos rfl, ih]

theorem splitBrace?_append {inside : List Char} (h : '\x7d' ∉ inside) (tail : List Char) :
    splitBrace? (inside ++ '\x7d' :: tail) = some (inside, tail) := by
  induction inside with
  | nil => rfl
  | cons c inside ih =>
    rw [List.mem_cons, not_or] at h
    rw [List.cons_append, splitBrace?, ih h.2]
    · rfl
    · exact fun heq => h.1 heq.symm

theorem splitFallback_append {name : List Char} (h : ':' ∉ name) (fallback : List Char) :
    Reference.splitFallback (name ++ ':' :: '-' :: fallback) = (name, some fallback) := by
  induction name with
  | nil => rfl
  | cons c name ih =>
    rw [List.mem_cons, not_or] at h
    rw [List.cons_append, Reference.splitFallback, ih h.2]
    exact fun _ heq => absurd heq.symm h.1

theorem reference?_eq_none {cs : List Char} (h : cs.head? ≠ some '$') : reference? cs = none := by
  unfold reference?
  split
  · exact absurd rfl h
  · rfl

/-- The characters of a call and what follows it. -/
def called (marker name inside tail : List Char) : List Char :=
  marker ++ ':' :: (name ++ '(' :: (inside ++ ')' :: tail))

section Called

variable {marker name inside : List Char} (hne : name ≠ []) (hname : ∀ c ∈ name, isNameChar c)
include hne hname

/-- A call is recognised if the scan for its end finds the parenthesis that closes it. -/
theorem call?_of_closing? {tail : List Char}
    (hclosing : closing? {} (inside ++ ')' :: tail) = some (inside, tail)) :
    call? marker (called marker name inside tail) = some ⟨name, inside, tail⟩ := by
  have hopen : ¬ isNameChar '(' := by decide
  have htake : (name ++ '(' :: (inside ++ ')' :: tail)).takeWhile isNameChar = name := by
    rw [List.takeWhile_append_of_pos hname, List.takeWhile_cons_of_neg hopen, List.append_nil]
  have hdrop : (name ++ '(' :: (inside ++ ')' :: tail)).dropWhile isNameChar =
      '(' :: (inside ++ ')' :: tail) := by
    rw [List.dropWhile_append_of_pos hname, List.dropWhile_cons_of_neg hopen]
  obtain ⟨c, name, rfl⟩ := List.exists_cons_of_ne_nil hne
  simp only [call?, called, after?_append, htake, hdrop, hclosing]

variable (hsealed : Sealed inside)
include hsealed

/-- A call is found where it is written. -/
theorem call?_called (tail : List Char) :
    call? marker (called marker name inside tail) = some ⟨name, inside, tail⟩ :=
  call?_of_closing? hne hname (closing?_of_sealed hsealed tail)

/-- The plan of a call, and of what follows it. -/
theorem plan_called (hmarker : marker.head? ≠ some '$') (tail : List Char) :
    plan marker none (called marker name inside tail) =
      .call name ((splitArguments inside).map fun a => plan marker none (unquote a)) ::
        plan marker (some ')') tail := by
  have hcall : callAfter? marker none (called marker name inside tail) =
      some ⟨name, inside, tail⟩ := (if_pos rfl).trans (call?_called hne hname hsealed tail)
  have hhead : (called marker name inside tail).head? ≠ some '$' := by
    cases marker with
    | nil => simp [called]
    | cons d marker => exact hmarker
  cases hcs : called marker name inside tail with
  | nil => simp [called] at hcs
  | cons c rest =>
    rw [hcs] at hcall hhead
    rw [plan_call (reference?_eq_none hhead) hcall, Call.arguments, List.map_map]
    rfl

end Called

/-- Only whether a word can start is of interest in what comes before a text. -/
theorem plan_congr {before before' : Option Char} (h : atWordStart before = atWordStart before')
    (marker cs : List Char) : plan marker before cs = plan marker before' cs := by
  cases cs with
  | nil => rw [plan_nil, plan_nil]
  | cons c rest =>
    have hcall : callAfter? marker before (c :: rest) = callAfter? marker before' (c :: rest) := by
      rw [callAfter?, callAfter?, h]
    cases hr : reference? (c :: rest) with
    | some found =>
      cases found with
      | none => rw [plan_unterminated hr, plan_unterminated hr]
      | some parts => rw [plan_reference hr, plan_reference hr]
    | none =>
      cases hc : callAfter? marker before (c :: rest) with
      | none => rw [plan_literal hr hc, plan_literal hr (hcall.symm.trans hc)]
      | some call => rw [plan_call hr hc, plan_call hr (hcall.symm.trans hc)]

end Resolve

/-! ## Texts of calls -/

/-- A call: its arguments are separated by commas with a gap behind each. -/
def callText (marker name gap : String) (arguments : List String) : String :=
  marker ++ ":" ++ name ++ "(" ++ ("," ++ gap).intercalate arguments ++ ")"

theorem toList_callText (marker name gap : String) (arguments : List String) (tail : String) :
    (callText marker name gap arguments ++ tail).toList =
      called marker.toList name.toList (separated gap.toList (arguments.map String.toList))
        tail.toList := by
  simp [callText, called, separated, String.toList_intercalate]

section Resolving

variable {lib : Library} {name gap : String} {arguments : List String}
  (hmarker : lib.marker.toList.head? ≠ some '$') (hne : name ≠ "")
  (hname : ∀ c ∈ name.toList, isNameChar c)
include hmarker hne hname

/-- A call is resolved argument by argument, then the function is evaluated, and then the rest of
the text is resolved. -/
theorem resolve_callText
    (hsealed : Sealed (separated gap.toList (arguments.map String.toList)))
    (store : Store) (tail : String) :
    resolve lib store (callText lib.marker name gap arguments ++ tail) = do
      let args ← (splitArguments (separated gap.toList (arguments.map String.toList))).mapM
        fun a => resolve lib store (String.ofList (unquote a))
      let value ← lib.evaluate store name args
      let rest ← resolve lib store tail
      return value ++ rest := by
  have hstart : atWordStart (some ')') = atWordStart none := by decide
  have hnonempty : name.toList ≠ [] := by simpa using hne
  rw [resolve_eq_evalAll, planOf, toList_callText, plan_called hnonempty hname hsealed hmarker,
    plan_congr hstart, Segment.evalAll, Segment.eval, Segment.evalArguments_map, bind_assoc]
  simp [resolve_eq_evalAll, planOf]

end Resolving

/-! ## Arguments in quotes -/

/-- A text in quotes. -/
def quoteText (text : String) : String := "'" ++ text ++ "'"

theorem toList_quoteText (text : String) : (quoteText text).toList = quoted text.toList := by
  simp [quoteText, quoted]

/-- **Quoting arguments is faithful.**  A call whose arguments are texts in quotes evaluates the
function on what the texts resolve to, one argument for each, and what follows the call is resolved
on its own.  The first failure decides: the arguments come first, in their order, then the function,
then the rest.  The texts may hold anything but a quote. -/
theorem resolve_callText_quoteText {lib : Library} {name gap : String} {texts : List String}
    (hmarker : lib.marker.toList.head? ≠ some '$') (hne : name ≠ "")
    (hname : ∀ c ∈ name.toList, isNameChar c) (hgap : ∀ c ∈ gap.toList, isBlank c)
    (htexts : ∀ t ∈ texts, '\'' ∉ t.toList) (store : Store) (tail : String) :
    resolve lib store (callText lib.marker name gap (texts.map quoteText) ++ tail) = do
      let args ← texts.mapM (resolve lib store)
      let value ← lib.evaluate store name args
      let rest ← resolve lib store tail
      return value ++ rest := by
  have hquoted : (texts.map quoteText).map String.toList = texts.map fun t => quoted t.toList := by
    simp [toList_quoteText]
  have hsealed : Sealed (separated gap.toList ((texts.map quoteText).map String.toList)) := by
    refine sealed_separated (sealed_gap hgap) fun a ha => ?_
    rw [hquoted] at ha
    obtain ⟨t, ht, rfl⟩ := List.mem_map.1 ha
    exact sealed_quoted (htexts t ht)
  have hsplit : splitArguments (separated gap.toList (texts.map fun t => quoted t.toList)) =
      texts.map fun t => quoted t.toList := by
    refine (splitArguments_separated_iff hgap fun a ha => ?_).2
      (keepApart_of_contained fun a ha => ?_)
    all_goals obtain ⟨t, ht, rfl⟩ := List.mem_map.1 ha
    · exact ⟨trim_between (by decide) (by decide) t.toList, List.cons_ne_nil _ _⟩
    · exact contained_quoted (htexts t ht)
  rw [resolve_callText hmarker hne hname hsealed, hquoted, hsplit, List.mapM_map]
  simp [Function.comp_def, unquote_quoted]

/-- Commas, parentheses, blanks, a reference and a call in quotes, an empty text among them, and a
reference behind the call. -/
theorem resolve_concat_quoted :
    let texts := ["a, (b", " $\x7bx:-1\x7d ", "", "core:upperCase(c)"]
    let text := callText "core" "concat" " " (texts.map quoteText)
    text = "core:concat('a, (b', ' $\x7bx:-1\x7d ', '', 'core:upperCase(c)')" ∧
      resolve Library.builtin (Store.ofFields [("y", .string "z")]) (text ++ "$\x7by\x7d") =
        .ok "a, (b 1 Cz" := by
  intro texts text
  refine ⟨by cbv, ?_⟩
  have hcall := @resolve_callText_quoteText Library.builtin "concat" " " texts (by decide)
    (by decide) (by simp [isNameChar, isAsciiAlphanumeric]) (by simp [isBlank, asciiBound])
    (by decide) (Store.ofFields [("y", .string "z")]) "$\x7by\x7d"
  exact hcall.trans (by cbv)

/-! ## References as arguments -/

/-- A reference with a fallback, as it can be written: no character of the name or the fallback is
taken for a part of something else. -/
structure FallbackReference where
  name : String
  fallback : String
  nonempty : name ≠ ""
  trimmed : trim name.toList = name.toList
  plain : ∀ c ∈ name.toList, c ∉ [',', '\'', '(', ')', ':', '\x7d']
  closed : '\x7d' ∉ fallback.toList

namespace FallbackReference

theorem not_mem_of_isNameChar {c : Char} (h : isNameChar c) :
    c ∉ [',', '\'', '(', ')', ':', '\x7d'] := by
  intro hc
  have hbounds := toNat_of_isNameChar h
  simp only [List.mem_cons, List.not_mem_nil, or_false] at hc
  rcases hc with rfl | rfl | rfl | rfl | rfl | rfl <;> simp at hbounds

/-- A reference by a name of letters, digits and underscores. -/
def ofWord (name fallback : String) (nonempty : name ≠ "")
    (hname : ∀ c ∈ name.toList, isNameChar c) (closed : '\x7d' ∉ fallback.toList) :
    FallbackReference where
  name := name
  fallback := fallback
  nonempty := nonempty
  trimmed := trim_of_not_blank fun c hc => isBlank_of_isNameChar (hname c hc)
  plain c hc := not_mem_of_isNameChar (hname c hc)
  closed := closed

/-- A reference as it is written. -/
def text (r : FallbackReference) : String := "$\x7b" ++ r.name ++ ":-" ++ r.fallback ++ "\x7d"

/-- The value of a reference: the text of the variable, or the fallback. -/
def value (r : FallbackReference) (store : Store) : String :=
  (store.get? r.name).elim r.fallback Json.asText

/-- What stands between the braces. -/
def inside (r : FallbackReference) : List Char :=
  r.name.toList ++ ':' :: '-' :: r.fallback.toList

theorem toList_text (r : FallbackReference) : r.text.toList = braced r.inside := by
  simp [text, braced, inside]

theorem closed_inside (r : FallbackReference) : '\x7d' ∉ r.inside := by
  have hname : '\x7d' ∉ r.name.toList := fun h => r.plain _ h (by decide)
  simp [inside, hname, r.closed]

/-- What a reference means for a comma, its fallback means. -/
theorem covers_text (r : FallbackReference) (n : Nesting) :
    n.covers r.text.toList = n.covers r.fallback.toList ∧
      n.after r.text.toList = n.after r.fallback.toList := by
  have hlead : ∀ c ∈ '$' :: '\x7b' :: (r.name.toList ++ [':', '-']), c ∉ [',', '\'', '(', ')'] := by
    have hname : ∀ c ∈ r.name.toList, c ∉ [',', '\'', '(', ')'] := fun c hc hmem =>
      r.plain c hc (List.mem_append_left [':', '\x7d'] hmem)
    simp only [List.forall_mem_cons, List.forall_mem_append]
    exact ⟨by decide, by decide, hname, by decide, by decide, List.forall_mem_nil _⟩
  have htail : ∀ c ∈ ['\x7d'], c ∉ [',', '\'', '(', ')'] := by simp
  have htext : r.text.toList = '$' :: '\x7b' :: (r.name.toList ++ [':', '-']) ++
      (r.fallback.toList ++ ['\x7d']) := by simp [text]
  rw [htext]
  exact Nesting.covers_between hlead htail r.fallback.toList

theorem ofExpression_inside (r : FallbackReference) :
    Reference.ofExpression r.inside = ⟨r.inside, r.name.toList, some r.fallback.toList⟩ := by
  have hname : ':' ∉ r.name.toList := fun h => r.plain _ h (by decide)
  simp [Reference.ofExpression, inside, splitFallback_append hname, r.trimmed]

/-- A reference with a fallback always has a value. -/
theorem resolve_text (r : FallbackReference) (lib : Library) (store : Store) :
    resolve lib store r.text = .ok (r.value store) := by
  have hfound : reference? ('$' :: '\x7b' :: (r.inside ++ ['\x7d'])) = some (some (r.inside, [])) :=
    congrArg some (splitBrace?_append r.closed_inside [])
  have hne : r.name.toList ≠ [] := by simpa using r.nonempty
  have heval : (Reference.ofExpression r.inside).eval store = .ok (r.value store) := by
    rw [ofExpression_inside, Reference.eval, if_neg hne, value]
    cases hvar : store.get? r.name <;> simp [hvar]
  rw [resolve_eq_evalAll, planOf, toList_text, braced, plan_reference hfound, plan_nil,
    Segment.evalAll, Segment.eval, heval]
  exact congrArg Except.ok String.append_empty

end FallbackReference

/-- **References as arguments keep apart just if their fallbacks do.**  The call is always found
with its end, since no character of a reference closes it.  But the arguments are the references
just if the fallbacks keep apart: no comma in a fallback may stand outside quotes and parentheses,
and none but the last fallback may leave quotes or parentheses open.  Under this condition the
function is evaluated on the values of the references, one for each. -/
theorem callText_references {marker name gap : String} (hmarker : marker.toList.head? ≠ some '$')
    (hne : name ≠ "") (hname : ∀ c ∈ name.toList, isNameChar c)
    (hgap : ∀ c ∈ gap.toList, isBlank c) (refs : List FallbackReference) (tail : String) :
    let text := callText marker name gap (refs.map FallbackReference.text) ++ tail
    let fallbacks := refs.map fun r => r.fallback.toList
    (∃ inside, call? marker.toList text.toList = some ⟨name.toList, inside, tail.toList⟩ ∧
      (splitArguments inside = refs.map (fun r => r.text.toList) ↔ KeepApart fallbacks)) ∧
    (KeepApart fallbacks → ∀ (lib : Library) (store : Store), lib.marker = marker →
      resolve lib store text = do
        let value ← lib.evaluate store name (refs.map fun r => r.value store)
        let rest ← resolve lib store tail
        return value ++ rest) := by
  intro text fallbacks
  have hwritten : (refs.map FallbackReference.text).map String.toList =
      refs.map fun r => r.text.toList := List.map_map
  have hsealed : Sealed (separated gap.toList (refs.map fun r => r.text.toList)) := by
    refine sealed_separated (sealed_gap hgap) fun a ha => ?_
    obtain ⟨r, -, rfl⟩ := List.mem_map.1 ha
    rw [r.toList_text]
    exact sealed_braced r.closed_inside
  have hsplit : splitArguments (separated gap.toList (refs.map fun r => r.text.toList)) =
      refs.map (fun r => r.text.toList) ↔ KeepApart fallbacks := by
    refine (splitArguments_separated_iff hgap fun a ha => ?_).trans
      (keepApart_map_congr (fun r => r.covers_text {}) refs)
    obtain ⟨r, -, rfl⟩ := List.mem_map.1 ha
    rw [r.toList_text]
    exact ⟨trim_between (c := '$') (d := '\x7d') (by decide) (by decide) ('\x7b' :: r.inside),
      List.cons_ne_nil _ _⟩
  refine ⟨⟨_, ?_, hsplit⟩, ?_⟩
  · rw [toList_callText, hwritten]
    exact call?_called (by simpa using hne) hname hsealed tail.toList
  · rintro hapart lib store rfl
    have hargs : (fun a => resolve lib store (String.ofList (unquote a))) ∘
        (fun r : FallbackReference => r.text.toList) = fun r => pure (r.value store) := by
      funext r
      rw [Function.comp_apply, r.toList_text, unquote_braced, ← r.toList_text,
        String.ofList_toList, r.resolve_text]
      rfl
    rw [resolve_callText hmarker hne hname (by rwa [hwritten]), hwritten, hsplit.2 hapart,
      List.mapM_map, hargs, List.mapM_pure, pure_bind]

/-- A comma in parentheses and a quote at the end keep apart, and the references are the arguments.
A comma alone does not: one reference is taken for two arguments, none of which is a reference. -/
theorem concat_references :
    let refs : List FallbackReference :=
      [.ofWord "a" "(1, 2)" (by decide) (by simp [isNameChar, isAsciiAlphanumeric]) (by decide),
        .ofWord "b" "it's" (by decide) (by simp [isNameChar, isAsciiAlphanumeric]) (by decide)]
    let comma : FallbackReference :=
      .ofWord "a" "x,y" (by decide) (by simp [isNameChar, isAsciiAlphanumeric]) (by decide)
    let text := callText "core" "concat" " " (refs.map FallbackReference.text)
    text = "core:concat($\x7ba:-(1, 2)\x7d, $\x7bb:-it's\x7d)" ∧
      resolve Library.builtin (Store.ofFields [("b", .string "z")]) (text ++ "!") = .ok "(1, 2)z!" ∧
      callText "core" "concat" " " [comma.text] = "core:concat($\x7ba:-x,y\x7d)" ∧
      ∃ inside, call? "core".toList (callText "core" "concat" " " [comma.text] ++ "").toList =
          some ⟨"concat".toList, inside, []⟩ ∧
        splitArguments inside ≠ [comma.text.toList] := by
  intro refs comma text
  have hname : ∀ c ∈ "concat".toList, isNameChar c := by simp [isNameChar, isAsciiAlphanumeric]
  have hgap : ∀ c ∈ " ".toList, isBlank c := by simp [isBlank, asciiBound]
  refine ⟨by cbv, ?_, by cbv, ?_⟩
  · obtain ⟨-, hresolve⟩ :=
      @callText_references "core" "concat" " " (by decide) (by decide) hname hgap refs "!"
    exact (hresolve (by decide) Library.builtin _ rfl).trans (by cbv)
  · obtain ⟨⟨inside, hcall, hsplit⟩, -⟩ :=
      @callText_references "core" "concat" " " (by decide) (by decide) hname hgap [comma] ""
    exact ⟨inside, hcall, fun h => absurd (hsplit.1 h) (by decide)⟩

end Scenario
