import Scenario.Proofs.Resolve.Scanners

/-!
# The pass on offsets

Resolving a text is a pass from left to right that calls itself on the arguments of each call it
meets.  On lists of characters it was shown to end before it could be written down; on offsets it is
a loop that goes on as long as the offset is within the text, wherever the next offset comes from.
Here is this loop, with a limit on its steps.  An iteration takes at least one character, and a
nested text is shorter than the call that it is an argument of, so one step more than there are
characters is enough, and nothing else stops the loop either.

## What is here

* `look` is one iteration: what stands at an offset, and the offset behind it.  `look_unterminated`,
  `look_reference`, `look_call` and `look_letter` say what it finds.
* `pass` is the loop, and `pass_eq` says that it is the pass on lists.
* `scanners_total` — the main result, about everything that is computed on the way.
-/

set_option autoImplicit false

namespace Scenario.Resolve.Offset

open Text Text.Offset
open String (utf8Len)

/-- What stands at an offset, and the offset behind it. -/
inductive Item where
  | ended
  /-- A reference without an end. -/
  | unterminated (rest : List Char)
  | reference (inside : List Char) (next : Nat)
  | call (name : List Char) (arguments : List (List Char)) (next : Nat)
  | letter (c : Char) (next : Nat)

/-- Where the pass goes on. -/
def Item.next? : Item → Option Nat
  | ended => none
  | unterminated _ => none
  | reference _ next => some next
  | call _ _ next => some next
  | letter _ next => some next

/-- The texts that have to be resolved before the pass goes on. -/
def Item.nested : Item → List (List Char)
  | call _ arguments _ => arguments
  | _ => []

/-- Looks at a text from an offset on. -/
def look (marker text : List Char) (i : Nat) : Except Stop Item := do
  let (before, rest) ← Stop.ofPart (cut? i text)
  match rest with
  | '$' :: '\x7b' :: _ =>
    match find? (· == '\x7d') rest with
    | none => return .unterminated rest
    | some close =>
      let inside ← Stop.ofPart (between? 2 close rest)
      return .reference inside (i + (close + 1))
  | _ =>
    match ← callBehind marker before rest with
    | some call =>
      let args ← arguments call.inside
      return .call call.name (args.map unquote) (i + call.consumed)
    | none =>
      match rest with
      | [] => return .ended
      | c :: _ => return .letter c (i + c.utf8Size)

/-- Resolves a text from an offset on, and puts the result behind `out`. -/
def pass (lib : Library) (store : Store) : Nat → List Char → Nat → String → Except Stop String
  | 0, _, _, _ => .error .limit
  | steps + 1, text, i, out =>
    if utf8Len text ≤ i then .ok out
    else do
      match ← look lib.marker.toList text i with
      | .ended => return out
      | .unterminated rest =>
        throw (.failure (.unresolvable (String.ofList rest) "unterminated variable reference"))
      | .reference inside next =>
        let value ← ((Reference.ofExpression inside).eval store).mapError .failure
        pass lib store steps text next (out ++ value)
      | .call name arguments next =>
        let args ← arguments.mapM fun a => pass lib store steps a 0 ""
        let value ← (lib.evaluate store (String.ofList name) args).mapError .failure
        pass lib store steps text next (out ++ value)
      | .letter c next => pass lib store steps text next (out.push c)

/-! ## What stands at an offset -/

theorem splitBrace?_eq_none {cs : List Char} (h : '\x7d' ∉ cs) : splitBrace? cs = none := by
  induction cs with
  | nil => rfl
  | cons c cs ih =>
    rw [List.mem_cons, not_or] at h
    rw [splitBrace?, ih h.2, Option.map_none]
    exact fun heq => h.1 heq.symm

theorem splitBrace?_eq_some_iff {cs inside tail : List Char} :
    splitBrace? cs = some (inside, tail) ↔ cs = inside ++ '\x7d' :: tail ∧ '\x7d' ∉ inside := by
  constructor
  · intro h
    by_cases hmem : '\x7d' ∈ cs
    · obtain ⟨lead, rest, rfl, hlead⟩ := List.eq_append_cons_of_mem hmem
      rw [splitBrace?_append hlead] at h
      obtain ⟨rfl, rfl⟩ := Prod.mk.inj (Option.some.inj h)
      exact ⟨rfl, hlead⟩
    · rw [splitBrace?_eq_none hmem] at h
      cases h
  · rintro ⟨rfl, hinside⟩
    exact splitBrace?_append hinside tail

section Look

variable {marker before rest : List Char}

theorem utf8Len_braced (inside : List Char) : utf8Len (braced inside) = 2 + utf8Len inside + 1 := by
  rw [braced, String.utf8Len_cons, String.utf8Len_cons, String.utf8Len_append, Nat.add_comm 2]
  rfl

theorem look_braced (more : List Char) :
    look marker (before ++ '$' :: '\x7b' :: more) (utf8Len before) =
      match find? (· == '\x7d') ('$' :: '\x7b' :: more) with
      | none => .ok (.unterminated ('$' :: '\x7b' :: more))
      | some close => do
        let inside ← Stop.ofPart (between? 2 close ('$' :: '\x7b' :: more))
        return .reference inside (utf8Len before + (close + 1)) := by
  rw [look, ofPart_cut?_append]
  rfl

theorem exists_of_reference? {found : Option (List Char × List Char)}
    (h : reference? rest = some found) :
    ∃ more, rest = '$' :: '\x7b' :: more ∧ splitBrace? more = found := by
  unfold reference? at h
  split at h
  · exact ⟨_, rfl, Option.some.inj h⟩
  · cases h

/-- A reference without an end is seen as one. -/
theorem look_unterminated (h : reference? rest = some none) :
    look marker (before ++ rest) (utf8Len before) = .ok (.unterminated rest) := by
  obtain ⟨more, rfl, hmore⟩ := exists_of_reference? h
  have hno : '\x7d' ∉ more := fun hmem => by
    obtain ⟨inside, tail, rfl, hinside⟩ := List.eq_append_cons_of_mem hmem
    rw [splitBrace?_append hinside] at hmore
    cases hmore
  rw [look_braced, find?_eq_none fun c hc => ?_]
  rw [beq_eq_false_iff_ne]
  rintro rfl
  simp [hno] at hc

/-- The pass goes on behind the brace that closes a reference. -/
theorem look_reference {inside tail : List Char}
    (h : reference? rest = some (some (inside, tail))) :
    rest = braced inside ++ tail ∧ look marker (before ++ rest) (utf8Len before) =
      .ok (.reference inside (utf8Len (before ++ braced inside))) := by
  obtain ⟨more, rfl, hmore⟩ := exists_of_reference? h
  obtain ⟨rfl, hinside⟩ := splitBrace?_eq_some_iff.1 hmore
  refine ⟨by simp [braced], ?_⟩
  have hnone : ∀ d ∈ '$' :: '\x7b' :: inside, (d == '\x7d') = false := by
    simp only [List.forall_mem_cons, beq_eq_false_iff_ne]
    exact ⟨by decide, by decide, fun d hd => ne_of_mem_of_not_mem hd hinside⟩
  have hfind : find? (· == '\x7d') ('$' :: '\x7b' :: (inside ++ '\x7d' :: tail)) =
      some (2 + utf8Len inside) :=
    (find?_append_cons hnone rfl).trans (congrArg some (Nat.add_comm (utf8Len inside) 2))
  have hbetween : between? 2 (2 + utf8Len inside) ('$' :: '\x7b' :: (inside ++ '\x7d' :: tail)) =
      some inside := @between?_append _ _ ['$', '\x7b'] ('\x7d' :: tail) inside rfl rfl
  rw [look_braced, hfind]
  dsimp only
  rw [hbetween, String.utf8Len_append, utf8Len_braced]
  rfl

/-- Where no reference starts, a call is looked for, and what is no call is a letter. -/
theorem look_eq_of_reference? (hr : reference? rest = none) :
    look marker (before ++ rest) (utf8Len before) =
      match callAfter? marker before.getLast? rest with
      | some call => .ok (.call call.name call.arguments
          (utf8Len before + utf8Len (called marker call.name call.inside [])))
      | none =>
        match rest with
        | [] => .ok .ended
        | c :: _ => .ok (.letter c (utf8Len before + c.utf8Size)) := by
  rw [look, ofPart_cut?_append]
  dsimp only [bind, Except.bind]
  split
  · cases hr
  · rw [callBehind_eq]
    cases callAfter? marker before.getLast? rest with
    | none => cases rest <;> rfl
    | some call =>
      dsimp only [Option.map_some]
      rw [arguments_eq]
      rfl

/-- The pass goes on behind the parenthesis that closes a call. -/
theorem look_call {call : Call} (hr : reference? rest = none)
    (hc : callAfter? marker before.getLast? rest = some call) :
    rest = called marker call.name call.inside [] ++ call.rest ∧
      look marker (before ++ rest) (utf8Len before) = .ok (.call call.name call.arguments
        (utf8Len (before ++ called marker call.name call.inside []))) := by
  constructor
  · rw [← called_append]
    exact (call?_eq_some_iff.1 (call?_of_callAfter? hc)).1
  · rw [look_eq_of_reference? hr, hc, String.utf8Len_append]

/-- The pass goes on behind a letter. -/
theorem look_letter {c : Char} {more : List Char} (hr : reference? (c :: more) = none)
    (hc : callAfter? marker before.getLast? (c :: more) = none) :
    look marker (before ++ c :: more) (utf8Len before) =
      .ok (.letter c (utf8Len (before ++ [c]))) := by
  rw [look_eq_of_reference? hr, hc, String.utf8Len_append, String.utf8Len_cons, String.utf8Len_nil,
    Nat.zero_add]

end Look

/-! ## The pass -/

theorem mapError_bind {α β : Type} (x : Except Failure α) (f : α → Except Failure β) :
    (x >>= f).mapError Stop.failure =
      x.mapError Stop.failure >>= fun a => (f a).mapError Stop.failure := by
  cases x <;> rfl

theorem mapM_mapError {α β : Type} (f : α → Except Failure β) (xs : List α) :
    (xs.mapM f).mapError Stop.failure = xs.mapM fun a => (f a).mapError Stop.failure := by
  induction xs with
  | nil => rfl
  | cons x xs ih =>
    rw [List.mapM_cons, List.mapM_cons, mapError_bind, ← ih]
    congr 1
    funext y
    rw [mapError_bind]
    rfl

/-- What is done with each element of a list, and may depend on its being one. -/
theorem mapM_attach_mapError {α β : Type} {xs : List α} {f : { a // a ∈ xs } → Except Failure β}
    {g : α → Except Stop β} (h : ∀ a ha, (f ⟨a, ha⟩).mapError .failure = g a) :
    (xs.attach.mapM f).mapError .failure = xs.mapM g := by
  rw [mapM_mapError, List.mapM_subtype h, List.unattach_attach]

section Pass

variable (lib : Library) (store : Store)

/-- A step of the pass does what is to be done with what stands at the offset. -/
theorem pass_succ (steps : Nat) (before rest : List Char) (out : String) (hne : rest ≠ []) :
    pass lib store (steps + 1) (before ++ rest) (utf8Len before) out =
      look lib.marker.toList (before ++ rest) (utf8Len before) >>= fun
        | .ended => return out
        | .unterminated rest =>
          throw (.failure (.unresolvable (String.ofList rest) "unterminated variable reference"))
        | .reference inside next => do
          let value ← ((Reference.ofExpression inside).eval store).mapError .failure
          pass lib store steps (before ++ rest) next (out ++ value)
        | .call name arguments next => do
          let args ← arguments.mapM fun a => pass lib store steps a 0 ""
          let value ← (lib.evaluate store (String.ofList name) args).mapError .failure
          pass lib store steps (before ++ rest) next (out ++ value)
        | .letter c next => pass lib store steps (before ++ rest) next (out.push c) := by
  have hpos : 0 < utf8Len rest := Nat.pos_of_ne_zero (mt String.utf8Len_eq_zero.1 hne)
  rw [pass, if_neg (by rw [String.utf8Len_append]; omega)]

/-- **The pass on offsets is the pass on lists**, as soon as it may take more steps than there are
characters left. -/
theorem pass_eq (steps : Nat) (front rest : List Char) (out : String) (h : rest.length < steps) :
    pass lib store steps (front ++ rest) (utf8Len front) out =
      (resolveOnto lib store out front.getLast? rest).mapError .failure := by
  generalize hbefore : front.getLast? = before
  fun_induction resolveOnto lib store out before rest generalizing steps front with
  | case1 out before =>
    obtain ⟨steps, rfl⟩ := Nat.exists_eq_add_one.2 h
    rw [pass, if_pos (by rw [List.append_nil])]
    rfl
  | case2 out before c rest hr =>
    obtain ⟨steps, rfl⟩ := Nat.exists_eq_add_one.2 (Nat.zero_lt_of_lt h)
    rw [pass_succ _ _ _ _ _ _ (List.cons_ne_nil c rest), look_unterminated hr]
    rfl
  | case3 out before c rest inside tail hr ih =>
    obtain ⟨steps, rfl⟩ := Nat.exists_eq_add_one.2 (Nat.zero_lt_of_lt h)
    obtain ⟨hrest, hlook⟩ := @look_reference lib.marker.toList front _ inside tail hr
    have hlen := reference?_length hr
    have hlast : (front ++ braced inside).getLast? = some '\x7d' := by
      rw [braced, ← List.cons_append, ← List.cons_append, ← List.append_assoc, List.getLast?_concat]
    rw [pass_succ _ _ _ _ _ _ (List.cons_ne_nil c rest), hlook, mapError_bind]
    change (_ >>= fun value => pass lib store steps _ _ (out ++ value)) = _
    refine congrArg _ (funext fun value => ?_)
    rw [hrest, ← List.append_assoc]
    exact ih value steps (front ++ braced inside) (by omega) hlast
  | case4 out before c rest hr call hc ihargs ih =>
    obtain ⟨steps, rfl⟩ := Nat.exists_eq_add_one.2 (Nat.zero_lt_of_lt h)
    subst hbefore
    obtain ⟨hrest, hlook⟩ := look_call hr hc
    have hlen := (call?_length (call?_of_callAfter? hc)).2
    have hlast :
        (front ++ called lib.marker.toList call.name call.inside []).getLast? = some ')' := by
      rw [called_nil, ← List.append_assoc, List.getLast?_concat]
    have hargs (a : List Char) (ha : a ∈ call.arguments) :
        (resolveOnto lib store "" none a).mapError .failure = pass lib store steps a 0 "" := by
      have hlt := length_lt_of_mem_arguments (call?_of_callAfter? hc) ha
      exact (ihargs a ha steps [] (by omega) rfl).symm
    rw [pass_succ _ _ _ _ _ _ (List.cons_ne_nil c rest), hlook, mapError_bind,
      mapM_attach_mapError hargs]
    change ((call.arguments.mapM fun a => pass lib store steps a 0 "") >>= fun args =>
      (lib.evaluate store (String.ofList call.name) args).mapError Stop.failure >>= fun value =>
        pass lib store steps _ _ (out ++ value)) = _
    refine congrArg _ (funext fun args => ?_)
    rw [mapError_bind]
    refine congrArg _ (funext fun value => ?_)
    rw [hrest, ← List.append_assoc]
    exact ih value steps _ (by omega) hlast
  | case5 out before c rest hr hc ih =>
    obtain ⟨steps, rfl⟩ := Nat.exists_eq_add_one.2 (Nat.zero_lt_of_lt h)
    subst hbefore
    rw [pass_succ _ _ _ _ _ _ (List.cons_ne_nil c rest), look_letter hr hc]
    have hnext := ih steps (front ++ [c]) (by simpa using h) List.getLast?_concat
    rw [List.append_assoc, List.singleton_append] at hnext
    exact hnext

end Pass

/-! ## Everything on the way -/

/-- **An iteration takes something** wherever it starts, and what it calls the pass on is shorter
than what it takes. -/
theorem exists_look (marker before : List Char) {rest : List Char} (hne : rest ≠ []) :
    ∃ item taken behind, look marker (before ++ rest) (utf8Len before) = .ok item ∧
      rest = taken ++ behind ∧ taken ≠ [] ∧
      (item = .unterminated rest ∨ item.next? = some (utf8Len (before ++ taken))) ∧
      ∀ a ∈ item.nested, a.length < taken.length := by
  obtain ⟨c, more, rfl⟩ := List.exists_cons_of_ne_nil hne
  cases hr : reference? (c :: more) with
  | some found =>
    cases found with
    | none => exact ⟨_, c :: more, [], look_unterminated hr, by simp, hne, .inl rfl, nofun⟩
    | some parts =>
      obtain ⟨inside, tail⟩ := parts
      obtain ⟨hrest, hlook⟩ := look_reference hr
      exact ⟨_, braced inside, tail, hlook, hrest, List.cons_ne_nil _ _, .inr rfl, nofun⟩
  | none =>
    cases hc : callAfter? marker before.getLast? (c :: more) with
    | none => exact ⟨_, [c], more, look_letter hr hc, rfl, List.cons_ne_nil _ _, .inr rfl, nofun⟩
    | some call =>
      obtain ⟨hrest, hlook⟩ := look_call hr hc
      -- What is taken is the same call with nothing behind it.
      have hcall : call? marker (called marker call.name call.inside []) =
          some ⟨call.name, call.inside, []⟩ :=
        call?_eq_some_iff.2 ⟨rfl, (call?_eq_some_iff.1 (call?_of_callAfter? hc)).2⟩
      refine ⟨_, _, call.rest, hlook, hrest, ?_, .inr rfl, fun a ha =>
        length_lt_of_mem_arguments hcall ha⟩
      rw [called_nil]
      exact List.append_ne_nil_of_right_ne_nil _ (List.cons_ne_nil _ _)

/-- **The search for the end of a call** finds the end of the shortest level part, or that there is
none. -/
theorem exists_closingAt (before rest : List Char) :
    ∃ found, closingAt (before ++ '(' :: rest) (utf8Len before) = .ok found ∧
      (∀ close, found = some close → ∃ part, close + 1 = utf8Len (before ++ part) ∧
        Balanced part ∧ ShortestLevel ('(' :: rest) part) ∧
      (found = none → ∀ part ≠ [], part <+: '(' :: rest → ¬ Level part) := by
  refine ⟨_, closingAt_eq before rest, fun close hclose => ?_, fun hnone part hne hpart => ?_⟩
  · obtain ⟨⟨inside, tail⟩, hfound, rfl⟩ := Option.map_eq_some_iff.1 hclose
    refine ⟨'(' :: (inside ++ [')']), ?_, .nested (closing?_eq_some_iff.1 hfound).2 .nil,
      shortestLevel_of_closing? hfound⟩
    rw [← List.cons_append, ← List.append_assoc, String.utf8Len_append (_ ++ _)]
    rfl
  · exact not_level_of_closing? (Option.map_eq_none_iff.1 hnone) hne hpart

/-- **The scanners are total.**  Wherever an iteration starts in a text, it finds something: a
reference without an end, which is a failure, or something of at least one character, behind which
the pass goes on; and the arguments of a call are shorter than the call.  The search for the end of
a call finds the end of the shortest part that is level, which is balanced as well, or nothing if no
part is level.  So the pass ends within as many steps as there are characters and one more, with the
text or the failure that it has on lists, and with nothing else: no count falls below zero, and
every cut is made at an offset that is valid in the text. -/
theorem scanners_total (lib : Library) (store : Store) (text : String) :
    (∀ before rest, text.toList = before ++ rest → rest ≠ [] → ∃ item taken behind,
      look lib.marker.toList text.toList (utf8Len before) = .ok item ∧
        rest = taken ++ behind ∧ taken ≠ [] ∧
        (item = .unterminated rest ∨ item.next? = some (utf8Len (before ++ taken))) ∧
        ∀ a ∈ item.nested, a.length < taken.length) ∧
    (∀ before rest, text.toList = before ++ '(' :: rest → ∃ found,
      closingAt text.toList (utf8Len before) = .ok found ∧
        (∀ close, found = some close → ∃ part, close + 1 = utf8Len (before ++ part) ∧
          Balanced part ∧ ShortestLevel ('(' :: rest) part) ∧
        (found = none → ∀ part ≠ [], part <+: '(' :: rest → ¬ Level part)) ∧
    (∀ i, (cut? i text.toList).isSome ↔ (⟨i⟩ : String.Pos.Raw).IsValid text) ∧
    ∀ steps, text.length < steps →
      pass lib store steps text.toList 0 "" = (resolve lib store text).mapError .failure := by
  refine ⟨fun before rest htext hne => ?_, fun before rest htext => ?_, fun i => isSome_cut?_iff,
    fun steps hsteps => pass_eq lib store steps [] text.toList "" ?_⟩
  · rw [htext]
    exact exists_look lib.marker.toList before hne
  · rw [htext]
    exact exists_closingAt before rest
  · rwa [String.length_toList]

/-- Characters of one to three bytes, a parenthesis in quotes, and one that is never closed. -/
theorem scanners_total_multibyte :
    let text := "a$\x7by:-é\x7d(core:concat('日', '(')("
    (∃ taken, (∀ a ∈ ["日".toList, "(".toList], a.length < taken.length) ∧
        look "core".toList text.toList 10 = .ok (.call "concat".toList ["日".toList, "(".toList]
          (utf8Len ("a$\x7by:-é\x7d(".toList ++ taken)))) ∧
      (closingAt text.toList 21 = .ok (some 32) ∧ ∃ part,
        ShortestLevel "('日', '(')(".toList part ∧
        32 + 1 = utf8Len ("a$\x7by:-é\x7d(core:concat".toList ++ part)) ∧
      (closingAt text.toList 9 = .ok none ∧ ¬ Level "(core:concat('日', '(')(".toList) ∧
      ((⟨26⟩ : String.Pos.Raw).IsValid text ∧ ¬ (⟨24⟩ : String.Pos.Raw).IsValid text) ∧
      pass Library.builtin (Store.ofFields []) 32 text.toList 0 "" = .ok "aé(日((" := by
  intro text
  obtain ⟨hlook, hclosing, hcut, hpass⟩ := scanners_total Library.builtin (Store.ofFields []) text
  refine ⟨?_, ?_, ?_, ⟨(hcut 26).1 (by decide), fun h => ?_⟩, (hpass 32 (by decide)).trans (by cbv)⟩
  · have hfound : look "core".toList text.toList 10 =
        .ok (.call "concat".toList ["日".toList, "(".toList] 33) := by cbv
    obtain ⟨item, taken, behind, hitem, -, -, hnext, hnested⟩ :=
      hlook "a$\x7by:-é\x7d(".toList "core:concat('日', '(')(".toList (by decide) (by decide)
    obtain rfl := Except.ok.inj (hitem.symm.trans hfound)
    obtain hend | hnext := hnext
    · cases hend
    · exact ⟨taken, hnested, by rw [hfound, ← Option.some.inj hnext]⟩
  · have hfound : closingAt text.toList 21 = .ok (some 32) := by cbv
    obtain ⟨found, hsearch, hsome, -⟩ :=
      hclosing "a$\x7by:-é\x7d(core:concat".toList "'日', '(')(".toList (by decide)
    obtain rfl := Except.ok.inj (hsearch.symm.trans hfound)
    obtain ⟨part, hpart, -, hshortest⟩ := hsome 32 rfl
    exact ⟨hfound, part, hshortest, hpart⟩
  · have hfound : closingAt text.toList 9 = .ok none := by cbv
    obtain ⟨found, hsearch, -, hnone⟩ :=
      hclosing "a$\x7by:-é\x7d".toList "core:concat('日', '(')(".toList (by decide)
    obtain rfl := Except.ok.inj (hsearch.symm.trans hfound)
    exact ⟨hfound, hnone rfl _ (by decide) (by decide)⟩
  · exact absurd ((hcut 24).2 h) (by decide)

end Scenario.Resolve.Offset
