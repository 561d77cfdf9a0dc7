import Mathlib
import Scenario.Proofs.Failure.InOrder
import Scenario.Proofs.Json.Fields
import Scenario.Validation
import Scenario.Json.Raw

/-!
# What is sent is what is expected

A payload is resolved when a message is sent, and it is resolved again, leaf by leaf, when a message
is compared with it.  The two go through a value in different ways: the resolver takes every value
to a value, while the comparison looks up the members of one object in another, counts items,
compares texts with the text form of whatever stands there, and everything else as it is.  They
agree wherever both mean the same by a text, that is, wherever a text is not a matcher.  What stands
in the variables plays no part in this: a value that looks like a matcher or like a reference was
put in on one side and is put in on the other, and neither reads it again.

## What is here

* `Json.Proper` — the names in every object are distinct.  Values that are read from documents are
  like that (`RawJson.proper_value?`), and resolving keeps it (`proper_resolveValue`).  Others are
  not values that a program can hold, and the comparison, which looks members up, would find the
  first of two where the second is expected.
* `Json.Ordered` — the members of every object are in the order of their names, and so distinct.
  That is how values are read from documents (`RawJson.ordered_value?`).
* `Json.texts` — all strings in a value.  The names of members are none of them, since neither side
  resolves names.
* `Json.Matches` — whether a value is as another one says it should be, without variables or paths.
  A proper value is as it says itself (`Json.matches_self`); its members are looked for in all of
  them, since that is what the comparison does with the members that are left.
* `MessageExpectation.compare_eq_ok_iff` — the comparison with a payload accepts just what matches
  the resolution of the payload, by the recursion of the resolver.
* `MessageExpectation.validate_resolved` — so a message with the resolution of a payload meets the
  payload, whether or not the comparison is strict.
-/

set_option autoImplicit false

namespace Scenario

/-! ## Values -/

/-- Whether no two members of an object have the same name, at any depth. -/
inductive Json.Proper : Json → Prop where
  | null : Proper .null
  | bool (b : Bool) : Proper (.bool b)
  | number (n : Numeral) : Proper (.number n)
  | string (s : String) : Proper (.string s)
  | array {items : List Json} (h : ∀ v ∈ items, Proper v) : Proper (.array items)
  | object {members : Fields Json} (hnames : members.Distinct) (h : ∀ m ∈ members, Proper m.2) :
    Proper (.object members)

theorem Fields.Ordered.distinct {α : Type} {fields : Fields α} (h : fields.Ordered) :
    fields.Distinct := by
  refine List.pairwise_map.2 (h.imp fun {p q} hlt (heq : p.1 = q.1) => ?_)
  exact String.lt_irrefl q.1 (heq ▸ hlt)

/-- Whether the members of every object are in the order of their names, at any depth. -/
inductive Json.Ordered : Json → Prop where
  | null : Ordered .null
  | bool (b : Bool) : Ordered (.bool b)
  | number (n : Numeral) : Ordered (.number n)
  | string (s : String) : Ordered (.string s)
  | array {items : List Json} (h : ∀ v ∈ items, Ordered v) : Ordered (.array items)
  | object {members : Fields Json} (hnames : members.Ordered) (h : ∀ m ∈ members, Ordered m.2) :
    Ordered (.object members)

theorem Json.Ordered.proper {v : Json} (h : v.Ordered) : v.Proper := by
  induction h with
  | null => exact .null
  | bool b => exact .bool b
  | number n => exact .number n
  | string s => exact .string s
  | array _ ih => exact .array ih
  | object hnames _ ih => exact .object hnames.distinct ih

mutual

/-- All strings in a value, in order. -/
def Json.texts : Json → List String
  | .string s => [s]
  | .array items => itemTexts items
  | .object members => memberTexts members
  | _ => []

/-- All strings in some values, in order. -/
def Json.itemTexts : List Json → List String
  | [] => []
  | v :: rest => v.texts ++ itemTexts rest

/-- All strings in some named values, in order. -/
def Json.memberTexts : Fields Json → List String
  | [] => []
  | (_, v) :: rest => v.texts ++ memberTexts rest

end

namespace RawJson

mutual

/-- What is read from a document is in order, since the reader sorts members by name. -/
theorem ordered_value? : (doc : RawJson) → {v : Json} → doc.value? = some v → v.Ordered
  | .null, _, h => by
    cases h
    exact .null
  | .bool b, _, h => by
    cases h
    exact .bool b
  | .number n, _, h => by
    cases h
    exact .number n
  | .string s, _, h => by
    cases h
    exact .string s
  | .array items, _, h => by
    obtain ⟨vs, hvs, rfl⟩ := Option.map_eq_some_iff.1 h
    exact .array (ordered_valueItems? items hvs)
  | .object members, _, h => by
    obtain ⟨ms, hms, rfl⟩ := Option.map_eq_some_iff.1 h
    exact .object (Fields.ordered_sorted ms) fun m hm =>
      ordered_valueMembers? members hms m (Fields.mem_of_mem_sorted hm)
  | .unreadable, _, h => nomatch h

theorem ordered_valueItems? : (items : List RawJson) → {vs : List Json} →
    valueItems? items = some vs → ∀ v ∈ vs, v.Ordered
  | [], _, h => by
    cases h
    exact List.forall_mem_nil _
  | doc :: rest, _, h => by
    rw [valueItems?] at h
    split at h
    · next hv hvs =>
      cases h
      exact List.forall_mem_cons.2 ⟨ordered_value? doc hv, ordered_valueItems? rest hvs⟩
    · cases h

theorem ordered_valueMembers? : (members : Fields RawJson) → {ms : Fields Json} →
    valueMembers? members = some ms → ∀ m ∈ ms, m.2.Ordered
  | [], _, h => by
    cases h
    exact List.forall_mem_nil _
  | (_, doc) :: rest, _, h => by
    rw [valueMembers?] at h
    split at h
    · next hv hms =>
      cases h
      exact List.forall_mem_cons.2 ⟨ordered_value? doc hv, ordered_valueMembers? rest hms⟩
    · cases h

end

/-- **What is read from a document is proper.** -/
theorem proper_value? {doc : RawJson} {v : Json} (h : doc.value? = some v) : v.Proper :=
  (ordered_value? doc h).proper

end RawJson

/-! ## Resolving keeps the shape of a value -/

section Shape

variable {lib : Library} {store : Store}

/-- Items are resolved one by one. -/
theorem exists_of_resolveItems_cons {v : Json} {rest ws : List Json}
    (h : resolveItems lib store (v :: rest) = .ok ws) :
    ∃ w more, resolveValue lib store v = .ok w ∧ resolveItems lib store rest = .ok more ∧
      ws = w :: more := by
  obtain ⟨w, hw, h⟩ := exists_of_bind_eq_ok h
  obtain ⟨more, hmore, h⟩ := exists_of_bind_eq_ok h
  cases h
  exact ⟨w, more, hw, hmore, rfl⟩

/-- Members are resolved one by one. -/
theorem exists_of_resolveMembers_cons {name : String} {v : Json} {rest ws : Fields Json}
    (h : resolveMembers lib store ((name, v) :: rest) = .ok ws) :
    ∃ w more, resolveValue lib store v = .ok w ∧ resolveMembers lib store rest = .ok more ∧
      ws = (name, w) :: more := by
  obtain ⟨w, hw, h⟩ := exists_of_bind_eq_ok h
  obtain ⟨more, hmore, h⟩ := exists_of_bind_eq_ok h
  cases h
  exact ⟨w, more, hw, hmore, rfl⟩

theorem length_resolveItems {items ws : List Json} (h : resolveItems lib store items = .ok ws) :
    ws.length = items.length := by
  induction items generalizing ws with
  | nil =>
    cases h
    rfl
  | cons v rest ih =>
    obtain ⟨w, more, -, hmore, rfl⟩ := exists_of_resolveItems_cons h
    rw [List.length_cons, ih hmore, List.length_cons]

/-- Names are not resolved. -/
theorem names_resolveMembers {members ws : Fields Json}
    (h : resolveMembers lib store members = .ok ws) : ws.names = members.names := by
  induction members generalizing ws with
  | nil =>
    cases h
    rfl
  | cons m rest ih =>
    obtain ⟨w, more, -, hmore, rfl⟩ := exists_of_resolveMembers_cons h
    exact congrArg (m.1 :: ·) (ih hmore)

mutual

theorem proper_resolveValue : (p : Json) → {q : Json} → p.Proper →
    resolveValue lib store p = .ok q → q.Proper
  | .null, _, _, h => by
    cases h
    exact .null
  | .bool b, _, _, h => by
    cases h
    exact .bool b
  | .number n, _, _, h => by
    cases h
    exact .number n
  | .string s, _, _, h => by
    obtain ⟨text, -, rfl⟩ := exists_of_map_eq_ok h
    exact .string text
  | .array items, _, hp, h => by
    obtain ⟨ws, hws, rfl⟩ := exists_of_map_eq_ok h
    cases hp with
    | array hp => exact .array (proper_resolveItems items hp hws)
  | .object members, _, hp, h => by
    obtain ⟨ws, hws, rfl⟩ := exists_of_map_eq_ok h
    cases hp with
    | object hdistinct hp =>
      refine .object ?_ (proper_resolveMembers members hp hws)
      rwa [Fields.Distinct, names_resolveMembers hws]

theorem proper_resolveItems : (items : List Json) → {ws : List Json} → (∀ v ∈ items, v.Proper) →
    resolveItems lib store items = .ok ws → ∀ w ∈ ws, w.Proper
  | [], _, _, h => by
    cases h
    exact List.forall_mem_nil _
  | v :: rest, _, hp, h => by
    obtain ⟨w, more, hw, hmore, rfl⟩ := exists_of_resolveItems_cons h
    obtain ⟨hv, hrest⟩ := List.forall_mem_cons.1 hp
    exact List.forall_mem_cons.2 ⟨proper_resolveValue v hv hw, proper_resolveItems rest hrest hmore⟩

theorem proper_resolveMembers : (members : Fields Json) → {ws : Fields Json} →
    (∀ m ∈ members, m.2.Proper) → resolveMembers lib store members = .ok ws → ∀ m ∈ ws, m.2.Proper
  | [], _, _, h => by
    cases h
    exact List.forall_mem_nil _
  | (_, v) :: rest, _, hp, h => by
    obtain ⟨w, more, hw, hmore, rfl⟩ := exists_of_resolveMembers_cons h
    obtain ⟨hv, hrest⟩ := List.forall_mem_cons.1 hp
    exact List.forall_mem_cons.2
      ⟨proper_resolveValue v hv hw, proper_resolveMembers rest hrest hmore⟩

end

end Shape

/-! ## Texts that are no matchers -/

/-- What is not a matcher is met by what it resolves to, and by nothing else. -/
theorem Expectation.meets_of_not_isMatcher {lib : Library} {store : Store} {expected : String}
    (h : isMatcher expected = false) (actual : String) :
    meets lib store expected actual = (resolve lib store expected).map (· == actual) := by
  rw [isMatcher, Option.isSome_eq_false_iff, Option.isNone_iff_eq_none] at h
  rw [meets, h]
  cases resolve lib store expected <;> rfl

theorem Expectation.validate_eq_ok_iff {lib : Library} {store : Store}
    {expected resolved : String} (h : isMatcher expected = false)
    (hresolved : resolve lib store expected = .ok resolved) (path actual : String) :
    Expectation.validate lib store path expected actual = .ok () ↔ actual = resolved := by
  rw [Expectation.validate, meets_of_not_isMatcher h, hresolved]
  by_cases heq : resolved = actual
  · exact iff_of_true (by simp [heq, Except.map, bind, Except.bind, pure, Except.pure]) heq.symm
  · exact iff_of_false (by simp [heq, Except.map, bind, Except.bind]) (Ne.symm heq)

/-! ## What is as it should be -/

mutual

/-- Whether a value is as another one says it should be: a text says what the text form of the value
is, an object says what its members are, and all else is equal. -/
inductive Json.Matches (strictness : Strictness) : Json → Json → Prop where
  | null : Matches strictness .null .null
  | bool (b : Bool) : Matches strictness (.bool b) (.bool b)
  | number {n n' : Numeral} (h : n.same n') : Matches strictness (.number n) (.number n')
  | text (v : Json) : Matches strictness (.string v.asText) v
  | array {items values : List Json} (h : MatchItems strictness items values) :
    Matches strictness (.array items) (.array values)
  | object {members values : Fields Json} (h : MatchMembers strictness members values)
    (hextra : strictness = .strict → ∀ name ∈ values.names, name ∈ members.names) :
    Matches strictness (.object members) (.object values)

/-- Whether items are as others say they should be. -/
inductive Json.MatchItems (strictness : Strictness) : List Json → List Json → Prop where
  | nil : MatchItems strictness [] []
  | cons {item v : Json} {items values : List Json} (h : Matches strictness item v)
    (hrest : MatchItems strictness items values) :
    MatchItems strictness (item :: items) (v :: values)

/-- Whether under each name there is a value that is as it should be. -/
inductive Json.MatchMembers (strictness : Strictness) : Fields Json → Fields Json → Prop where
  | nil (values : Fields Json) : MatchMembers strictness [] values
  | cons {name : String} {w v : Json} {members values : Fields Json}
    (hfound : values.get? name = some v) (h : Matches strictness w v)
    (hrest : MatchMembers strictness members values) :
    MatchMembers strictness ((name, w) :: members) values

end

theorem Json.MatchItems.length_eq {strictness : Strictness} {items values : List Json}
    (h : MatchItems strictness items values) : values.length = items.length := by
  induction items generalizing values with
  | nil =>
    cases h
    rfl
  | cons item items ih =>
    cases h with
    | cons _ hrest => exact congrArg (· + 1) (ih hrest)

theorem Binary64.sameValue_self (x : Binary64) : x.sameValue x = true := by
  cases x <;> simp [sameValue]

theorem Numeral.same_self (n : Numeral) : n.same n = true := by
  cases n with
  | integer i => exact beq_self_eq_true i
  | float x => exact x.sameValue_self

mutual

/-- **A proper value is as it says itself.** -/
theorem Json.matches_self {strictness : Strictness} : (v : Json) → v.Proper →
    v.Matches strictness v
  | .null, _ => .null
  | .bool b, _ => .bool b
  | .number n, _ => .number n.same_self
  | .string s, _ => .text (.string s)
  | .array items, h => by
    cases h with
    | array h => exact .array (matchItems_self items h)
  | .object members, h => by
    cases h with
    | object hdistinct h =>
      have hfound : ∀ m ∈ members, Fields.get? members m.1 = some m.2 := fun m hm =>
        Fields.get?_of_mem hdistinct hm
      exact .object (matchMembers_self members h hfound) fun _ name hname => hname

theorem Json.matchItems_self {strictness : Strictness} : (items : List Json) →
    (∀ v ∈ items, v.Proper) → Json.MatchItems strictness items items
  | [], _ => .nil
  | v :: rest, h => by
    obtain ⟨hv, hrest⟩ := List.forall_mem_cons.1 h
    exact .cons (matches_self v hv) (matchItems_self rest hrest)

/-- Members are as they say themselves wherever they are found. -/
theorem Json.matchMembers_self {strictness : Strictness} : (members : Fields Json) →
    {values : Fields Json} → (∀ m ∈ members, m.2.Proper) →
    (∀ m ∈ members, values.get? m.1 = some m.2) → Json.MatchMembers strictness members values
  | [], values, _, _ => .nil values
  | (name, v) :: rest, _, h, hfound => by
    obtain ⟨hv, hrest⟩ := List.forall_mem_cons.1 h
    obtain ⟨hname, hothers⟩ := List.forall_mem_cons.1 hfound
    exact .cons hname (matches_self v hv) (matchMembers_self rest hrest hothers)

end

/-! ## The comparison -/

namespace MessageExpectation

variable {lib : Library} {store : Store} {strictness : Strictness}

/-- A strict comparison accepts names that are all expected, and else it names one that is not. -/
theorem refuseExtra_strict_cases (path : String) (expected actual : Fields Json) :
    (refuseExtra .strict path expected actual = .ok () ∧
        ∀ name ∈ actual.names, name ∈ expected.names) ∨
      ∃ extra, extra ∈ actual.names ∧ extra ∉ expected.names ∧
        refuseExtra .strict path expected actual =
          .error (.validation s!"unexpected field '{path}.{extra}'") := by
  have hknown : ∀ name, (!expected.has name) = true ↔ name ∉ expected.names := fun name => by
    rw [Fields.has_eq_isSome, Fields.mem_names_iff, Bool.not_eq_true', Bool.not_eq_true]
  rw [refuseExtra]
  cases hextra : actual.names.find? fun name => !expected.has name with
  | none =>
    refine .inl ⟨rfl, fun name hname => Decidable.byContradiction fun hnot => ?_⟩
    exact List.find?_eq_none.1 hextra name hname ((hknown name).2 hnot)
  | some extra =>
    have hfound : (!expected.has extra) = true :=
      List.find?_some (p := fun name => !expected.has name) hextra
    exact .inr ⟨extra, List.mem_of_find?_eq_some hextra, (hknown extra).1 hfound, rfl⟩

/-- A strict comparison refuses names that are not expected, and a lenient one refuses nothing. -/
theorem refuseExtra_eq_ok_iff {path : String} {expected actual : Fields Json} :
    refuseExtra strictness path expected actual = .ok () ↔
      (strictness = .strict → ∀ name ∈ actual.names, name ∈ expected.names) := by
  cases strictness with
  | lenient => exact iff_of_true rfl nofun
  | strict =>
    obtain ⟨hok, hall⟩ | ⟨extra, hactual, hexpected, herror⟩ :=
      refuseExtra_strict_cases path expected actual
    · exact iff_of_true hok fun _ => hall
    · rw [herror]
      exact iff_of_false nofun fun hall => hexpected (hall rfl extra hactual)

theorem bind_eq_ok_iff {x : Outcome} {f : Unit → Outcome} :
    x >>= f = .ok () ↔ x = .ok () ∧ f () = .ok () := by
  cases x with
  | error e => exact iff_of_false nofun fun h => nomatch h.1
  | ok u => exact ⟨fun h => ⟨rfl, h⟩, And.right⟩

mutual

/-- **The comparison accepts what is as the resolution says**, by the recursion of the resolver. -/
theorem compare_eq_ok_iff : (p : Json) → {q : Json} →
    (∀ text ∈ p.texts, Expectation.isMatcher text = false) → resolveValue lib store p = .ok q →
    (path : String) → (v : Json) →
    (compare lib store strictness path p v = .ok () ↔ q.Matches strictness v)
  | .null, _, _, hq, path, v => by
    cases hq
    cases v with
    | null => exact iff_of_true rfl .null
    | _ => exact iff_of_false (by simp [compare, BEq.beq, Json.same]) nofun
  | .bool b, _, _, hq, path, v => by
    cases hq
    cases v with
    | bool b' =>
      by_cases h : b = b'
      · subst h
        exact iff_of_true (by simp [compare, BEq.beq, Json.same]) (.bool b)
      · refine iff_of_false (by simp [compare, BEq.beq, Json.same, h]) fun hmatches => ?_
        cases hmatches
        exact h rfl
    | _ => exact iff_of_false (by simp [compare, BEq.beq, Json.same]) nofun
  | .number n, _, _, hq, path, v => by
    cases hq
    cases v with
    | number n' =>
      by_cases h : n.same n' = true
      · exact iff_of_true (by simp [compare, BEq.beq, Json.same, h]) (.number h)
      · refine iff_of_false (by simp [compare, BEq.beq, Json.same, h]) fun hmatches => ?_
        cases hmatches with
        | number hsame => exact h hsame
    | _ => exact iff_of_false (by simp [compare, BEq.beq, Json.same]) nofun
  | .string s, _, hplain, hq, path, v => by
    obtain ⟨text, htext, rfl⟩ := exists_of_map_eq_ok hq
    rw [compare, Expectation.validate_eq_ok_iff (hplain s (List.mem_singleton.2 rfl)) htext]
    constructor
    · rintro rfl
      exact .text v
    · intro h
      cases h
      rfl
  | .array items, _, hplain, hq, path, v => by
    obtain ⟨ws, hitems, rfl⟩ := exists_of_map_eq_ok hq
    cases v with
    | array values =>
      rw [compare]
      split
      · next hlength =>
        refine iff_of_false nofun fun h => hlength ?_
        cases h with
        | array h => rw [h.length_eq, length_resolveItems hitems]
      · next hlength =>
        rw [compareItems_eq_ok_iff items hplain hitems path 0 values (not_not.1 hlength)]
        exact ⟨.array, fun | .array h => h⟩
    | _ => exact iff_of_false (by simp [compare, BEq.beq, Json.same]) nofun
  | .object members, _, hplain, hq, path, v => by
    obtain ⟨ws, hmembers, rfl⟩ := exists_of_map_eq_ok hq
    cases v with
    | object values =>
      rw [compare, bind_eq_ok_iff, compareMembers_eq_ok_iff members hplain hmembers path values,
        refuseExtra_eq_ok_iff, ← names_resolveMembers hmembers]
      exact ⟨fun h => .object h.1 h.2, fun | .object h hextra => ⟨h, hextra⟩⟩
    | _ => exact iff_of_false (by simp [compare, BEq.beq, Json.same]) nofun

theorem compareItems_eq_ok_iff : (items : List Json) → {ws : List Json} →
    (∀ text ∈ Json.itemTexts items, Expectation.isMatcher text = false) →
    resolveItems lib store items = .ok ws → (path : String) → (index : Nat) →
    (values : List Json) → items.length = values.length →
    (compareItems lib store strictness path index items values = .ok () ↔
      Json.MatchItems strictness ws values)
  | [], _, _, hws, path, index, [], _ => by
    cases hws
    exact iff_of_true rfl .nil
  | item :: rest, _, hplain, hws, path, index, v :: values, hlength => by
    obtain ⟨w, more, hw, hmore, rfl⟩ := exists_of_resolveItems_cons hws
    obtain ⟨hplainv, hplainrest⟩ := List.forall_mem_append.1 hplain
    rw [compareItems, bind_eq_ok_iff, compare_eq_ok_iff item hplainv hw,
      compareItems_eq_ok_iff rest hplainrest hmore path (index + 1) values (Nat.succ.inj hlength)]
    exact ⟨fun h => .cons h.1 h.2, fun | .cons h hrest => ⟨h, hrest⟩⟩

theorem compareMembers_eq_ok_iff : (members : Fields Json) → {ws : Fields Json} →
    (∀ text ∈ Json.memberTexts members, Expectation.isMatcher text = false) →
    resolveMembers lib store members = .ok ws → (path : String) → (values : Fields Json) →
    (compareMembers lib store strictness path members values = .ok () ↔
      Json.MatchMembers strictness ws values)
  | [], _, _, hws, path, values => by
    cases hws
    exact iff_of_true rfl (.nil values)
  | (name, item) :: rest, _, hplain, hws, path, values => by
    obtain ⟨w, more, hw, hmore, rfl⟩ := exists_of_resolveMembers_cons hws
    obtain ⟨hplainv, hplainrest⟩ := List.forall_mem_append.1 hplain
    rw [compareMembers]
    cases hfound : values.get? name with
    | none =>
      refine iff_of_false nofun fun h => ?_
      cases h with
      | cons hfound' =>
        rw [hfound] at hfound'
        cases hfound'
    | some v =>
      simp only [bind_eq_ok_iff, compare_eq_ok_iff item hplainv hw,
        compareMembers_eq_ok_iff rest hplainrest hmore path values]
      refine ⟨fun h => .cons hfound h.1 h.2, fun h => ?_⟩
      cases h with
      | cons hfound' h hrest =>
        obtain rfl := Option.some.inj (hfound.symm.trans hfound')
        exact ⟨h, hrest⟩

end

/-- **A payload matches its own resolution.**  Where no text in a payload is a matcher and the
payload can be resolved, a message with what it resolves to meets it: for every shape, whatever the
names are and whatever stands in the variables, and also where members that are not expected are
refused.  No other message meets it but those that are as the resolution says. -/
theorem validate_resolved {p q : Json} (hp : p.Proper)
    (hplain : ∀ text ∈ p.texts, Expectation.isMatcher text = false)
    (hq : resolveValue lib store p = .ok q) (m : Message) :
    (m.payload = q → validate lib store strictness { payload := some p } m = .ok ()) ∧
    (validate lib store strictness { payload := some p } m = .ok () ↔
      q.Matches strictness m.payload) := by
  have hiff : validate lib store strictness { payload := some p } m = .ok () ↔
      q.Matches strictness m.payload := compare_eq_ok_iff p hplain hq "$" m.payload
  refine ⟨fun hm => hiff.2 ?_, hiff⟩
  rw [hm]
  exact q.matches_self (proper_resolveValue p hp hq)

/-- Names that look like references and calls, one of them empty; empty containers, a number, a
truth value and nothing at all; a reference inside a text, a call and a fallback.  The variable
holds a matcher that no text meets, and a reference to itself behind it.  A message without members
is refused. -/
theorem validate_resolved_mixed :
    let store := Store.ofFields [("a", .string "@unknown()@ $\x7ba\x7d")]
    let p : Json := .object
      [("", .array []), ("$\x7ba\x7d", .string "is $\x7ba\x7d"),
       ("core:trim('b')", .array [.string "core:upperCase('b')", .object [], .null]),
       ("number", .number (.integer 7)), ("open", .bool true), ("rest", .string "$\x7bc:-d\x7d")]
    let meets (payload : Json) := validate Library.builtin store .strict { payload := some p }
      { id := "m", payload := payload } = .ok ()
    p.Proper ∧ (∀ text ∈ p.texts, Expectation.isMatcher text = false) ∧
    ∃ q, resolveValue Library.builtin store p = .ok q ∧ meets q ∧ ¬ meets (.object []) := by
  intro store p meets
  have hp : p.Proper := by
    refine .object (by simp [Fields.Distinct, Fields.names]) ?_
    simp only [List.forall_mem_cons]
    refine ⟨.array (List.forall_mem_nil _), .string _, .array ?_, .number _, .bool _, .string _,
      List.forall_mem_nil _⟩
    simp only [List.forall_mem_cons]
    exact ⟨.string _, .object List.nodup_nil (List.forall_mem_nil _), .null, List.forall_mem_nil _⟩
  have hplain : ∀ text ∈ p.texts, Expectation.isMatcher text = false := by
    decide
  have hreference : resolve Library.builtin store "is $\x7ba\x7d" =
      .ok "is @unknown()@ $\x7ba\x7d" := by cbv
  have hcall : resolve Library.builtin store "core:upperCase('b')" = .ok "B" := by cbv
  have hfallback : resolve Library.builtin store "$\x7bc:-d\x7d" = .ok "d" := by cbv
  have hq : resolveValue Library.builtin store p = .ok (.object
      [("", .array []), ("$\x7ba\x7d", .string "is @unknown()@ $\x7ba\x7d"),
       ("core:trim('b')", .array [.string "B", .object [], .null]),
       ("number", .number (.integer 7)), ("open", .bool true), ("rest", .string "d")]) := by
    simp only [p, resolveValue, resolveItems, resolveMembers, hreference, hcall, hfallback]
    rfl
  refine ⟨hp, hplain, _, hq, (validate_resolved hp hplain hq _).1 rfl, fun hmeets => ?_⟩
  cases (validate_resolved hp hplain hq _).2.1 hmeets with
  | object hmembers _ =>
    cases hmembers with
    | cons hfound => cases hfound

end MessageExpectation

end Scenario
