import Mathlib
import Scenario.Proofs.Validation.Resolved

/-!
# Strict and lenient comparisons

A strict comparison does what a lenient one does, and in addition it refuses members that are not
expected.  It does so where it meets them, after the expected members of the same object and before
whatever comes behind the object, so its failure may come before one that both would give.  What
the two make of a message is the same but for this: either the outcomes are equal, or the strict
one names a member that is not expected.

## What is here

* `MessageExpectation.Reaches` — the pairs of objects, an expected one and an actual one, that a
  comparison comes to.  A text is compared with the text form of whatever stands there, so nothing
  is reached through a text, and nothing is reached through arrays of different lengths.
* `MessageExpectation.Tightens` relates the outcomes of the two comparisons; it goes through
  sequences (`Tightens.bind`), so that it holds of values by the recursion of the comparison
  (`tightens_compare`).
* `MessageExpectation.strict_iff_lenient` — the main result, for whole messages.
-/

set_option autoImplicit false

namespace Scenario
namespace MessageExpectation

/-! ## What is reached -/

/-- The pairs of an expected and an actual object that a comparison comes to. -/
inductive Reaches : Json → Json → Fields Json → Fields Json → Prop where
  | here (members values : Fields Json) :
    Reaches (.object members) (.object values) members values
  | member {members values expected actual : Fields Json} {name : String} {w v : Json}
    (hexpected : (name, w) ∈ members) (hfound : values.get? name = some v)
    (h : Reaches w v expected actual) : Reaches (.object members) (.object values) expected actual
  | item {items values : List Json} {expected actual : Fields Json} {w v : Json}
    (hlength : items.length = values.length) (hitem : (w, v) ∈ items.zip values)
    (h : Reaches w v expected actual) : Reaches (.array items) (.array values) expected actual

/-- Whether an object that is reached has a member of this name that is not expected. -/
def Unexpected (p v : Json) (name : String) : Prop :=
  ∃ expected actual, Reaches p v expected actual ∧ name ∈ actual.names ∧ name ∉ expected.names

theorem unexpected_object_iff {members values : Fields Json} {name : String} :
    Unexpected (.object members) (.object values) name ↔
      (∃ m ∈ members, ∃ v, values.get? m.1 = some v ∧ Unexpected m.2 v name) ∨
        (name ∈ values.names ∧ name ∉ members.names) := by
  constructor
  · rintro ⟨expected, actual, hreaches, hname⟩
    cases hreaches with
    | here => exact .inr hname
    | member hexpected hfound h => exact .inl ⟨_, hexpected, _, hfound, expected, actual, h, hname⟩
  · rintro (⟨m, hm, v, hfound, expected, actual, h, hname⟩ | hname)
    · exact ⟨expected, actual, .member hm hfound h, hname⟩
    · exact ⟨members, values, .here members values, hname⟩

theorem unexpected_array_iff {items values : List Json} (hlength : items.length = values.length)
    {name : String} :
    Unexpected (.array items) (.array values) name ↔
      ∃ pair ∈ items.zip values, Unexpected pair.1 pair.2 name := by
  constructor
  · rintro ⟨expected, actual, hreaches, hname⟩
    cases hreaches with
    | item _ hitem h => exact ⟨_, hitem, expected, actual, h, hname⟩
  · rintro ⟨⟨w, v⟩, hitem, expected, actual, h, hname⟩
    exact ⟨expected, actual, .item hlength hitem h, hname⟩

/-! ## Outcomes of the two comparisons -/

/-- How the outcome of a strict comparison may be related to that of a lenient one, if those members
are not expected: they are equal, and then a success means that there are none of these members, or
the strict one names one of them. -/
inductive Tightens (unexpected : String → Prop) : Outcome → Outcome → Prop where
  | same {outcome : Outcome} (h : outcome = .ok () → ∀ name, ¬ unexpected name) :
    Tightens unexpected outcome outcome
  | refused {path name : String} {lenient : Outcome} (h : unexpected name) :
    Tightens unexpected (.error (.validation s!"unexpected field '{path}.{name}'")) lenient

namespace Tightens

variable {unexpected more : String → Prop} {strict lenient : Outcome}

theorem failed (f : Failure) : Tightens unexpected (.error f) (.error f) := .same nofun

/-- Two comparisons one after the other. -/
theorem bind (h : Tightens unexpected strict lenient) {next next' : Unit → Outcome}
    (hnext : Tightens more (next ()) (next' ())) :
    Tightens (fun name => unexpected name ∨ more name) (strict >>= next) (lenient >>= next') := by
  cases h with
  | refused hname => exact .refused (.inl hname)
  | same hnone =>
    cases strict with
    | error f => exact .failed f
    | ok u =>
      change Tightens _ (next ()) (next' ())
      generalize next () = outcome, next' () = outcome' at hnext
      cases hnext with
      | refused hname => exact .refused (.inr hname)
      | same hmore => exact .same fun hok name => not_or.2 ⟨hnone rfl name, hmore hok name⟩

theorem congr (h : Tightens unexpected strict lenient)
    (heq : ∀ name, more name ↔ unexpected name) : Tightens more strict lenient := by
  cases h with
  | refused hname => exact .refused ((heq _).2 hname)
  | same hnone => exact .same fun hok name hname => hnone hok name ((heq name).1 hname)

/-- **The strict comparison succeeds** just if the lenient one does and nothing is unexpected. -/
theorem eq_ok_iff (h : Tightens unexpected strict lenient) :
    strict = .ok () ↔ lenient = .ok () ∧ ∀ name, ¬ unexpected name := by
  cases h with
  | refused hname => exact iff_of_false nofun fun hnone => hnone.2 _ hname
  | same hnone => exact ⟨fun hok => ⟨hok, hnone hok⟩, And.left⟩

end Tightens

variable (lib : Library) (store : Store)

theorem tightens_refuseExtra (path : String) (members values : Fields Json) :
    Tightens (fun name => name ∈ values.names ∧ name ∉ members.names)
      (refuseExtra .strict path members values) (refuseExtra .lenient path members values) := by
  obtain ⟨hok, hall⟩ | ⟨extra, hactual, hexpected, herror⟩ :=
    refuseExtra_strict_cases path members values
  · rw [hok]
    exact .same fun _ name hname => hname.2 (hall name hname.1)
  · rw [herror]
    exact .refused ⟨hactual, hexpected⟩

/-- Where not two objects or two arrays meet there is nothing to be strict about. -/
theorem tightens_leaf {p v : Json} {path : String}
    (hobject : ∀ members values, p = .object members → v = .object values → False)
    (harray : ∀ items values, p = .array items → v = .array values → False) :
    Tightens (Unexpected p v) (compare lib store .strict path p v)
      (compare lib store .lenient path p v) := by
  have heq : compare lib store .strict path p v = compare lib store .lenient path p v := by
    cases p with
    | string s => simp only [compare]
    | array items =>
      cases v with
      | array values => exact (harray _ _ rfl rfl).elim
      | _ => simp only [compare]
    | object members =>
      cases v with
      | object values => exact (hobject _ _ rfl rfl).elim
      | _ => simp only [compare]
    | _ => cases v <;> simp only [compare]
  rw [heq]
  refine .same fun _ name hname => ?_
  obtain ⟨expected, actual, hreaches, -⟩ := hname
  cases hreaches with
  | here => exact hobject _ _ rfl rfl
  | member => exact hobject _ _ rfl rfl
  | item => exact harray _ _ rfl rfl

mutual

/-- **Comparing a value strictly** differs from comparing it leniently only where something is not
expected, by the recursion of the comparison. -/
theorem tightens_compare : (p : Json) → (path : String) → (v : Json) →
    Tightens (Unexpected p v) (compare lib store .strict path p v)
      (compare lib store .lenient path p v)
  | .null, _, _ => tightens_leaf lib store nofun nofun
  | .bool _, _, _ => tightens_leaf lib store nofun nofun
  | .number _, _, _ => tightens_leaf lib store nofun nofun
  | .string _, _, _ => tightens_leaf lib store nofun nofun
  | .array items, path, v => by
    cases v with
    | array values =>
      rw [compare, compare]
      split
      · exact .failed _
      · next hlength =>
        exact (tightens_compareItems items path 0 values).congr fun _ =>
          unexpected_array_iff (not_not.1 hlength)
    | _ => exact tightens_leaf lib store nofun nofun
  | .object members, path, v => by
    cases v with
    | object values =>
      rw [compare, compare]
      exact ((tightens_compareMembers members path values).bind
        (tightens_refuseExtra path members values)).congr fun _ => unexpected_object_iff
    | _ => exact tightens_leaf lib store nofun nofun

theorem tightens_compareItems : (items : List Json) → (path : String) → (index : Nat) →
    (values : List Json) →
    Tightens (fun name => ∃ pair ∈ items.zip values, Unexpected pair.1 pair.2 name)
      (compareItems lib store .strict path index items values)
      (compareItems lib store .lenient path index items values)
  | w :: rest, path, index, v :: values => by
    rw [compareItems, compareItems]
    have hrest := tightens_compareItems rest path (index + 1) values
    refine ((tightens_compare w _ v).bind hrest).congr fun name => ?_
    rw [List.zip_cons_cons, List.exists_mem_cons_iff]
  | [], _, _, _ => by
    simp only [compareItems]
    exact .same fun _ _ => by simp
  | _ :: _, _, _, [] => by
    simp only [compareItems]
    exact .same fun _ _ => by simp

theorem tightens_compareMembers : (members : Fields Json) → (path : String) →
    (values : Fields Json) →
    Tightens (fun name => ∃ m ∈ members, ∃ v, values.get? m.1 = some v ∧ Unexpected m.2 v name)
      (compareMembers lib store .strict path members values)
      (compareMembers lib store .lenient path members values)
  | [], path, values => by
    rw [compareMembers, compareMembers]
    exact .same fun _ _ => by simp
  | (key, w) :: rest, path, values => by
    rw [compareMembers, compareMembers]
    cases hfound : values.get? key with
    | none => exact .failed _
    | some v =>
      refine ((tightens_compare w _ v).bind (tightens_compareMembers rest path values)).congr
        fun name => ?_
      rw [List.exists_mem_cons_iff]
      simp [hfound]

end

/-! ## Whole messages -/

theorem tightens_validate (e : MessageExpectation) (m : Message) :
    Tightens (fun name => ∃ payload, e.payload = some payload ∧ Unexpected payload m.payload name)
      (validate lib store .strict e m) (validate lib store .lenient e m) := by
  have hheaders : Tightens (fun _ => False) (validateHeaders lib store m e.headers)
      (validateHeaders lib store m e.headers) := .same fun _ _ => not_false
  rw [validate, validate]
  cases hpayload : e.payload with
  | none =>
    have hnothing : Tightens (fun _ => False) (.ok ()) (.ok ()) := .same fun _ _ => not_false
    exact (hheaders.bind hnothing).congr fun _ => by simp
  | some payload =>
    exact (hheaders.bind (tightens_compare lib store payload "$" m.payload)).congr fun _ => by simp

/-- **Strict and lenient comparisons differ only in members that are not expected.**  A message is
accepted strictly just if it is accepted leniently and no object that is reached in its payload has
a member that is not expected there.  Where the outcomes differ at all, the strict one names such a
member.  Headers are judged in the same way, and before the payload. -/
theorem strict_iff_lenient (e : MessageExpectation) (m : Message) :
    (validate lib store .strict e m = .ok () ↔
      validate lib store .lenient e m = .ok () ∧
        ∀ payload, e.payload = some payload →
          ∀ expected actual, Reaches payload m.payload expected actual →
            ∀ name ∈ actual.names, name ∈ expected.names) ∧
    (validate lib store .strict e m = validate lib store .lenient e m ∨
      ∃ payload expected actual, e.payload = some payload ∧
        Reaches payload m.payload expected actual ∧
        ∃ (path extra : String), extra ∈ actual.names ∧ extra ∉ expected.names ∧
        validate lib store .strict e m =
          .error (.validation s!"unexpected field '{path}.{extra}'")) ∧
    ∀ strictness,
      validate lib store strictness { headers := e.headers } m =
        validate lib store .lenient { headers := e.headers } m ∧
      ∀ f, validate lib store .lenient { headers := e.headers } m = .error f →
        validate lib store strictness e m = .error f := by
  have htightens := tightens_validate lib store e m
  refine ⟨?_, ?_, fun strictness => ⟨rfl, fun f hf => ?_⟩⟩
  · rw [htightens.eq_ok_iff]
    refine and_congr_right fun _ => ⟨?_, ?_⟩
    · intro hnone payload hpayload expected actual hreaches name hname
      by_contra hextra
      exact hnone name ⟨payload, hpayload, expected, actual, hreaches, hname, hextra⟩
    · rintro hall name ⟨payload, hpayload, expected, actual, hreaches, hname, hextra⟩
      exact hextra (hall payload hpayload expected actual hreaches name hname)
  · generalize hstrict : validate lib store .strict e m = strict,
      validate lib store .lenient e m = lenient at htightens
    cases htightens with
    | same => exact .inl rfl
    | refused hname =>
      obtain ⟨payload, hpayload, expected, actual, hreaches, hname, hextra⟩ := hname
      exact .inr ⟨payload, expected, actual, hpayload, hreaches, _, _, hname, hextra, rfl⟩
  · have hheaders : validateHeaders lib store m e.headers = .error f := by
      rw [validate] at hf
      cases hh : validateHeaders lib store m e.headers with
      | error g => rw [hh] at hf; exact hf
      | ok u => rw [hh] at hf; cases hf
    rw [validate, hheaders]
    rfl

/-- An object in an array in an object has a member that is not expected, and so has the object that
a matcher is compared with.  The first one is reached and refused, the other one is not reached. -/
theorem strict_iff_lenient_nested :
    let payload : Json := .object
      [("lines", .array [.object [("id", .string "@startsWith('a')@")]]),
       ("trace", .string "@ignore@")]
    let e : MessageExpectation := {
      payload := some payload, headers := [("operation", "$\x7boperation\x7d")] }
    let m : Message := {
      id := "m"
      headers := [("operation", .string "create")]
      payload := .object
        [("lines", .array [.object [("id", .string "a-1"), ("note", .null)]]),
         ("trace", .object [("span", .null)])] }
    let store := Store.ofFields [("operation", .string "create")]
    validate Library.builtin store .lenient e m = .ok () ∧
      Reaches payload m.payload [("id", .string "@startsWith('a')@")]
        [("id", .string "a-1"), ("note", .null)] ∧
      validate Library.builtin store .strict e m ≠ .ok () ∧
      ¬ Reaches (.string "@ignore@") (.object [("span", .null)]) [] [("span", .null)] := by
  intro payload e m store
  have hlenient : validate Library.builtin store .lenient e m = .ok () := by cbv
  have hreaches : Reaches payload m.payload [("id", .string "@startsWith('a')@")]
      [("id", .string "a-1"), ("note", .null)] :=
    .member List.mem_cons_self rfl (.item rfl List.mem_cons_self (.here _ _))
  have hapart : ¬ Reaches (.string "@ignore@") (.object [("span", .null)]) []
      [("span", .null)] := by
    intro h
    cases h
  refine ⟨hlenient, hreaches, fun hstrict => ?_, hapart⟩
  obtain ⟨-, hnone⟩ := (strict_iff_lenient Library.builtin store e m).1.1 hstrict
  exact absurd (hnone payload rfl _ _ hreaches "note" (by decide)) (by decide)

end MessageExpectation
end Scenario
