import Mathlib
import Scenario.Proofs.Validation.Resolved

/-!
# Resolving a value leaf by leaf

What resolving does to a value is decided at its strings, each on its own: the containers around
them are only gone through.  So nothing that comes out of one string can change how another one is
read, add a member or take one away, and the names of members, whatever they look like, are not
looked at.  Only where strings cannot be resolved does their order matter, since the first one of
them decides the failure; that order is the one in which they stand in the document.

## What is here

* `Json.leaves` — the strings in a value with their places.  In a value whose members are in the
  order of their names, as they are in all that is read from documents, the leaves are in the order
  of their places (`Json.Ordered.pairwise_leaves`): by index in arrays, by name in objects.
* `Json.Leafwise` — whether two values have the same shape, with related strings at the leaves.
* `failsAlike_resolveValue` — resolving a value fails as resolving its leaves in order does.
* `resolveValue_leafwise` — the main result: when there is a result, what it is, and how it fails.
-/

set_option autoImplicit false

namespace Scenario

/-! ## Places -/

/-- Where a value stands in the container around it. -/
inductive Json.Branch where
  | item (index : Nat)
  | member (name : String)
deriving DecidableEq, Repr

/-- Where a value stands in a document, from the outermost container inwards. -/
abbrev Json.Place := List Json.Branch

/-- Whether one value comes before another in their container: arrays are gone through by index and
objects by name. -/
inductive Json.Branch.Before : Branch → Branch → Prop where
  | item {i j : Nat} (h : i < j) : Before (.item i) (.item j)
  | member {m n : String} (h : m < n) : Before (.member m) (.member n)

/-- Whether one place comes before another in a document. -/
def Json.Place.Before : Place → Place → Prop := List.Lex Branch.Before

namespace Json

mutual

/-- The strings in a value with their places, in order. -/
def leaves : Json → List (Place × String)
  | .string s => [([], s)]
  | .array items => itemLeaves 0 items
  | .object members => memberLeaves members
  | _ => []

/-- The strings in some items; the first one has the given index. -/
def itemLeaves (index : Nat) : List Json → List (Place × String)
  | [] => []
  | v :: rest =>
    (v.leaves.map fun (place, s) => (.item index :: place, s)) ++ itemLeaves (index + 1) rest

/-- The strings in some members. -/
def memberLeaves : Fields Json → List (Place × String)
  | [] => []
  | (name, v) :: rest =>
    (v.leaves.map fun (place, s) => (.member name :: place, s)) ++ memberLeaves rest

end

/-! ### The order of the leaves -/

theorem exists_of_mem_itemLeaves {index : Nat} {items : List Json} {leaf : Place × String}
    (h : leaf ∈ itemLeaves index items) : ∃ i rest, index ≤ i ∧ leaf.1 = .item i :: rest := by
  induction items generalizing index with
  | nil => cases h
  | cons v items ih =>
    rw [itemLeaves, List.mem_append] at h
    rcases h with h | h
    · obtain ⟨inner, -, rfl⟩ := List.mem_map.1 h
      exact ⟨index, inner.1, le_rfl, rfl⟩
    · obtain ⟨i, rest, hle, heq⟩ := ih h
      exact ⟨i, rest, Nat.le_of_succ_le hle, heq⟩

theorem exists_of_mem_memberLeaves {members : Fields Json} {leaf : Place × String}
    (h : leaf ∈ memberLeaves members) : ∃ m ∈ members, ∃ rest, leaf.1 = .member m.1 :: rest := by
  induction members with
  | nil => cases h
  | cons m members ih =>
    rw [memberLeaves, List.mem_append] at h
    rcases h with h | h
    · obtain ⟨inner, -, rfl⟩ := List.mem_map.1 h
      exact ⟨m, List.mem_cons_self, inner.1, rfl⟩
    · obtain ⟨n, hn, rest, heq⟩ := ih h
      exact ⟨n, List.mem_cons_of_mem m hn, rest, heq⟩

/-- Leaves of one value stay in order where the value stands in a container. -/
theorem pairwise_map_cons {leaves : List (Place × String)} (branch : Branch)
    (h : leaves.Pairwise fun a b => Place.Before a.1 b.1) :
    (leaves.map fun (place, s) => (branch :: place, s)).Pairwise
      fun a b => Place.Before a.1 b.1 :=
  List.pairwise_map.2 (h.imp fun hbefore => .cons hbefore)

mutual

/-- **Leaves are in the order of their places.** -/
theorem Ordered.pairwise_leaves : {v : Json} → v.Ordered →
    v.leaves.Pairwise fun a b => Place.Before a.1 b.1
  | .null, _ => .nil
  | .bool _, _ => .nil
  | .number _, _ => .nil
  | .string _, _ => List.pairwise_singleton ..
  | .array items, h => by
    cases h with
    | array h => exact pairwise_itemLeaves 0 items h
  | .object members, h => by
    cases h with
    | object hnames h => exact pairwise_memberLeaves members hnames h

theorem pairwise_itemLeaves (index : Nat) : (items : List Json) → (∀ v ∈ items, v.Ordered) →
    (itemLeaves index items).Pairwise fun a b => Place.Before a.1 b.1
  | [], _ => .nil
  | v :: rest, h => by
    obtain ⟨hv, hrest⟩ := List.forall_mem_cons.1 h
    refine List.pairwise_append.2 ⟨pairwise_map_cons _ hv.pairwise_leaves,
      pairwise_itemLeaves (index + 1) rest hrest, fun a ha b hb => ?_⟩
    obtain ⟨inner, -, rfl⟩ := List.mem_map.1 ha
    obtain ⟨i, place, hle, heq⟩ := exists_of_mem_itemLeaves hb
    rw [heq]
    exact .rel (.item hle)

theorem pairwise_memberLeaves : (members : Fields Json) → members.Ordered →
    (∀ m ∈ members, m.2.Ordered) →
    (memberLeaves members).Pairwise fun a b => Place.Before a.1 b.1
  | [], _, _ => .nil
  | (name, v) :: rest, hnames, h => by
    obtain ⟨hv, hrest⟩ := List.forall_mem_cons.1 h
    obtain ⟨hname, hnames⟩ := List.pairwise_cons.1 hnames
    refine List.pairwise_append.2 ⟨pairwise_map_cons _ hv.pairwise_leaves,
      pairwise_memberLeaves rest hnames hrest, fun a ha b hb => ?_⟩
    obtain ⟨inner, -, rfl⟩ := List.mem_map.1 ha
    obtain ⟨m, hm, place, heq⟩ := exists_of_mem_memberLeaves hb
    rw [heq]
    exact .rel (.member (hname m hm))

end

/-! ## The shape of a value -/

mutual

/-- Whether two values have the same shape, with related strings at the leaves: the same names in
the same order, as many items, and the same of all else. -/
inductive Leafwise (related : String → String → Prop) : Json → Json → Prop where
  | null : Leafwise related .null .null
  | bool (b : Bool) : Leafwise related (.bool b) (.bool b)
  | number (n : Numeral) : Leafwise related (.number n) (.number n)
  | string {s s' : String} (h : related s s') : Leafwise related (.string s) (.string s')
  | array {items items' : List Json} (h : LeafwiseItems related items items') :
    Leafwise related (.array items) (.array items')
  | object {members members' : Fields Json} (h : LeafwiseMembers related members members') :
    Leafwise related (.object members) (.object members')

/-- Whether items have the same shape one by one. -/
inductive LeafwiseItems (related : String → String → Prop) : List Json → List Json → Prop where
  | nil : LeafwiseItems related [] []
  | cons {v v' : Json} {rest rest' : List Json} (h : Leafwise related v v')
    (hrest : LeafwiseItems related rest rest') :
    LeafwiseItems related (v :: rest) (v' :: rest')

/-- Whether members have the same names and the same shape one by one. -/
inductive LeafwiseMembers (related : String → String → Prop) :
    Fields Json → Fields Json → Prop where
  | nil : LeafwiseMembers related [] []
  | cons (name : String) {v v' : Json} {rest rest' : Fields Json} (h : Leafwise related v v')
    (hrest : LeafwiseMembers related rest rest') :
    LeafwiseMembers related ((name, v) :: rest) ((name, v') :: rest')

end

end Json

/-! ## Resolving -/

variable (lib : Library) (store : Store)

/-- The value of a leaf. -/
def resolveLeaf (leaf : Json.Place × String) : Except Failure String := resolve lib store leaf.2

theorem mapM_resolveLeaf_map (branch : Json.Branch) (leaves : List (Json.Place × String)) :
    (leaves.map fun (place, s) => (branch :: place, s)).mapM (resolveLeaf lib store) =
      leaves.mapM (resolveLeaf lib store) :=
  List.mapM_map ..

mutual

/-- **Resolving a value fails as resolving its leaves does**, one after the other. -/
theorem failsAlike_resolveValue : (v : Json) →
    FailsAlike (resolveValue lib store v) (v.leaves.mapM (resolveLeaf lib store))
  | .null => .ok _ _
  | .bool _ => .ok _ _
  | .number _ => .ok _ _
  | .string s => (FailsAlike.singleton (resolveLeaf lib store) ([], s)).map _
  | .array items => (failsAlike_resolveItems 0 items).map _
  | .object members => (failsAlike_resolveMembers members).map _

theorem failsAlike_resolveItems (index : Nat) : (items : List Json) →
    FailsAlike (resolveItems lib store items)
      ((Json.itemLeaves index items).mapM (resolveLeaf lib store))
  | [] => .ok _ _
  | v :: rest => by
    rw [resolveItems, Json.itemLeaves, List.mapM_append, mapM_resolveLeaf_map]
    exact (failsAlike_resolveValue v).bind fun _ _ =>
      (failsAlike_resolveItems (index + 1) rest).bind fun _ _ => .ok _ _

theorem failsAlike_resolveMembers : (members : Fields Json) →
    FailsAlike (resolveMembers lib store members)
      ((Json.memberLeaves members).mapM (resolveLeaf lib store))
  | [] => .ok _ _
  | (name, v) :: rest => by
    rw [resolveMembers, Json.memberLeaves, List.mapM_append, mapM_resolveLeaf_map]
    exact (failsAlike_resolveValue v).bind fun _ _ =>
      (failsAlike_resolveMembers rest).bind fun _ _ => .ok _ _

end

variable {lib store}

mutual

/-- **What a value resolves to** has its shape, with the strings resolved. -/
theorem resolveValue_eq_ok_iff : (v : Json) → {w : Json} →
    (resolveValue lib store v = .ok w ↔
      v.Leafwise (fun s text => resolve lib store s = .ok text) w)
  | .null, _ => ⟨fun | rfl => .null, fun | .null => rfl⟩
  | .bool b, _ => ⟨fun | rfl => .bool b, fun | .bool _ => rfl⟩
  | .number n, _ => ⟨fun | rfl => .number n, fun | .number _ => rfl⟩
  | .string s, _ => by
    constructor
    · intro h
      obtain ⟨text, htext, rfl⟩ := exists_of_map_eq_ok h
      exact .string htext
    · rintro (_ | _ | _ | htext)
      rw [resolveValue, htext]
      rfl
  | .array items, _ => by
    constructor
    · intro h
      obtain ⟨ws, hws, rfl⟩ := exists_of_map_eq_ok h
      exact .array ((resolveItems_eq_ok_iff items).1 hws)
    · rintro (_ | _ | _ | _ | hitems)
      rw [resolveValue, (resolveItems_eq_ok_iff items).2 hitems]
      rfl
  | .object members, _ => by
    constructor
    · intro h
      obtain ⟨ws, hws, rfl⟩ := exists_of_map_eq_ok h
      exact .object ((resolveMembers_eq_ok_iff members).1 hws)
    · rintro (_ | _ | _ | _ | _ | hmembers)
      rw [resolveValue, (resolveMembers_eq_ok_iff members).2 hmembers]
      rfl

theorem resolveItems_eq_ok_iff : (items : List Json) → {ws : List Json} →
    (resolveItems lib store items = .ok ws ↔
      Json.LeafwiseItems (fun s text => resolve lib store s = .ok text) items ws)
  | [], _ => ⟨fun | rfl => .nil, fun | .nil => rfl⟩
  | v :: rest, _ => by
    constructor
    · intro h
      obtain ⟨w, more, hw, hmore, rfl⟩ := exists_of_resolveItems_cons h
      exact .cons ((resolveValue_eq_ok_iff v).1 hw) ((resolveItems_eq_ok_iff rest).1 hmore)
    · rintro (_ | ⟨hw, hmore⟩)
      rw [resolveItems, (resolveValue_eq_ok_iff v).2 hw, (resolveItems_eq_ok_iff rest).2 hmore]
      rfl

theorem resolveMembers_eq_ok_iff : (members : Fields Json) → {ws : Fields Json} →
    (resolveMembers lib store members = .ok ws ↔
      Json.LeafwiseMembers (fun s text => resolve lib store s = .ok text) members ws)
  | [], _ => ⟨fun | rfl => .nil, fun | .nil => rfl⟩
  | (name, v) :: rest, _ => by
    constructor
    · intro h
      obtain ⟨w, more, hw, hmore, rfl⟩ := exists_of_resolveMembers_cons h
      exact .cons name ((resolveValue_eq_ok_iff v).1 hw) ((resolveMembers_eq_ok_iff rest).1 hmore)
    · rintro (_ | ⟨_, hw, hmore⟩)
      rw [resolveMembers, (resolveValue_eq_ok_iff v).2 hw,
        (resolveMembers_eq_ok_iff rest).2 hmore]
      rfl

end

/-- **Resolving a value goes leaf by leaf.**  There is a result just if each leaf can be resolved.
The result has the shape of the value, with each leaf replaced by what it resolves to.  If there is
none, the failure is that of the first leaf that cannot be resolved, in the order of the document:
by index in arrays, and in objects by name. -/
theorem resolveValue_leafwise (lib : Library) (store : Store) (v : Json) :
    ((∃ w, resolveValue lib store v = .ok w) ↔
      ∀ leaf ∈ v.leaves, ∃ text, resolve lib store leaf.2 = .ok text) ∧
    (∀ w, resolveValue lib store v = .ok w ↔
      v.Leafwise (fun s text => resolve lib store s = .ok text) w) ∧
    (∀ f, resolveValue lib store v = .error f ↔
      ∃ before leaf after, v.leaves = before ++ leaf :: after ∧
        (∀ other ∈ before, ∃ text, resolve lib store other.2 = .ok text) ∧
        resolve lib store leaf.2 = .error f) ∧
    (v.Ordered → v.leaves.Pairwise fun a b => Json.Place.Before a.1 b.1) := by
  have halike := failsAlike_resolveValue lib store v
  refine ⟨halike.exists_ok_iff.trans exists_mapM_iff, fun w => resolveValue_eq_ok_iff v,
    fun f => ?_, Json.Ordered.pairwise_leaves⟩
  rw [halike f, mapM_eq_error_iff]
  rfl

/-- Two leaves cannot be resolved.  The one that decides comes first since the name of the member
that it is in does, which looks like a reference. -/
theorem resolveValue_leafwise_two_failures :
    let store := Store.ofFields [("name", .string "Ada")]
    let v : Json := .object
      [("$\x7bname\x7d", .array
        [.string "Hello $\x7bname\x7d", .number (.integer 7), .string "$\x7bgone\x7d"]),
       ("later", .string "core:nope()")]
    resolveValue Library.builtin store v =
      .error (.unresolvable "$\x7bgone\x7d" "variable 'gone' is not defined") ∧
    v.Ordered ∧ Json.Place.Before [.member "$\x7bname\x7d", .item 2] [.member "later"] := by
  intro store v
  obtain ⟨-, -, hfailure, hpairwise⟩ := resolveValue_leafwise Library.builtin store v
  have hv : v.Ordered := by
    refine .object (List.pairwise_pair.2 (by decide)) (List.forall_mem_cons.2 ⟨.array ?_,
      List.forall_mem_singleton.2 (.string _)⟩)
    simp only [List.forall_mem_cons]
    exact ⟨.string _, .number _, .string _, List.forall_mem_nil _⟩
  have hbehind := (List.pairwise_cons.1 (hpairwise hv)).2
  refine ⟨(hfailure _).2 ⟨[([.member "$\x7bname\x7d", .item 0], "Hello $\x7bname\x7d")],
    ([.member "$\x7bname\x7d", .item 2], "$\x7bgone\x7d"), [([.member "later"], "core:nope()")],
    rfl, List.forall_mem_singleton.2 ⟨"Hello Ada", by cbv⟩, by cbv⟩, hv,
    (List.pairwise_cons.1 hbehind).1 _ (List.mem_singleton_self _)⟩

end Scenario
