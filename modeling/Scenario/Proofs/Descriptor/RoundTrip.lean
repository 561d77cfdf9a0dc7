import Scenario.Descriptor.Printer
import Scenario.Descriptor.Reader
import Scenario.Proofs.Json.Record
import Scenario.Proofs.Json.Text

/-!
# Descriptors that are written and read again

A descriptor that was read says less than its document: members may have come in any order or by
position, what is left out may have been spelt out or given as null, and a name may have been
given twice in a map.  What is written of it has one form, with a rule for each field about when
to leave it out.  This file shows that nothing is lost on the way: the rules of the writer leave
out just what the reader's defaults put in again.

The text of a floating-point number is another matter, which is why the values in a test case are to
hold integers only.

## What is here

* `Descriptor.refound_actionFields?` — the fields of an action of any kind are found again, from
  `Record.Refound` for each field that this kind has.
* `Descriptor.restores_readNested?` — an action is read again, by induction on how deep actions
  nest.
* `TestDescriptor.restores_read?` — so is a test case, from its document.
* `TestDescriptor.readText_text` — and from its text.
-/

set_option autoImplicit false

namespace Scenario

open Record RawJson

theorem restores_sharing? (emptyObject : Bool) :
    Restores (choice? emptyObject Sharing.words) fun s => .string s.word :=
  restores_choice? emptyObject (by decide)

theorem restores_values? : Restores (map? Record.value?) .object := by
  simpa using restores_value?.map?

namespace Descriptor

/-! ## The fields of an action -/

section Fields

variable {floats : Bool} {n : Nat} {fields : Fields RawJson}

theorem refound_sharing? (hfits : ∀ {name v}, fields.get? name = some v → v.Fits floats n)
    {default sharing : Sharing} (h : sharing? fields default = some sharing) :
    Refound floats n ["scope"] (sharing? · default) [("scope", .string sharing.word)] sharing :=
  refound_defaulted (restores_sharing? true) hfits ⟨by cases default <;> rfl, .string _⟩ h

theorem refound_sendFields? (hfits : ∀ {name v}, fields.get? name = some v → v.Fits floats n)
    {f : SendFields} (h : sendFields? fields = some f) :
    Refound floats n Kind.send.fieldNames sendFields? f.members f := by
  simp only [sendFields?, Option.bind_eq_bind, Option.bind_eq_some_iff, Option.pure_def,
    Option.some_inj] at h
  obtain ⟨endpoint, hendpoint, payload, hpayload, headers, hheaders, id, hid, rfl⟩ := h
  rw [SendFields.members, List.append_assoc]
  refine (refound_required restores_text? hfits hendpoint).bind
    ((refound_defaulted restores_value? hfits ⟨rfl, .null⟩ hpayload).bind
      ((refound_map restores_value? hfits hheaders).bind
        ((refound_optional restores_text? hfits hid).pure _) ?_) ?_) ?_
  all_goals decide

theorem refound_receiveFields? (hfits : ∀ {name v}, fields.get? name = some v → v.Fits floats n)
    {f : ReceiveFields} (h : receiveFields? fields = some f) :
    Refound floats n Kind.receive.fieldNames receiveFields? f.members f := by
  simp only [receiveFields?, Option.bind_eq_bind, Option.bind_eq_some_iff, Option.pure_def,
    Option.some_inj] at h
  obtain ⟨endpoint, hendpoint, payload, hpayload, headers, hheaders, timeout, htimeout, selector,
    hselector, extractHeaders, hextractHeaders, extractPayload, hextractPayload, lenient, hlenient,
    rfl⟩ := h
  simp only [ReceiveFields.members, List.append_assoc]
  refine (refound_required restores_text? hfits hendpoint).bind
    ((refound_optional restores_value? hfits hpayload).bind
      ((refound_map restores_text? hfits hheaders).bind
        ((refound_optional restores_natural? hfits htimeout).bind
          ((refound_optional restores_text? hfits hselector).bind
            ((refound_map restores_text? hfits hextractHeaders).bind
              ((refound_map restores_text? hfits hextractPayload).bind
                ((refound_defaulted restores_flag? hfits ⟨rfl, .bool _⟩ hlenient).pure _)
                ?_) ?_) ?_) ?_) ?_) ?_) ?_
  all_goals decide

theorem refound_callFields? (hfits : ∀ {name v}, fields.get? name = some v → v.Fits floats n)
    {f : CallFields} (h : callFields? fields = some f) :
    Refound floats n Kind.callTemplate.fieldNames callFields? f.members f := by
  simp only [callFields?, Option.bind_eq_bind, Option.bind_eq_some_iff, Option.pure_def,
    Option.some_inj] at h
  obtain ⟨template, htemplate, parameters, hparameters, globalContext, hglobal, rfl⟩ := h
  rw [CallFields.members, List.append_assoc]
  refine (refound_required restores_text? hfits htemplate).bind
    ((refound_map restores_value? hfits hparameters).bind
      ((refound_optional restores_flag? hfits hglobal).pure _) ?_) ?_
  all_goals decide

theorem refound_loopFields? (hfits : ∀ {name v}, fields.get? name = some v → v.Fits floats n)
    {f : LoopFields} (h : loopFields? fields = some f) :
    Refound floats n ["count", "condition", "index", "start", "step", "max_iterations", "scope"]
      loopFields? f.members f := by
  simp only [loopFields?, Option.bind_eq_bind, Option.bind_eq_some_iff, Option.pure_def,
    Option.some_inj] at h
  obtain ⟨count, hcount, condition, hcondition, index, hindex, start, hstart, step, hstep,
    maxIterations, hmax, sharing, hsharing, rfl⟩ := h
  simp only [LoopFields.members, List.append_assoc]
  refine (refound_optional restores_natural? hfits hcount).bind
    ((refound_optional restores_text? hfits hcondition).bind
      ((refound_optional restores_text? hfits hindex).bind
        ((refound_optional restores_integer? hfits hstart).bind
          ((refound_optional restores_integer? hfits hstep).bind
            ((refound_optional restores_natural? hfits hmax).bind
              ((refound_sharing? hfits hsharing).pure _) ?_) ?_) ?_) ?_) ?_) ?_
  all_goals decide

/-! ## Actions -/

theorem documents_eq_map (actions : List Descriptor) :
    documents actions = actions.map document := by
  induction actions with
  | nil => rfl
  | cons d rest ih => rw [documents, ih, List.map_cons]

/-- What is read of an action of a kind is found again if this is so of the actions in it. -/
theorem refound_actionFields? {inner : RawJson → Option Descriptor}
    (hinner : Restores inner document) {kind : Kind}
    (hfits : ∀ {name v}, fields.get? name = some v → v.Fits floats n) {d : Descriptor}
    (h : actionFields? inner kind fields = some d) :
    ∃ members, d.document = tagged kind members ∧
      Refound floats n kind.fieldNames (actionFields? inner kind) members d := by
  have hlist := hinner.list?
  simp only [← documents_eq_map] at hlist
  cases kind with
  | createVariables =>
    obtain ⟨assignments, hassignments, rfl⟩ := Option.map_eq_some_iff.1 h
    exact ⟨_, rfl, (refound_required restores_values? hfits hassignments).map _⟩
  | echo =>
    obtain ⟨message, hmessage, rfl⟩ := Option.map_eq_some_iff.1 h
    exact ⟨_, rfl, (refound_required restores_text? hfits hmessage).map _⟩
  | sleep =>
    obtain ⟨milliseconds, hmilliseconds, rfl⟩ := Option.map_eq_some_iff.1 h
    exact ⟨_, rfl, (refound_required restores_value? hfits hmilliseconds).map _⟩
  | fail =>
    obtain ⟨message, hmessage, rfl⟩ := Option.map_eq_some_iff.1 h
    exact ⟨_, rfl, (refound_required restores_text? hfits hmessage).map _⟩
  | assertFailure =>
    simp only [actionFields?, Option.bind_eq_bind, Option.bind_eq_some_iff, Option.pure_def,
      Option.some_inj] at h
    obtain ⟨action, haction, message, hmessage, rfl⟩ := h
    exact ⟨_, rfl, (refound_required hinner hfits haction).bind
      ((refound_optional restores_text? hfits hmessage).pure _) (by decide)⟩
  | send =>
    obtain ⟨f, hf, rfl⟩ := Option.map_eq_some_iff.1 h
    exact ⟨_, rfl, (refound_sendFields? hfits hf).map _⟩
  | receive =>
    obtain ⟨f, hf, rfl⟩ := Option.map_eq_some_iff.1 h
    exact ⟨_, rfl, (refound_receiveFields? hfits hf).map _⟩
  | callTemplate =>
    obtain ⟨f, hf, rfl⟩ := Option.map_eq_some_iff.1 h
    exact ⟨_, rfl, (refound_callFields? hfits hf).map _⟩
  | sequential =>
    simp only [actionFields?, Option.bind_eq_bind, Option.bind_eq_some_iff, Option.pure_def,
      Option.some_inj] at h
    obtain ⟨actions, hactions, sharing, hsharing, rfl⟩ := h
    exact ⟨_, rfl, (refound_required hlist hfits hactions).bind
      ((refound_sharing? hfits hsharing).pure _) (by decide)⟩
  | parallel =>
    simp only [actionFields?, Option.bind_eq_bind, Option.bind_eq_some_iff, Option.pure_def,
      Option.some_inj] at h
    obtain ⟨actions, hactions, sharing, hsharing, rfl⟩ := h
    exact ⟨_, rfl, (refound_required hlist hfits hactions).bind
      ((refound_sharing? hfits hsharing).pure _) (by decide)⟩
  | iterate =>
    simp only [actionFields?, Option.bind_eq_bind, Option.bind_eq_some_iff, Option.pure_def,
      Option.some_inj] at h
    obtain ⟨actions, hactions, loop, hloop, rfl⟩ := h
    exact ⟨_, rfl, (refound_required hlist hfits hactions).bind
      ((refound_loopFields? hfits hloop).pure _) (by decide)⟩

end Fields

/-! ## The tag of an action -/

theorem kind?_name (inside : Bool) (kind : Kind) :
    kind? inside (.string kind.name) = some kind := by
  cases kind <;> rfl

theorem nodup_fieldNames (kind : Kind) : kind.fieldNames.Nodup := by
  cases kind <;> decide

theorem type_not_mem_fieldNames (kind : Kind) : "type" ∉ kind.fieldNames := by
  cases kind <;> decide

/-- The fields of an action that was written are those that were written. -/
theorem tagged?_ofJson (inside : Bool) {kind : Kind} {members : Fields Json}
    (h : members.names.Sublist kind.fieldNames) :
    ∃ fields, tagged? inside (ofJson (tagged kind members)) = some (kind, fields) ∧
      ∀ name ∈ kind.fieldNames, fields.get? name = (members.get? name).map ofJson := by
  have htype : "type" ∉ members.names := fun hmem => type_not_mem_fieldNames kind (h.subset hmem)
  have hdistinct : Fields.Distinct (("type", .string kind.name) :: members) :=
    List.nodup_cons.2 ⟨htype, (nodup_fieldNames kind).sublist h⟩
  have htag : (ofFields (("type", .string kind.name) :: members)).filter
      (fun m => m.1 == "type") = [("type", .string kind.name)] := by
    rw [ofFields, List.filter_cons_of_pos rfl, ofFields_eq_map, List.filter_eq_nil_iff.2, ofJson]
    intro m hm
    obtain ⟨p, hp, rfl⟩ := List.mem_map.1 hm
    simpa using fun heq : p.1 = "type" => htype (heq ▸ List.mem_map_of_mem hp)
  obtain ⟨fields, hfields, hget⟩ := fields?_ofJson kind.fieldNames hdistinct
  refine ⟨fields, ?_, fun name hname => ?_⟩
  · rw [ofJson] at hfields
    rw [tagged, ofJson, tagged?, htag]
    simp only [kind?_name, hfields, Option.bind_eq_bind, Option.bind_some, Option.pure_def]
  · rw [hget name hname, Fields.get?_cons, if_neg]
    rintro rfl
    exact type_not_mem_fieldNames kind hname

/-- The fields of an action nest less deeply than the action. -/
theorem fits_of_tagged? {inside : Bool} {floats : Bool} {n : Nat} {doc : RawJson} {kind : Kind}
    {fields : Fields RawJson} (hfits : doc.Fits floats n)
    (h : tagged? inside doc = some (kind, fields)) :
    ∃ m, n = m + 1 ∧ ∀ {name v}, fields.get? name = some v → v.Fits floats m := by
  rw [tagged?.eq_def] at h
  split at h
  · split at h
    · simp only [Option.bind_eq_bind, Option.bind_eq_some_iff, Option.pure_def, Option.some_inj,
        Prod.mk.injEq] at h
      obtain ⟨kind, -, fields, hfields, rfl, rfl⟩ := h
      exact fits_of_fields? hfits hfields
    · cases h
  · simp only [Option.bind_eq_bind, Option.bind_eq_some_iff, Option.pure_def, Option.some_inj,
      Prod.mk.injEq] at h
    obtain ⟨kind, -, fields, hfields, rfl, rfl⟩ := h
    cases hfits with
    | array hfits => exact fits_of_fields? (.array (List.forall_mem_cons.1 hfits).2) hfields
  · cases h

theorem document_ne_null (d : Descriptor) : d.document ≠ .null := by
  cases d <;> nofun

/-- **An action is read again** from what is written of it, whatever the actions in it. -/
theorem restores_readNested? (depth : Nat) (inside : Bool) :
    Restores (readNested? depth inside) document := by
  refine ⟨?_, fun {_ d} _ hnull => absurd hnull (document_ne_null d)⟩
  induction depth generalizing inside with
  | zero => exact nofun
  | succ depth ih =>
    intro floats n doc d hfits h
    have hinner : Restores (readNested? depth true) document :=
      ⟨ih true, fun {_ d} _ hnull => absurd hnull (document_ne_null d)⟩
    rw [readNested?] at h
    split at h
    · cases h
    · next kind fields htagged =>
      obtain ⟨m, rfl, hfields⟩ := fits_of_tagged? hfits htagged
      obtain ⟨members, hdoc, hrefound⟩ := refound_actionFields? hinner hfields h
      obtain ⟨fields, htagged, hget⟩ := tagged?_ofJson inside hrefound.sublist
      refine ⟨?_, ?_⟩
      · rw [hdoc, readNested?, htagged]
        exact hrefound.reads hget
      · rw [hdoc]
        cases hrefound.fits_object with
        | object hmembers => exact .object (List.forall_mem_cons.2 ⟨.string _, hmembers⟩)

theorem restores_read? : Restores Descriptor.read? document where
  restorable hfits h := by
    rw [Descriptor.read?] at h
    split at h
    · have hd := (restores_readNested? _ false).restorable hfits h
      exact ⟨(if_pos (value?_ofJson_isSome _)).trans hd.reads, hd.fits⟩
    · cases h
  null {_ d} _ hnull := absurd hnull (document_ne_null d)

theorem restores_actions? : Restores (list? Descriptor.read?) fun ds => .array (documents ds) := by
  simpa only [documents_eq_map] using restores_read?.list?

end Descriptor

/-! ## Templates and test cases -/

theorem ParameterDescriptor.restores_read? :
    Restores ParameterDescriptor.read? ParameterDescriptor.document := by
  refine restores_record (by decide) fun hfits h => ?_
  simp only [Option.bind_eq_bind, Option.bind_eq_some_iff, Option.pure_def, Option.some_inj] at h
  obtain ⟨name, hname, default, hdefault, rfl⟩ := h
  exact (refound_required restores_text? hfits hname).bind
    ((refound_optional restores_value? hfits hdefault).pure _) (by decide)

theorem TemplateDescriptor.restores_read? :
    Restores TemplateDescriptor.read? TemplateDescriptor.document := by
  refine restores_record (by decide) fun {floats n} _ _ hfits h => ?_
  simp only [Option.bind_eq_bind, Option.bind_eq_some_iff, Option.pure_def, Option.some_inj] at h
  obtain ⟨name, hname, parameters, hparameters, globalContext, hglobal, actions, hactions, rfl⟩ := h
  have hactions := refound_required Descriptor.restores_actions? hfits hactions
  -- The empty list of parameters is written too, and an array is one level of nesting.
  have hdefault : Restorable floats n (list? ParameterDescriptor.read?)
      (fun ps => .array (ps.map ParameterDescriptor.document)) [] := by
    cases hactions.fits _ (List.mem_singleton_self _) with
    | array _ => exact ⟨rfl, .array nofun⟩
  refine (refound_required restores_text? hfits hname).bind
    ((refound_defaulted ParameterDescriptor.restores_read?.list? hfits hdefault hparameters).bind
      ((refound_defaulted restores_flag? hfits ⟨rfl, .bool _⟩ hglobal).bind
        (hactions.pure _) ?_) ?_) ?_
  all_goals decide

theorem TestDescriptor.restores_read? :
    Restores TestDescriptor.read? TestDescriptor.document := by
  refine restores_record (by decide) fun hfits h => ?_
  simp only [Option.bind_eq_bind, Option.bind_eq_some_iff, Option.pure_def, Option.some_inj] at h
  obtain ⟨name, hname, initial, hinitial, templates, htemplates, actions, hactions, rfl⟩ := h
  simp only [List.append_assoc]
  refine (refound_required restores_text? hfits hname).bind
    ((refound_map restores_value? hfits hinitial).bind
      ((refound_list TemplateDescriptor.restores_read?.list? hfits htemplates).bind
        ((refound_required Descriptor.restores_actions? hfits hactions).pure _) ?_) ?_) ?_
  all_goals decide

/-- What was read of a text was read of the document that it holds. -/
theorem exists_of_readText {α : Type} {read : RawJson → Option α} {text : String} {x : α}
    (h : readText read text = .ok x) :
    ∃ doc, RawJson.read? text = some doc ∧ read (doc.limited nesting) = some x := by
  rw [readText] at h
  split at h
  · next doc hdoc =>
    rw [readRecord] at h
    split at h
    · next hread =>
      cases h
      exact ⟨doc, hdoc, hread⟩
    · cases h
  · cases h

/-- What is read again from its document is so from the text of this document. -/
theorem readText_of_restorable {α : Type} {read : RawJson → Option α} {write : α → Json} {x : α}
    (h : Restorable false nesting read write x) : readText read (write x).text = .ok x := by
  rw [readText, read?_text h.fits]
  simp only [readRecord, limited_of_fits _ h.fits, h.reads]

/-- **A test case is read again from its text.**  What is read from a text with no floating-point
number has none in its values, and then, whatever text it was read from, it is written as a text
from which the same test case is read. -/
theorem TestDescriptor.readText_text {text : String} {t : TestDescriptor}
    (h : readText TestDescriptor.read? text = .ok t) :
    ((∀ doc ∈ RawJson.read? text, doc.isIntegral) → t.document.isIntegral) ∧
      (t.document.isIntegral → readText TestDescriptor.read? t.text = .ok t) := by
  obtain ⟨doc, hdoc, hread⟩ := exists_of_readText h
  obtain ⟨n, hfits⟩ := fits_read? hdoc
  refine ⟨fun hintegral => ?_, fun hintegral => ?_⟩
  · have hwhole : doc.Fits false n := hfits.false_iff.2 (hintegral doc hdoc)
    have ht := TestDescriptor.restores_read?.restorable (fits_limited doc nesting hwhole) hread
    exact ht.fits.false_iff.1 ht.fits
  · have ht := TestDescriptor.restores_read?.restorable (fits_limited doc nesting hfits) hread
    exact readText_of_restorable ⟨ht.reads, ht.fits.false_iff.2 hintegral⟩

/-- A test case with a loop in a parallel container in a template, whose document gives records by
position, a kind by number, nulls, names that repeat in maps and a member that is not known. -/
theorem TestDescriptor.readText_text_nested :
    let one := Json.ofInt 1
    let receive : Json := .object
      [("endpoint", .string "q"), ("timeout_ms", .null), ("type", .string "receive"),
       ("extract_headers", .object [("z", .string "é\n"), ("a", .string "b"), ("z", .string "c")])]
    let loop : Json := .object
      [("type", .string "iterate"), ("condition", .null), ("step", .ofInt (-2)),
       ("actions", .array [.array [.ofNat 2, one], .array [.string "assert-failure", receive]])]
    let parallel : Json := .object
      [("scope", .object [("shared", .null)]), ("actions", .array [loop]),
       ("type", .string "parallel")]
    let template : Json := .array
      [.string "t", .array [.array [.string "who", .null]], .bool false, .array [parallel]]
    let document := Json.object
      [("name", .string "n"), ("variables", .object [("b", one), ("a", .null),
        ("b", .array [one])]),
       ("templates", .array [template]), ("comment", .null),
       ("actions", .array [.array [.string "send", .string "q", .null]])]
    let test : TestDescriptor := {
      name := "n", initial := [("b", .array [one]), ("a", .null)],
      templates := [{
        name := "t", parameters := [{ name := "who" }], globalContext := false,
        actions := [.parallel [.iterate
          [.sleep one, .assertFailure
            (.receive { endpoint := "q", extractHeaders := [("z", "c"), ("a", "b")] }) none]
          { step := some (-2) }] .shared] }],
      actions := [.send { endpoint := "q" }] }
    readText TestDescriptor.read? document.text = .ok test ∧
      (∀ doc ∈ RawJson.read? document.text, doc.isIntegral) ∧
      readText TestDescriptor.read? test.text = .ok test := by
  intro one receive loop parallel template document test
  have hfits : (ofJson document).Fits false nesting := by
    repeat' first
      | decide
      | refine List.forall_mem_cons.2 ⟨?_, ?_⟩
      | exact List.forall_mem_nil _
      | constructor
  have hdoc : RawJson.read? document.text = some (ofJson document) := read?_text hfits
  have hread : readText TestDescriptor.read? document.text = .ok test := by
    rw [readText, hdoc]
    rfl
  have hintegral : ∀ doc ∈ RawJson.read? document.text, doc.isIntegral := by
    rintro doc hmem
    rw [hdoc] at hmem
    cases hmem
    rfl
  obtain ⟨hvalues, hagain⟩ := TestDescriptor.readText_text hread
  exact ⟨hread, hintegral, hagain (hvalues hintegral)⟩

end Scenario
