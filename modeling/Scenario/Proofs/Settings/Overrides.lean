import Scenario.Proofs.Failure.InOrder
import Scenario.Proofs.Json.Fields
import Scenario.Proofs.Text.Whole
import Scenario.Proofs.Text.Blanks
import Scenario.Settings

/-!
# Overriding settings

Settings can be overridden by texts, each of them under a name of its own, and any of the texts can
be missing, blank, padded or nothing that its setting can be.  The settings that are overridden need
not make sense either: an override can repair what was wrong before and spoil what was right, so all
of it is judged at the end.

Which settings come out is said here item by item, with no word on the others
(`Settings.Merges`).  What the order in which overrides are read is for is the failure alone: it is
the first text that cannot be read which is complained of, and only if there is none a setting that
makes no sense.

## What is here

* `Settings.Item` are the settings that can be overridden; `Kind.Reads` says which text stands for
  which value of such a setting.
* `Settings.Merges` — settings are what overrides make of others — and `Settings.merge_eq_ok_iff`.
* `Settings.failsAlike_merge` — overrides fail as their list does.
* `Settings.Valid` and `Settings.FirstFlaw` — settings that make sense, and the first one that does
  not.
* `Settings.override_merges` — the main result.
-/

set_option autoImplicit false

namespace Scenario.Settings

open Text

/-! ## Single settings -/

/-- What a setting can be. -/
inductive Kind where
  | natural
  | text
  | flag
deriving DecidableEq

/-- What a setting is. -/
inductive Value where
  | natural (n : Nat)
  | text (s : String)
  | flag (b : Bool)
deriving DecidableEq

/-- A text stands for a value. -/
def Kind.Reads : Kind → List Char → Value → Prop
  | natural, cs, .natural n => Whole.Denotes Whole.max64 cs n
  | text, cs, .text s => cs = s.toList
  | flag, cs, .flag b => cs = (if b then "true" else "false").toList
  | _, _, _ => False

/-- The settings that can be overridden. -/
inductive Item where
  | receiveTimeout
  | polling
  | retention
  | marker
  | maxIterations
  | level
  | json
deriving DecidableEq

namespace Item

/-- All of them, in the order in which their overrides are read. -/
def all : List Item := [receiveTimeout, polling, retention, marker, maxIterations, level, json]

/-- The name of the override. -/
def name : Item → String
  | receiveTimeout => "TESTFLOW_RECEIVE_TIMEOUT_MS"
  | polling => "TESTFLOW_POLLING_INTERVAL_MS"
  | retention => "TESTFLOW_RETENTION_MS"
  | marker => "TESTFLOW_FUNCTION_PREFIX"
  | maxIterations => "TESTFLOW_MAX_ITERATIONS"
  | level => "TESTFLOW_LOG_LEVEL"
  | json => "TESTFLOW_LOG_JSON"

def kind : Item → Kind
  | receiveTimeout | polling | retention | maxIterations => .natural
  | marker | level => .text
  | json => .flag

/-- What the setting is. -/
def of (s : Settings) : Item → Value
  | receiveTimeout => .natural s.receiveTimeout
  | polling => .natural s.polling
  | retention => .natural s.retention
  | marker => .text s.marker
  | maxIterations => .natural s.maxIterations
  | level => .text s.logging.level
  | json => .flag s.logging.json

end Item

/-! ## Single overrides -/

/-- There is an override, and it is not blank. -/
def Given (overrides : Fields String) (name value : String) : Prop :=
  overrides.get? name = some value ∧ ∃ c ∈ value.toList, isBlank c = false

/-- What comes of an override: the value that it stands for without the blanks around it, and what
there was before if it is not given. -/
def Takes (overrides : Fields String) (name : String) (kind : Kind) (before after : Value) : Prop :=
  (∀ value, Given overrides name value → kind.Reads (trim value.toList) after) ∧
    ((∀ value, ¬ Given overrides name value) → after = before)

/-- An override that stands for no value, and the failure that names it. -/
def Refuses (overrides : Fields String) (name : String) (kind : Kind) (f : Failure) : Prop :=
  ∃ value, Given overrides name value ∧ (∀ v, ¬ kind.Reads (trim value.toList) v) ∧
    f = .configuration s!"{name} has invalid value '{value}'"

variable {overrides : Fields String} {name value : String} {f : Failure} {s s' : Settings}

theorem given?_eq_some_iff : given? overrides name = some value ↔ Given overrides name value := by
  rw [given?, Option.filter_eq_some_iff, Given]
  refine and_congr_right fun _ => ?_
  rw [Bool.not_eq_true', ← Bool.not_eq_true, List.isEmpty_iff, trim_eq_nil_iff]
  simp

section Overridden

variable {α : Type} {kind : Kind} {wrap : α → Value} {read : List Char → Option α} {x current : α}

/-- What a setting is overridden with. -/
theorem overridden_eq_ok_iff (hread : ∀ cs a, read cs = some a ↔ kind.Reads cs (wrap a))
    (hwrap : ∀ {a b}, wrap a = wrap b ↔ a = b) :
    overridden overrides name read current = .ok x ↔
      Takes overrides name kind (wrap current) (wrap x) := by
  rw [overridden, Takes]
  simp only [← given?_eq_some_iff, ← hread, hwrap]
  cases given? overrides name with
  | none => simp [eq_comm]
  | some value => cases hvalue : read (trim value.toList) <;> simp [hvalue]

/-- When a setting cannot be overridden. -/
theorem overridden_eq_error_iff (hread : ∀ cs a, read cs = some a ↔ kind.Reads cs (wrap a))
    (honly : ∀ cs v, kind.Reads cs v → ∃ a, v = wrap a) :
    overridden overrides name read current = .error f ↔ Refuses overrides name kind f := by
  have hnone : ∀ cs, read cs = none ↔ ∀ v, ¬ kind.Reads cs v := by
    intro cs
    rw [Option.eq_none_iff_forall_ne_some]
    constructor
    · intro h v hv
      obtain ⟨a, rfl⟩ := honly cs v hv
      exact h a ((hread cs a).2 hv)
    · exact fun h a ha => h _ ((hread cs a).1 ha)
  rw [overridden, Refuses]
  simp only [← given?_eq_some_iff, ← hnone]
  cases given? overrides name with
  | none => simp
  | some value => cases hvalue : read (trim value.toList) <;> simp [hvalue, eq_comm]

end Overridden

theorem readNatural_eq_some_iff (cs : List Char) (n : Nat) :
    readNatural cs = some n ↔ Kind.natural.Reads cs (.natural n) := by
  rw [Kind.Reads, ← Whole.read_eq_ok_iff, readNatural]
  cases Whole.read Whole.max64 cs <;> simp [Except.toOption]

theorem readAny_eq_some_iff (cs : List Char) (text : String) :
    readAny cs = some text ↔ Kind.text.Reads cs (.text text) := by
  rw [Kind.Reads, readAny, Option.some.injEq]
  constructor
  · rintro rfl
    exact String.toList_ofList.symm
  · rintro rfl
    exact String.ofList_toList

theorem readFlag_eq_some_iff (cs : List Char) (b : Bool) :
    readFlag cs = some b ↔ Kind.flag.Reads cs (.flag b) := by
  rw [Kind.Reads, readFlag]
  split
  · next h => cases b <;> simp [h]
  · split
    · next h => cases b <;> simp [h]
    · next htrue hfalse =>
      cases b with
      | false => simpa using hfalse
      | true => simpa using htrue

/-- A text stands for a value of its kind. -/
theorem Kind.exists_of_reads {cs : List Char} {v : Value} :
    (Kind.natural.Reads cs v → ∃ n, v = .natural n) ∧
      (Kind.text.Reads cs v → ∃ text, v = .text text) ∧
        (Kind.flag.Reads cs v → ∃ b, v = .flag b) := by
  cases v <;> simp [Reads]

/-! ## All overrides -/

namespace Item

/-- The override can be read, if it is given. -/
def Readable (overrides : Fields String) (item : Item) : Prop :=
  ∀ value, Given overrides item.name value → ∃ v, item.kind.Reads (trim value.toList) v

/-- Reads an override and forgets the value. -/
def check (overrides : Fields String) (item : Item) : Except Failure Unit :=
  match item.kind with
  | .natural => (overridden overrides item.name readNatural 0).map fun _ => ()
  | .text => (overridden overrides item.name readAny "").map fun _ => ()
  | .flag => (overridden overrides item.name readFlag false).map fun _ => ()

theorem check_eq_error_iff {item : Item} :
    item.check overrides = .error f ↔ Refuses overrides item.name item.kind f := by
  rw [check]
  cases item.kind with
  | natural =>
    exact map_eq_error_iff.trans (overridden_eq_error_iff readNatural_eq_some_iff
      fun _ _ => Kind.exists_of_reads.1)
  | text =>
    exact map_eq_error_iff.trans (overridden_eq_error_iff readAny_eq_some_iff
      fun _ _ => Kind.exists_of_reads.2.1)
  | flag =>
    exact map_eq_error_iff.trans (overridden_eq_error_iff readFlag_eq_some_iff
      fun _ _ => Kind.exists_of_reads.2.2)

theorem exists_check_iff {item : Item} :
    (∃ u, item.check overrides = .ok u) ↔ item.Readable overrides := by
  constructor
  · rintro ⟨u, hu⟩ value hvalue
    by_contra hnone
    have hrefuses : Refuses overrides item.name item.kind _ :=
      ⟨value, hvalue, fun v hv => hnone ⟨v, hv⟩, rfl⟩
    cases hu.symm.trans (check_eq_error_iff.2 hrefuses)
  · intro hreadable
    cases hcheck : item.check overrides with
    | ok u => exact ⟨u, rfl⟩
    | error f =>
      obtain ⟨value, hvalue, hnone, -⟩ := check_eq_error_iff.1 hcheck
      obtain ⟨v, hv⟩ := hreadable value hvalue
      exact absurd hv (hnone v)

end Item

/-- **Settings are what overrides make of others**: each one is what its override stands for, or
what it was if none is given. -/
def Merges (s : Settings) (overrides : Fields String) (s' : Settings) : Prop :=
  ∀ item : Item, Takes overrides item.name item.kind (item.of s) (item.of s')

/-- Puts overrides in place of settings without a look at the result. -/
def merge (s : Settings) (overrides : Fields String) : Except Failure Settings := do
  let receiveTimeout ← overridden overrides Item.receiveTimeout.name readNatural s.receiveTimeout
  let polling ← overridden overrides Item.polling.name readNatural s.polling
  let retention ← overridden overrides Item.retention.name readNatural s.retention
  let marker ← overridden overrides Item.marker.name readAny s.marker
  let maxIterations ← overridden overrides Item.maxIterations.name readNatural s.maxIterations
  let level ← overridden overrides Item.level.name readAny s.logging.level
  let json ← overridden overrides Item.json.name readFlag s.logging.json
  return {
    receiveTimeout := receiveTimeout, polling := polling, retention := retention,
    marker := marker, maxIterations := maxIterations,
    logging := { level := level, json := json } }

theorem override_eq_merge (s : Settings) (overrides : Fields String) :
    s.override overrides = s.merge overrides >>= fun changed => do
      changed.validate
      return changed := by
  simp only [override, merge, bind_assoc, pure_bind]
  rfl

theorem natural_eq_ok_iff {n m : Nat} : overridden overrides name readNatural n = .ok m ↔
    Takes overrides name .natural (.natural n) (.natural m) :=
  overridden_eq_ok_iff readNatural_eq_some_iff (by simp)

theorem text_eq_ok_iff {a b : String} : overridden overrides name readAny a = .ok b ↔
    Takes overrides name .text (.text a) (.text b) :=
  overridden_eq_ok_iff readAny_eq_some_iff (by simp)

theorem flag_eq_ok_iff {a b : Bool} : overridden overrides name readFlag a = .ok b ↔
    Takes overrides name .flag (.flag a) (.flag b) :=
  overridden_eq_ok_iff readFlag_eq_some_iff (by simp)

theorem merge_eq_ok_iff : s.merge overrides = .ok s' ↔ s.Merges overrides s' := by
  constructor
  · intro h
    obtain ⟨receiveTimeout, h₁, h⟩ := exists_of_bind_eq_ok h
    obtain ⟨polling, h₂, h⟩ := exists_of_bind_eq_ok h
    obtain ⟨retention, h₃, h⟩ := exists_of_bind_eq_ok h
    obtain ⟨marker, h₄, h⟩ := exists_of_bind_eq_ok h
    obtain ⟨maxIterations, h₅, h⟩ := exists_of_bind_eq_ok h
    obtain ⟨level, h₆, h⟩ := exists_of_bind_eq_ok h
    obtain ⟨json, h₇, h⟩ := exists_of_bind_eq_ok h
    cases h
    intro item
    cases item with
    | receiveTimeout => exact natural_eq_ok_iff.1 h₁
    | polling => exact natural_eq_ok_iff.1 h₂
    | retention => exact natural_eq_ok_iff.1 h₃
    | marker => exact text_eq_ok_iff.1 h₄
    | maxIterations => exact natural_eq_ok_iff.1 h₅
    | level => exact text_eq_ok_iff.1 h₆
    | json => exact flag_eq_ok_iff.1 h₇
  · intro h
    rw [merge, natural_eq_ok_iff.2 (h .receiveTimeout), natural_eq_ok_iff.2 (h .polling),
      natural_eq_ok_iff.2 (h .retention), text_eq_ok_iff.2 (h .marker),
      natural_eq_ok_iff.2 (h .maxIterations), text_eq_ok_iff.2 (h .level),
      flag_eq_ok_iff.2 (h .json)]
    rfl

/-- A single override fails as its check does, whatever it overrides. -/
theorem failsAlike_overridden {α : Type} (item : Item) (wrap : α → Value)
    {read : List Char → Option α} (current : α)
    (hread : ∀ cs a, read cs = some a ↔ item.kind.Reads cs (wrap a))
    (honly : ∀ cs v, item.kind.Reads cs v → ∃ a, v = wrap a) :
    FailsAlike (overridden overrides item.name read current) (item.check overrides) :=
  fun _ => (overridden_eq_error_iff hread honly).trans Item.check_eq_error_iff.symm

/-- **Overrides fail in the order in which they are read.** -/
theorem failsAlike_merge (s : Settings) (overrides : Fields String) :
    FailsAlike (s.merge overrides) (Item.all.mapM (Item.check overrides)) := by
  have hnatural : ∀ (item : Item) (n : Nat), item.kind = .natural →
      FailsAlike (overridden overrides item.name readNatural n) (item.check overrides) := by
    intro item n hkind
    refine failsAlike_overridden item .natural n ?_ ?_
    · exact hkind ▸ readNatural_eq_some_iff
    · exact fun _ _ => hkind ▸ Kind.exists_of_reads.1
  have htext : ∀ (item : Item) (text : String), item.kind = .text →
      FailsAlike (overridden overrides item.name readAny text) (item.check overrides) := by
    intro item text hkind
    refine failsAlike_overridden item .text text ?_ ?_
    · exact hkind ▸ readAny_eq_some_iff
    · exact fun _ _ => hkind ▸ Kind.exists_of_reads.2.1
  have hflag : FailsAlike (overridden overrides Item.json.name readFlag s.logging.json)
      (Item.json.check overrides) :=
    failsAlike_overridden .json .flag _ readFlag_eq_some_iff fun _ _ => Kind.exists_of_reads.2.2
  refine .cons (hnatural .receiveTimeout _ rfl) fun _ => ?_
  refine .cons (hnatural .polling _ rfl) fun _ => .cons (hnatural .retention _ rfl) fun _ => ?_
  refine .cons (htext .marker _ rfl) fun _ => .cons (hnatural .maxIterations _ rfl) fun _ => ?_
  exact .cons (htext .level _ rfl) fun _ => .cons hflag fun _ => .ok _ []

theorem exists_merges_iff :
    (∃ s', s.Merges overrides s') ↔ ∀ item : Item, item.Readable overrides := by
  have hall : ∀ item : Item, item ∈ Item.all := by
    intro item
    cases item <;> decide
  simp only [← merge_eq_ok_iff]
  rw [(failsAlike_merge s overrides).exists_ok_iff, exists_mapM_iff]
  simp only [Item.exists_check_iff, hall, true_implies]

/-! ## Settings that make sense -/

/-- Whether a text can mark calls of functions. -/
def IsIdentifier (text : String) : Prop :=
  text ≠ "" ∧ ∀ c ∈ text.toList, c.isAlphanum ∨ c = '_'

structure Valid (s : Settings) : Prop where
  polling : 0 < s.polling
  marker : IsIdentifier s.marker
  maxIterations : 0 < s.maxIterations

/-- The failure that is about the first setting that makes no sense. -/
inductive FirstFlaw (s : Settings) : Failure → Prop where
  | polling (hp : s.polling = 0) :
    FirstFlaw s (.configuration "polling_interval_ms must be greater than zero")
  | marker (hp : 0 < s.polling) (hm : ¬ IsIdentifier s.marker) :
    FirstFlaw s (.configuration s!"function_prefix '{s.marker}' must be a non-empty identifier")
  | maxIterations (hp : 0 < s.polling) (hm : IsIdentifier s.marker) (hi : s.maxIterations = 0) :
    FirstFlaw s (.configuration "max_iterations must be greater than zero")

theorem isMarker_iff {text : String} : isMarker text = true ↔ IsIdentifier text := by
  simp [isMarker, IsIdentifier]

/-- Settings make sense, or there is a first one that does not. -/
theorem validate_cases (s : Settings) : (s.validate = .ok () ∧ s.Valid) ∨
    ∃ f, s.validate = .error f ∧ s.FirstFlaw f := by
  rw [validate]
  split
  · next hp => exact .inr ⟨_, rfl, .polling hp⟩
  · next hp =>
    have hp : 0 < s.polling := Nat.pos_of_ne_zero hp
    split
    · next hm =>
      rw [Bool.not_eq_true', ← Bool.not_eq_true, isMarker_iff] at hm
      exact .inr ⟨_, rfl, .marker hp hm⟩
    · next hm =>
      rw [Bool.not_eq_true', ← Bool.not_eq_true, not_not, isMarker_iff] at hm
      split
      · next hi => exact .inr ⟨_, rfl, .maxIterations hp hm hi⟩
      · next hi => exact .inl ⟨rfl, hp, hm, Nat.pos_of_ne_zero hi⟩

theorem Valid.not_firstFlaw (h : s.Valid) : ¬ s.FirstFlaw f := by
  intro hflaw
  cases hflaw with
  | polling hp => exact Nat.ne_of_gt h.polling hp
  | marker _ hm => exact hm h.marker
  | maxIterations _ _ hi => exact Nat.ne_of_gt h.maxIterations hi

theorem validate_eq_ok_iff : s.validate = .ok () ↔ s.Valid := by
  obtain ⟨hok, hvalid⟩ | ⟨f, herror, hflaw⟩ := s.validate_cases
  · exact iff_of_true hok hvalid
  · exact iff_of_false (fun hok => nomatch hok.symm.trans herror) fun h => h.not_firstFlaw hflaw

theorem FirstFlaw.validate_eq (h : s.FirstFlaw f) : s.validate = .error f := by
  rw [validate]
  cases h with
  | polling hp => simp [hp]
  | marker hp hm =>
    rw [← isMarker_iff] at hm
    simp [Nat.ne_of_gt hp, hm]
  | maxIterations hp hm hi =>
    rw [← isMarker_iff] at hm
    simp [Nat.ne_of_gt hp, hm, hi]

theorem validate_eq_error_iff : s.validate = .error f ↔ s.FirstFlaw f := by
  refine ⟨fun h => ?_, FirstFlaw.validate_eq⟩
  obtain ⟨hok, -⟩ | ⟨f', herror, hflaw⟩ := s.validate_cases
  · cases hok.symm.trans h
  · cases herror.symm.trans h
    exact hflaw

/-! ## Overriding -/

theorem override_eq_ok_iff :
    s.override overrides = .ok s' ↔ s.Merges overrides s' ∧ s'.Valid := by
  rw [override_eq_merge, ← merge_eq_ok_iff, ← validate_eq_ok_iff]
  cases s.merge overrides with
  | error f => exact iff_of_false nofun nofun
  | ok changed =>
    show (changed.validate >>= fun _ => pure changed) = .ok s' ↔ _
    rw [Except.ok.injEq]
    constructor
    · intro h
      obtain ⟨_, hvalid, heq⟩ := exists_of_bind_eq_ok h
      cases heq
      exact ⟨rfl, hvalid⟩
    · rintro ⟨rfl, hvalid⟩
      rw [hvalid]
      rfl

theorem override_eq_error_iff : s.override overrides = .error f ↔
    s.merge overrides = .error f ∨ ∃ s', s.Merges overrides s' ∧ s'.FirstFlaw f := by
  rw [override_eq_merge]
  simp only [← merge_eq_ok_iff, ← validate_eq_error_iff]
  cases s.merge overrides with
  | error f' => simp [bind, Except.bind]
  | ok changed =>
    show (changed.validate >>= fun _ => pure changed) = .error f ↔ _
    cases hvalid : changed.validate <;> simp [bind, Except.bind, pure, Except.pure, hvalid]

/-- **Overriding yields settings that make sense, or says what is wrong.**  For any settings, with
sense or without, and any texts under the seven names:

* It succeeds just if each number and each truth value that is given can be read without the blanks
  around it, and the merged settings make sense; and then these are what comes out.
* What comes out passes validation, and the same overrides leave it as it is.
* Otherwise the failure is about the first override that cannot be read, in the order in which they
  are read, and if there is none about the first setting that makes no sense. -/
theorem override_merges (s : Settings) (overrides : Fields String) :
    (∀ s', s.override overrides = .ok s' ↔ s.Merges overrides s' ∧ s'.Valid) ∧
    ((∃ s', s.Merges overrides s') ↔ ∀ item : Item, item.Readable overrides) ∧
    (∀ s', s.override overrides = .ok s' →
      s'.validate = .ok () ∧ s'.override overrides = .ok s') ∧
    ∀ f, s.override overrides = .error f ↔
      (∃ before item after, Item.all = before ++ item :: after ∧
        (∀ i ∈ before, i.Readable overrides) ∧ Refuses overrides item.name item.kind f) ∨
      ∃ s', s.Merges overrides s' ∧ s'.FirstFlaw f := by
  refine ⟨fun s' => override_eq_ok_iff, exists_merges_iff, fun s' h => ?_, fun f => ?_⟩
  · obtain ⟨hmerges, hvalid⟩ := override_eq_ok_iff.1 h
    refine ⟨validate_eq_ok_iff.2 hvalid, override_eq_ok_iff.2 ⟨fun item => ?_, hvalid⟩⟩
    exact ⟨(hmerges item).1, fun _ => rfl⟩
  · rw [override_eq_error_iff, failsAlike_merge s overrides f, mapM_eq_error_iff]
    simp only [Item.exists_check_iff, Item.check_eq_error_iff]

/-- The time between two looks was zero and is set with blanks around it, an override that is blank
counts for nothing, and of two that cannot be read the first one in order is complained of. -/
theorem override_merges_repaired :
    let s : Settings := { polling := 0 }
    let repaired : Settings := { polling := 250, logging := { json := true } }
    let given : Fields String := [("TESTFLOW_LOG_JSON", "true"), ("TESTFLOW_RETENTION_MS", " "),
      ("TESTFLOW_POLLING_INTERVAL_MS", " +250\n")]
    let wrong : Fields String := [("TESTFLOW_LOG_JSON", "yes"), ("TESTFLOW_RETENTION_MS", "-1")]
    s.override given = .ok repaired ∧ repaired.override given = .ok repaired ∧
      s.Merges given repaired ∧
      s.override wrong =
        .error (.configuration "TESTFLOW_RETENTION_MS has invalid value '-1'") ∧
      Refuses wrong Item.retention.name .natural
        (.configuration "TESTFLOW_RETENTION_MS has invalid value '-1'") := by
  intro s repaired given wrong
  have hgiven : s.override given = .ok repaired := by
    dsimp only [s, repaired, given]
    rfl
  have hrefuses : Refuses wrong Item.retention.name .natural
      (.configuration "TESTFLOW_RETENTION_MS has invalid value '-1'") :=
    Item.check_eq_error_iff.1 rfl
  have hbefore : ∀ item ∈ [Item.receiveTimeout, .polling], item.Readable wrong := by
    intro item hitem
    fin_cases hitem <;> exact Item.exists_check_iff.1 ⟨(), rfl⟩
  obtain ⟨hok, -, hagain, -⟩ := override_merges s given
  obtain ⟨-, -, -, herror⟩ := override_merges s wrong
  exact ⟨hgiven, (hagain _ hgiven).2, ((hok _).1 hgiven).1,
    (herror _).2 (.inl ⟨_, .retention, _, rfl, hbefore, hrefuses⟩), hrefuses⟩

end Scenario.Settings
