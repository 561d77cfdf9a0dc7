import Scenario.Text.Class

/-!
# Scanning calls

How the text of a function call is taken apart, before anything in it is resolved.

* `closing?` finds the parenthesis that closes a call.  Quotes and references hide parentheses.
* `splitArguments` cuts the text between the parentheses at commas that no quotes or further
  parentheses hide.  Blank text has no arguments.
* `call?` recognises a call at the start of a text.
-/

set_option autoImplicit false

namespace Scenario.Resolve

open Text

/-! ## The end of a call -/

/-- What the characters seen so far mean for the next one. -/
structure Scan where
  /-- Parentheses that are open. -/
  depth : Nat := 1
  quoted : Bool := false
  inReference : Bool := false
  afterDollar : Bool := false
deriving DecidableEq, Repr

namespace Scan

/-- Whether a parenthesis counts. -/
def bare (s : Scan) : Bool := !s.quoted && !s.inReference

/-- Whether the character closes the call. -/
def closes (s : Scan) (c : Char) : Bool := c == ')' && s.bare && s.depth == 1

/-- What holds after a character that does not close the call. -/
def step (s : Scan) (c : Char) : Scan :=
  let s' : Scan :=
    if c = '\'' ∧ ¬ s.inReference then { s with quoted := !s.quoted }
    else if c = '\x7b' ∧ s.afterDollar ∧ ¬ s.quoted then { s with inReference := true }
    else if c = '\x7d' ∧ s.inReference then { s with inReference := false }
    else if c = '(' ∧ s.bare then { s with depth := s.depth + 1 }
    else if c = ')' ∧ s.bare then { s with depth := s.depth - 1 }
    else s
  { s' with afterDollar := c == '$' }

end Scan

/-- Splits at the parenthesis that closes the call: what stands before it, and what follows. -/
def closing? (s : Scan) : List Char → Option (List Char × List Char)
  | [] => none
  | c :: rest =>
    if s.closes c then some ([], rest)
    else (closing? (s.step c) rest).map fun (inside, tail) => (c :: inside, tail)

/-! ## Arguments -/

/-- Splits at the first comma that nothing hides; `none` after the last argument. -/
def splitComma (depth : Nat) (quoted : Bool) : List Char → List Char × Option (List Char)
  | [] => ([], none)
  | c :: rest =>
    if c = ',' ∧ ¬ quoted ∧ depth = 0 then ([], some rest)
    else
      let quoted' := if c = '\'' then !quoted else quoted
      let depth' :=
        if quoted then depth
        else if c = '(' then depth + 1
        else if c = ')' then depth - 1
        else depth
      let (argument, more) := splitComma depth' quoted' rest
      (c :: argument, more)

theorem splitComma_length (depth : Nat) (quoted : Bool) (cs : List Char) :
    (splitComma depth quoted cs).1.length ≤ cs.length ∧
      ∀ more, (splitComma depth quoted cs).2 = some more → more.length < cs.length := by
  induction cs generalizing depth quoted with
  | nil => simp [splitComma]
  | cons c rest ih =>
    unfold splitComma
    split
    · simp
    · exact ⟨by simpa using (ih _ _).1, fun more h => by
        have := (ih _ _).2 more h
        simp only [List.length_cons]
        omega⟩

/-- Cuts at every comma that nothing hides and trims the parts. -/
def splitParts (cs : List Char) : List (List Char) :=
  match h : splitComma 0 false cs with
  | (argument, none) => [trim argument]
  | (argument, some more) =>
    have : more.length < cs.length := (splitComma_length 0 false cs).2 more (by rw [h])
    trim argument :: splitParts more
termination_by cs.length

/-- The arguments between the parentheses of a call. -/
def splitArguments (cs : List Char) : List (List Char) :=
  if trim cs = [] then [] else splitParts cs

theorem length_le_of_mem_splitParts (cs : List Char) :
    ∀ a ∈ splitParts cs, a.length ≤ cs.length := by
  induction h : cs.length using Nat.strongRecOn generalizing cs with
  | ind n ih =>
    subst h
    intro a ha
    rw [splitParts] at ha
    split at ha
    · next argument heq =>
      simp only [List.mem_singleton] at ha
      subst ha
      have h := (splitComma_length 0 false cs).1
      rw [heq] at h
      exact Nat.le_trans (length_trim_le _) h
    · next argument more heq =>
      have h := splitComma_length 0 false cs
      rw [heq] at h
      rcases List.mem_cons.1 ha with rfl | ha
      · exact Nat.le_trans (length_trim_le _) h.1
      · have hlt := h.2 more rfl
        exact Nat.le_trans (ih _ hlt more rfl a ha) (Nat.le_of_lt hlt)

theorem length_le_of_mem_splitArguments {cs a : List Char} (h : a ∈ splitArguments cs) :
    a.length ≤ cs.length := by
  unfold splitArguments at h
  split at h
  · simp at h
  · exact length_le_of_mem_splitParts cs a h

/-- Takes off a pair of quotes around an argument. -/
def unquote (cs : List Char) : List Char :=
  match cs with
  | '\'' :: rest => if rest.getLast? = some '\'' then rest.dropLast else cs
  | _ => cs

theorem length_unquote_le (cs : List Char) : (unquote cs).length ≤ cs.length := by
  unfold unquote
  split
  · split
    · simp only [List.length_dropLast, List.length_cons]; omega
    · exact Nat.le_refl _
  · exact Nat.le_refl _

/-! ## Calls -/

/-- A call at the start of a text. -/
structure Call where
  name : List Char
  /-- The text between the parentheses. -/
  inside : List Char
  /-- What follows the call. -/
  rest : List Char
deriving DecidableEq, Repr

/-- The arguments of a call, out of their quotes. -/
def Call.arguments (call : Call) : List (List Char) := (splitArguments call.inside).map unquote

/-- What follows the characters of `lead`, if the text starts with them. -/
def after? : List Char → List Char → Option (List Char)
  | [], cs => some cs
  | _ :: _, [] => none
  | d :: lead, c :: cs => if d = c then after? lead cs else none

/-- Recognises a call: the marker, a colon, a name, and arguments in parentheses. -/
def call? (marker cs : List Char) : Option Call :=
  match after? marker cs with
  | some (':' :: rest) =>
    match rest.takeWhile isNameChar, rest.dropWhile isNameChar with
    | [], _ => none
    | name, '(' :: more =>
      match closing? {} more with
      | some (inside, tail) => some ⟨name, inside, tail⟩
      | none => none
    | _, _ => none
  | _ => none

theorem closing?_length {s : Scan} {cs inside tail : List Char}
    (h : closing? s cs = some (inside, tail)) : inside.length + tail.length < cs.length := by
  induction cs generalizing s inside tail with
  | nil => simp [closing?] at h
  | cons c rest ih =>
    unfold closing? at h
    split at h
    · obtain ⟨rfl, rfl⟩ : [] = inside ∧ rest = tail := by simpa using h
      simp
    · obtain ⟨⟨i, t⟩, hit, heq⟩ := Option.map_eq_some_iff.1 h
      obtain ⟨rfl, rfl⟩ : c :: i = inside ∧ t = tail := by simpa using heq
      have := ih hit
      simp only [List.length_cons]
      omega

theorem after?_length {lead cs rest : List Char} (h : after? lead cs = some rest) :
    rest.length ≤ cs.length := by
  induction lead generalizing cs with
  | nil => simp [after?] at h; simp [h]
  | cons d lead ih =>
    cases cs with
    | nil => simp [after?] at h
    | cons c cs =>
      unfold after? at h
      split at h
      · exact Nat.le_succ_of_le (ih h)
      · simp at h

theorem call?_length {marker cs : List Char} {call : Call} (h : call? marker cs = some call) :
    call.inside.length < cs.length ∧ call.rest.length < cs.length := by
  unfold call? at h
  split at h
  · next rest hafter =>
    have hle := after?_length hafter
    have hdrop := (List.dropWhile_sublist isNameChar (l := rest)).length_le
    split at h
    · simp at h
    · next more hmore _ =>
      rw [hmore] at hdrop
      split at h
      · next inside tail hclose =>
        have := closing?_length hclose
        obtain rfl : (⟨_, inside, tail⟩ : Call) = call := by simpa using h
        simp only [List.length_cons] at hle hdrop ⊢
        omega
      · simp at h
    · simp at h
  · simp at h

theorem length_lt_of_mem_arguments {marker cs : List Char} {call : Call}
    (h : call? marker cs = some call) {a : List Char} (ha : a ∈ call.arguments) :
    a.length < cs.length := by
  obtain ⟨b, hb, rfl⟩ := List.mem_map.1 ha
  have h1 := length_unquote_le b
  have h2 := length_le_of_mem_splitArguments hb
  have h3 := (call?_length h).1
  omega

end Scenario.Resolve
