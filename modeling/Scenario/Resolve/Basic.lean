import Scenario.Resolve.Functions
import Scenario.Resolve.Scan
import Scenario.Variables.Store

/-!
# Resolving text

A text may refer to variables, as `$` and a name in braces, and call functions.  Resolving it is a
single pass from left to right.

* `Reference.eval` is the value of a reference: the text of the variable, or the fallback.
* `resolveOnto` goes through a text and puts out as it reads.  Where it meets a reference or a call
  it puts out the value and goes on behind it; what it has put out it does not read again.  The
  arguments of a call are texts of their own and are resolved in the same way.
* `resolve` is the pass over a whole text, and `resolveValue` that over every string in a value.
-/

set_option autoImplicit false

namespace Scenario

open Text Resolve

/-- A reference to a variable, as it is written between the braces. -/
structure Reference where
  expression : List Char
  name : List Char
  /-- What stands for the variable if it is not defined. -/
  fallback : Option (List Char)
deriving DecidableEq, Repr

namespace Reference

/-- Splits at the first `:-`. -/
def splitFallback : List Char → List Char × Option (List Char)
  | [] => ([], none)
  | ':' :: '-' :: rest => ([], some rest)
  | c :: rest =>
    let (name, fallback) := splitFallback rest
    (c :: name, fallback)

/-- Reads what stands between the braces. -/
def ofExpression (expression : List Char) : Reference :=
  let (name, fallback) := splitFallback expression
  ⟨expression, trim name, fallback⟩

/-- The text of a reference with some inside. -/
def written (inside : List Char) : String := "$\x7b" ++ String.ofList inside ++ "\x7d"

/-- The value of a reference. -/
def eval (r : Reference) (store : Store) : Except Failure String :=
  if r.name = [] then .error (.unresolvable (written r.expression) "empty variable name")
  else match store.get? (String.ofList r.name), r.fallback with
    | some value, _ => .ok value.asText
    | none, some fallback => .ok (String.ofList fallback)
    | none, none =>
      .error (.unresolvable (written r.name)
        s!"variable '{String.ofList r.name}' is not defined")

end Reference

/-! ## The pass -/

/-- Splits at the first closing brace. -/
def splitBrace? : List Char → Option (List Char × List Char)
  | [] => none
  | '\x7d' :: rest => some ([], rest)
  | c :: rest => (splitBrace? rest).map fun (inside, tail) => (c :: inside, tail)

theorem splitBrace?_length {cs inside tail : List Char}
    (h : splitBrace? cs = some (inside, tail)) : inside.length + tail.length < cs.length := by
  induction cs generalizing inside tail with
  | nil => simp [splitBrace?] at h
  | cons c rest ih =>
    unfold splitBrace? at h
    split at h
    · simp at h
    · simp_all
    · next heq =>
      obtain ⟨⟨i, t⟩, hit, hpair⟩ := Option.map_eq_some_iff.1 h
      simp only [Prod.mk.injEq, List.cons.injEq] at hpair heq
      obtain ⟨rfl, rfl⟩ := hpair
      obtain ⟨rfl, rfl⟩ := heq
      have := ih hit
      simp only [List.length_cons]
      omega

/-- The reference at the start of a text: what stands between its braces, and what follows.  A
reference without an end is `some none`. -/
def reference? : List Char → Option (Option (List Char × List Char))
  | '$' :: '\x7b' :: rest => some (splitBrace? rest)
  | _ => none

theorem reference?_length {cs inside tail : List Char}
    (h : reference? cs = some (some (inside, tail))) : tail.length < cs.length := by
  unfold reference? at h
  split at h
  · next rest =>
    have := splitBrace?_length (Option.some.inj h)
    simp only [List.length_cons]
    omega
  · simp at h

/-- Whether a word can start after the character. -/
def atWordStart (before : Option Char) : Bool := !(before.any isWordChar)

/-- The call at the start of a text that follows the character `before`, if a word can start
there. -/
def callAfter? (marker : List Char) (before : Option Char) (cs : List Char) : Option Call :=
  if atWordStart before then call? marker cs else none

theorem call?_of_callAfter? {marker cs : List Char} {before : Option Char} {call : Call}
    (h : callAfter? marker before cs = some call) : call? marker cs = some call := by
  unfold callAfter? at h
  split at h
  · exact h
  · simp at h

/-- Resolves a text that follows the character `before`, and puts the result behind `out`. -/
def resolveOnto (lib : Library) (store : Store) (out : String) (before : Option Char)
    (cs : List Char) : Except Failure String :=
  match cs with
  | [] => .ok out
  | c :: rest =>
    match _hr : reference? (c :: rest) with
    | some none =>
      .error (.unresolvable (String.ofList (c :: rest)) "unterminated variable reference")
    | some (some (inside, tail)) => do
      let value ← (Reference.ofExpression inside).eval store
      resolveOnto lib store (out ++ value) (some '\x7d') tail
    | none =>
      match _hc : callAfter? lib.marker.toList before (c :: rest) with
      | some call => do
        let args ← call.arguments.attach.mapM fun ⟨a, _⟩ => resolveOnto lib store "" none a
        let value ← lib.evaluate store (String.ofList call.name) args
        resolveOnto lib store (out ++ value) (some ')') call.rest
      | none => resolveOnto lib store (out.push c) (some c) rest
termination_by cs.length
decreasing_by
  · exact reference?_length _hr
  · exact length_lt_of_mem_arguments (call?_of_callAfter? _hc) ‹_›
  · exact (call?_length (call?_of_callAfter? _hc)).2
  · simp

/-- Puts values in place of the references and calls in a text. -/
def resolve (lib : Library) (store : Store) (text : String) : Except Failure String :=
  resolveOnto lib store "" none text.toList

mutual

/-- Resolves every string in a value; the names of members stay as they are. -/
def resolveValue (lib : Library) (store : Store) : Json → Except Failure Json
  | .string s => (resolve lib store s).map .string
  | .array items => (resolveItems lib store items).map .array
  | .object members => (resolveMembers lib store members).map .object
  | v => .ok v

/-- Resolves the items of an array in order. -/
def resolveItems (lib : Library) (store : Store) : List Json → Except Failure (List Json)
  | [] => .ok []
  | v :: rest => do
    let w ← resolveValue lib store v
    let ws ← resolveItems lib store rest
    return w :: ws

/-- Resolves the members of an object in order. -/
def resolveMembers (lib : Library) (store : Store) :
    Fields Json → Except Failure (Fields Json)
  | [] => .ok []
  | (name, v) :: rest => do
    let w ← resolveValue lib store v
    let ws ← resolveMembers lib store rest
    return (name, w) :: ws

end

end Scenario
