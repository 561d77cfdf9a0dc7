import Scenario.Pattern.Look

/-!
# Patterns

`Node` is a pattern: what to match in sequence, as alternatives in order of preference, and
repeatedly, as often or as rarely as possible.  Patterns are built by `ofClass`, `ofSequence`,
`ofAlternatives` and `ofLoop`, which bring them into a short form with the same matches:

* a class with one member is a literal, and neighbouring literals are one;
* a sequence has two parts at least, none of which is empty or a sequence;
* alternatives of single characters or of classes are one class, and what all alternatives begin
  with stands before them;
* what matches the empty text only is repeated once at most.

A literal is never empty.
-/

set_option autoImplicit false

namespace Scenario.Pattern

/-- A pattern. -/
inductive Node where
  | empty
  | literal (text : List Char)
  | cls (members : CodeSet)
  | look (condition : Look)
  | group (index : Nat) (body : Node)
  | seq (parts : List Node)
  | alt (branches : List Node)
  | loop (least : Nat) (most : Option Nat) (greedy : Bool) (body : Node)
deriving Inhabited

namespace Node

/-! ## Measures -/

mutual

/-- How many nodes the pattern consists of. -/
def size : Node → Nat
  | group _ body => body.size + 1
  | seq parts => sizes parts + 1
  | alt branches => sizes branches + 1
  | loop _ _ _ body => body.size + 1
  | _ => 1

/-- How many nodes the patterns consist of. -/
def sizes : List Node → Nat
  | [] => 0
  | node :: rest => node.size + sizes rest

end

mutual

/-- Whether the pattern can only match the empty text. -/
def matchesOnlyEmpty : Node → Bool
  | empty => true
  | literal _ => false
  | cls _ => false
  | look _ => true
  | group _ body => body.matchesOnlyEmpty
  | seq parts => allMatchOnlyEmpty parts
  | alt branches => allMatchOnlyEmpty branches
  | loop _ most _ body => most.isSome && body.matchesOnlyEmpty

/-- Whether all patterns can only match the empty text. -/
def allMatchOnlyEmpty : List Node → Bool
  | [] => true
  | node :: rest => node.matchesOnlyEmpty && allMatchOnlyEmpty rest

end

mutual

/-- The fewest characters that the pattern matches; nothing if one of its parts has no match. -/
def shortest? : Node → Option Nat
  | empty => some 0
  | literal text => some text.length
  | cls members => if members.ranges = [] then none else some 1
  | look _ => some 0
  | group _ body => body.shortest?
  | seq parts => shortestSum? parts
  | alt branches => shortestMin? branches
  | loop least _ _ body => body.shortest?.map (least * ·)

/-- The fewest characters that patterns in sequence match. -/
def shortestSum? : List Node → Option Nat
  | [] => some 0
  | node :: rest =>
    match node.shortest?, shortestSum? rest with
    | some m, some n => some (m + n)
    | _, _ => none

/-- The fewest characters that alternatives match. -/
def shortestMin? : List Node → Option Nat
  | [] => none
  | [node] => node.shortest?
  | node :: rest =>
    match node.shortest?, shortestMin? rest with
    | some m, some n => some (min m n)
    | _, _ => none

end

/-- Whether every match has a character at least. -/
def needsText (node : Node) : Bool := node.shortest?.any (0 < ·)

mutual

/-- Whether every match has to meet a condition at its start. -/
def startsWith (condition : Look) : Node → Bool
  | look c => c == condition
  | group _ body => body.startsWith condition
  | seq parts => sequenceStartsWith condition parts
  | alt branches => allStartWith condition branches
  | loop least _ _ body => 0 < least && body.startsWith condition
  | _ => false

/-- Whether every match of a sequence has to meet a condition at its start. -/
def sequenceStartsWith (condition : Look) : List Node → Bool
  | [] => false
  | node :: rest =>
    node.startsWith condition || (node.matchesOnlyEmpty && sequenceStartsWith condition rest)

/-- Whether every match of each pattern has to meet a condition at its start. -/
def allStartWith (condition : Look) : List Node → Bool
  | [] => true
  | node :: rest => node.startsWith condition && allStartWith condition rest

end

mutual

/-- The pattern that matches the same texts read backwards. -/
def backwards : Node → Node
  | literal text => literal text.reverse
  | group index body => group index body.backwards
  | seq parts => seq (allBackwards parts).reverse
  | alt branches => alt (allBackwards branches)
  | loop least most greedy body => loop least most greedy body.backwards
  | node => node

/-- The patterns for texts read backwards. -/
def allBackwards : List Node → List Node
  | [] => []
  | node :: rest => node.backwards :: allBackwards rest

end

mutual

/-- Whether two patterns are the same. -/
def same : Node → Node → Bool
  | empty, empty => true
  | literal s, literal t => s == t
  | cls s, cls t => s == t
  | look c, look d => c == d
  | group i a, group j b => i == j && a.same b
  | seq as, seq bs => allSame as bs
  | alt as, alt bs => allSame as bs
  | loop l m g a, loop l' m' g' b => l == l' && m == m' && g == g' && a.same b
  | _, _ => false

/-- Whether two lists of patterns are the same. -/
def allSame : List Node → List Node → Bool
  | [], [] => true
  | a :: as, b :: bs => a.same b && allSame as bs
  | _, _ => false

end

/-! ## Building patterns -/

/-- What matches nothing. -/
def fail : Node := cls ⟨[]⟩

/-- The pattern of one character out of a set. -/
def ofClass (members : CodeSet) : Node :=
  match members.only? with
  | some c => literal [c]
  | none => cls members

/-- The parts of the pattern as part of a sequence. -/
def parts : Node → List Node
  | empty => []
  | seq parts => parts
  | node => [node]

/-- Puts a part before others, and joins literals. -/
def consPart (node : Node) (rest : List Node) : List Node :=
  match node, rest with
  | literal s, literal t :: more => literal (s ++ t) :: more
  | _, _ => node :: rest

/-- The pattern of some parts without nesting. -/
def ofParts : List Node → Node
  | [] => empty
  | [node] => node
  | nodes => seq nodes

/-- The pattern of nodes in sequence. -/
def ofSequence (nodes : List Node) : Node :=
  ofParts ((nodes.flatMap parts).foldr consPart [])

/-- The alternatives of the pattern as one of several alternatives. -/
def branches : Node → List Node
  | alt branches => branches
  | node => [node]

/-- The class of the pattern if it is a single character. -/
def single? : Node → Option CodeSet
  | literal [c] => some (.single c)
  | _ => none

/-- The class of the pattern if it is one. -/
def class? : Node → Option CodeSet
  | cls members => some members
  | _ => none

/-- The parts of the pattern if it is a sequence. -/
def sequence? : Node → Option (List Node)
  | seq parts => some parts
  | _ => none

/-- How many nodes two lists have in common at their start. -/
def commonLength : List Node → List Node → Nat
  | a :: as, b :: bs => if a.same b then commonLength as bs + 1 else 0
  | _, _ => 0

/-- How many parts all sequences have in common at their start. -/
def sharedLength : List (List Node) → Nat
  | [] => 0
  | first :: rest => rest.foldl (fun n parts => min n (commonLength first parts)) first.length

/-- The union of sets. -/
def unionAll (sets : List CodeSet) : CodeSet := .ofRanges (sets.flatMap (·.ranges))

/-- The pattern of alternatives, where parts at their start are shared `depth` times at most. -/
def alternatives : Nat → List Node → Node
  | 0, nodes => alt nodes
  | depth + 1, nodes =>
    match nodes.flatMap branches with
    | [] => fail
    | [node] => node
    | nodes =>
      match nodes.mapM single? <|> nodes.mapM class? with
      | some sets => ofClass (unionAll sets)
      | none =>
        match nodes.mapM sequence? with
        | none => alt nodes
        | some sequences =>
          let shared := sharedLength sequences
          if shared = 0 then alt nodes
          else
            let rest := alternatives depth (sequences.map fun parts => ofParts (parts.drop shared))
            ofSequence (((sequences.headD []).take shared) ++ [rest])

/-- The pattern of alternatives.  Sharing what they begin with takes nodes away from them, so it
ends after so many steps. -/
def ofAlternatives (nodes : List Node) : Node := alternatives (sizes nodes + 1) nodes

/-- The pattern of repetitions. -/
def ofLoop (least : Nat) (most : Option Nat) (greedy : Bool) (body : Node) : Node :=
  let once := body.matchesOnlyEmpty
  let least := if once then min least 1 else least
  let most := if once then some (min (most.getD 1) 1) else most
  if most = some 0 then empty
  else if least = 1 ∧ most = some 1 then body
  else loop least most greedy body

end Node

/-- A pattern that has been read: what to match, and the names of its groups. -/
structure Regex where
  body : Node
  names : List (String × Nat)

end Scenario.Pattern
