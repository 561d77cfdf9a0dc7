import Scenario.Resolve.Matchers
import Scenario.Session.Script

/-!
# Contexts

A context is what an action runs against: a scope for variables, a library of functions, and the
run and the test that its reports belong to.

* `Session.begin` makes the context of a run that begins.
* `Context.derive` makes the context of something inside: it either shares the scope or gets one
  of its own that begins with the same variables.
* `resolve`, `resolveValue` and `validate` work on the variables as they are at the moment.
-/

set_option autoImplicit false

namespace Scenario

/-- Whether something inside works on the variables of what is around it or on a copy. -/
inductive Sharing where
  | shared
  | isolated
deriving DecidableEq, Repr, Inhabited

/-- What an action runs against. -/
structure Context where
  scope : Nat
  library : Library
  /-- The identifier of the run. -/
  run : String
  test : Option String := none
  /-- Whether the scope was made for this context. -/
  isolated : Bool := false

/-- Begins a run in a scope of its own. -/
def Session.begin (s : Session) (library : Library) (store : Store)
    (test : Option String) : Context × Session :=
  let (run, s) := s.generate
  let (scope, s) := s.openScope store
  ({ scope := scope, library := library, run := run, test := test }, s)

namespace Context

/-- The context of something inside. -/
def derive (ctx : Context) : Sharing → Script Context
  | .shared => return { ctx with isolated := false }
  | .isolated => do
    let scope ← Script.step (.copy ctx.scope)
    return { ctx with scope := scope, isolated := true }

/-- The contexts of several things inside. -/
def deriveMany (ctx : Context) (sharing : Sharing) : Nat → Script (List Context)
  | 0 => return []
  | n + 1 => do
    let first ← ctx.derive sharing
    let others ← ctx.deriveMany sharing n
    return first :: others

/-- The variables as they are now. -/
def store (ctx : Context) : Activity Store := Activity.step (.read ctx.scope)

/-- Sets a variable. -/
def set (ctx : Context) (name : String) (value : Json) : Activity Unit :=
  Activity.step (.write ctx.scope name value)

/-- Sets variables one after the other. -/
def setAll (ctx : Context) : Fields Json → Activity Unit
  | [] => return ()
  | (name, value) :: rest => do
    ctx.set name value
    ctx.setAll rest

/-- Reports an occurrence. -/
def report (ctx : Context) (what : Occurrence) : Script Unit :=
  Script.step (.report (some ctx.run) ctx.test what)

/-- Resolves a text. -/
def resolve (ctx : Context) (text : String) : Activity String := do
  let store ← ctx.store
  Activity.ofExcept (Scenario.resolve ctx.library store text)

/-- Resolves the strings in a value. -/
def resolveValue (ctx : Context) (value : Json) : Activity Json := do
  let store ← ctx.store
  Activity.ofExcept (Scenario.resolveValue ctx.library store value)

/-- Resolves a value that is a string; others stay as they are. -/
def resolveText (ctx : Context) : Json → Activity Json
  | .string text => do
    let resolved ← ctx.resolve text
    return .string resolved
  | value => return value

/-- Fails if a text does not meet an expectation. -/
def validate (ctx : Context) (path expected actual : String) : Activity Unit := do
  let store ← ctx.store
  Activity.ofExcept (Expectation.validate ctx.library store path expected actual)

end Context
end Scenario
