import Scenario.Action.Basic

/-!
# Templates

A template is a list of actions under a name, with parameters.

* `Template.bind` finds the values of the parameters of a call.  They are resolved against the
  variables of the caller, all before any of them is set.
* `Templates` are templates by name; registering one replaces that of the same name.
-/

set_option autoImplicit false

namespace Scenario

/-- A parameter of a template. -/
structure Parameter where
  name : String
  default : Option Json := none
deriving Repr, Inhabited

/-- Actions to be called under a name. -/
structure Template where
  name : String
  parameters : List Parameter := []
  /-- Whether the body works on the variables of the caller if a call does not say. -/
  sharing : Sharing := .shared
  body : List Action := []

namespace Template

/-- Resolves an argument that is a string; others stay as they are. -/
def resolveArgument (lib : Library) (store : Store) : Json → Except Failure Json
  | .string text => (resolve lib store text).map .string
  | value => .ok value

/-- The values of the parameters that a call leaves out. -/
def bindDefaults (lib : Library) (store : Store) (template : String) (arguments : Fields Json) :
    List Parameter → Except Failure (Fields Json)
  | [] => .ok []
  | p :: rest =>
    if arguments.has p.name then bindDefaults lib store template arguments rest
    else match p.default with
      | none => .error (.missingParameter template p.name)
      | some default => do
        let value ← resolveArgument lib store default
        let others ← bindDefaults lib store template arguments rest
        return (p.name, value) :: others

/-- The values of the arguments of a call. -/
def bindArguments (lib : Library) (store : Store) : Fields Json → Except Failure (Fields Json)
  | [] => .ok []
  | (name, argument) :: rest => do
    let value ← resolveArgument lib store argument
    let others ← bindArguments lib store rest
    return (name, value) :: others

/-- What a call sets: parameters left out, then arguments, each name once. -/
def bind (t : Template) (lib : Library) (store : Store) (arguments : Fields Json) :
    Except Failure (Fields Json) := do
  let defaults ← bindDefaults lib store t.name arguments t.parameters
  let supplied ← bindArguments lib store arguments
  return Fields.merge (defaults ++ supplied)

end Template

/-- Templates by name. -/
abbrev Templates := Fields Template

namespace Templates

/-- Registers a template. -/
def register (templates : Templates) (t : Template) : Templates := templates.set t.name t

/-- The template of some name. -/
def find (templates : Templates) (name : String) : Except Failure Template :=
  match templates.get? name with
  | some t => .ok t
  | none => .error (.unknownTemplate name)

/-- The names of all templates in order. -/
def listed (templates : Templates) : List String := (Fields.sorted templates).names

end Templates
end Scenario
