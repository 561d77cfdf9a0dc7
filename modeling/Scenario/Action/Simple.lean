import Scenario.Action.Basic
import Scenario.Json.Pointer

/-!
# What simple actions do

An `Activity` for each action that holds no others.
-/

set_option autoImplicit false

namespace Scenario

open Text

/-- Resolves values and sets variables to them, one after the other. -/
def Context.assign (ctx : Context) : Fields Json → Activity Unit
  | [] => return ()
  | (name, value) :: rest => do
    let resolved ← ctx.resolveText value
    ctx.set name resolved
    ctx.assign rest

/-- Reports a text. -/
def Context.echo (ctx : Context) (message : String) : Activity Unit := do
  let resolved ← ctx.resolve message
  ExceptT.lift (ctx.report (.echo resolved))

/-- Lets as much time pass as a text says. -/
def Context.sleep (ctx : Context) (milliseconds : String) : Activity Unit := do
  let resolved ← ctx.resolve milliseconds
  match Whole.read Whole.max64 (trim resolved.toList) with
  | .ok ms => Activity.sleep ms
  | .error _ => throw (.validation s!"sleep time '{resolved}' is not a number of milliseconds")

/-- Fails with a text. -/
def Context.fail (ctx : Context) (message : String) : Activity Unit := do
  let resolved ← ctx.resolve message
  throw (.action resolved)

/-- Judges the outcome of an action that is expected to fail. -/
def Context.judgeFailure (ctx : Context) (action : String) (expected : Option String) :
    Outcome → Activity Unit
  | .ok _ => throw (.unexpectedSuccess action)
  | .error f =>
    match expected with
    | some expected => ctx.validate "error" expected f.message
    | none => return ()

namespace Draft

/-- Resolves the values of headers in order. -/
def resolveHeaders (lib : Library) (store : Store) : Fields Json → Except Failure (Fields Json)
  | [] => .ok []
  | (name, value) :: rest => do
    let value ← Scenario.resolveValue lib store value
    let others ← resolveHeaders lib store rest
    return (name, value) :: others

/-- Resolves the texts of a draft: the payload, the identifier and the headers. -/
def resolve (d : Draft) (lib : Library) (store : Store) : Except Failure Draft := do
  let payload ← Scenario.resolveValue lib store d.payload
  let id ← match d.id with
    | some id => (Scenario.resolve lib store id).map some
    | none => pure none
  let headers ← resolveHeaders lib store d.headers
  return { payload := payload, id := id, headers := headers }

/-- The message of a draft without texts to resolve. -/
def message (d : Draft) (id timestamp : String) : Message :=
  { id := d.id.getD id, payload := d.payload, timestamp := timestamp : Message }.withHeaders
    d.headers

end Draft

/-- Sends a message. -/
def Context.send (ctx : Context) (e : Endpoint) (d : Draft) : Activity Unit := do
  let store ← ctx.store
  let d ← Activity.ofExcept (d.resolve ctx.library store)
  let id ← Activity.step .generate
  let now ← Activity.step .now
  e.send ctx (d.message id (Moment.iso now))

/-- Sets variables to the text forms of headers. -/
def Context.extractHeaders (ctx : Context) (m : Message) : Fields String → Activity Unit
  | [] => return ()
  | (header, name) :: rest =>
    match m.header? header with
    | none => throw (.validation s!"cannot extract missing header '{header}'")
    | some value => do
      ctx.set name (.string value.asText)
      ctx.extractHeaders m rest

/-- Sets variables to parts of the payload. -/
def Context.extractPayload (ctx : Context) (m : Message) : Fields String → Activity Unit
  | [] => return ()
  | (pointer, name) :: rest =>
    match m.payload.at? pointer with
    | none => throw (.validation s!"cannot extract missing payload element '{pointer}'")
    | some value => do
      ctx.set name value
      ctx.extractPayload m rest

/-- Waits for the message that a receipt is about. -/
def Context.obtain (ctx : Context) (e : Endpoint) (r : Receipt) : Activity Message :=
  match r.selector with
  | some selector => do
    let key ← ctx.resolve selector
    e.receiveSelected ctx key r.timeout
  | none => e.receive ctx r.timeout

/-- Does what a receipt says with a message: validates it and sets variables. -/
def Context.handle (ctx : Context) (r : Receipt) (m : Message) : Activity Unit := do
  unless r.expectation.isEmpty do
    let store ← ctx.store
    Activity.ofExcept (r.expectation.validate ctx.library store r.strictness m)
  ctx.extractHeaders m r.headerVariables
  ctx.extractPayload m r.payloadVariables

/-- Receives a message. -/
def Context.receive (ctx : Context) (e : Endpoint) (r : Receipt) : Activity Unit := do
  let m ← ctx.obtain e r
  ctx.handle r m

/-- Notes an execution and perhaps the value of a variable. -/
def Context.record (ctx : Context) (recording : Nat) (capture : Option String)
    (delay : Option Nat) : Activity Unit := do
  match delay with
  | some ms => Activity.sleep ms
  | none => pure ()
  match capture with
  | some name =>
    let store ← ctx.store
    let value ← Activity.ofExcept (store.get name)
    Activity.step (.record recording (some value.asText))
  | none => Activity.step (.record recording none)

end Scenario
