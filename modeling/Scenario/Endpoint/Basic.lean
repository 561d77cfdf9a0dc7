import Scenario.Context
import Scenario.Endpoint.Transport

/-!
# Endpoints

An endpoint sends messages through a transport and receives the replies to them.

* `Correlator` says what text a request and its reply have in common.  This text is the key under
  which the reply waits in the correlation table of the endpoint.
* `send` registers the key before the message goes out, and remembers it in a variable, so that
  `receive` in the same scope knows what to wait for.
* `accept` takes a reply that arrives by itself.
-/

set_option autoImplicit false

namespace Scenario

/-- What a request and its reply have in common. -/
inductive Correlator where
  /-- The identifier of the request, which the reply has in its correlation header. -/
  | messageId
  /-- A header that both have. -/
  | header (name : String)
deriving DecidableEq, Repr, Inhabited

namespace Correlator

/-- The key of a request. -/
def requestKey? : Correlator → Message → Option String
  | messageId, m => some m.id
  | header name, m => m.headerText? name

/-- The key of a reply. -/
def replyKey? : Correlator → Message → Option String
  | messageId, m => m.correlation?
  | header name, m => m.headerText? name

end Correlator

/-- The settings of an endpoint. -/
structure Endpoint.Settings where
  /-- How long a receive waits, in milliseconds. -/
  timeout : Nat := 5000
  /-- The time between two looks for a reply. -/
  polling : Nat := 500
  /-- How long an entry of the correlation table is kept. -/
  retention : Nat := 30000
  /-- The variable for the identifier of the last message sent. -/
  messageIdVariable : Option String := none
deriving DecidableEq, Repr, Inhabited

/-- Fails if an endpoint cannot work with the settings. -/
def Endpoint.Settings.validate (s : Endpoint.Settings) : Outcome :=
  if s.polling = 0 then
    .error (.configuration "endpoint polling_interval_ms must be greater than zero")
  else .ok ()

/-- Something that messages are sent to and received from. -/
structure Endpoint where
  name : String
  settings : Endpoint.Settings := {}
  correlator : Correlator := .messageId
  manager : Manager
  transport : Transport
  /-- The number of the channel on which the transport sends. -/
  channel : Nat

/-- Endpoints by name. -/
abbrev Endpoints := Fields Endpoint

/-- The endpoint of some name. -/
def Endpoints.find (endpoints : Endpoints) (name : String) : Except Failure Endpoint :=
  match endpoints.get? name with
  | some e => .ok e
  | none => .error (.unknownEndpoint name)

/-- The names of all endpoints in order. -/
def Endpoints.listed (endpoints : Endpoints) : List String := (Fields.sorted endpoints).names

/-- Opens a correlation table for an endpoint with some settings. -/
def Session.openManager (s : Session) (settings : Endpoint.Settings) : Manager × Session :=
  let (table, s) := s.openTable
  ({ table := table, polling := settings.polling, retention := settings.retention }, s)

/-- How long to pause before the next look if some time remains. -/
def Manager.nap (m : Manager) (remaining : Nat) : Nat :=
  min (min m.interval remaining) Session.longestPause

theorem Manager.nap_pos {m : Manager} {remaining : Nat} (h : remaining ≠ 0) :
    0 < m.nap remaining := by
  have hm : 0 < m.interval := Nat.lt_of_lt_of_le Nat.one_pos (Nat.le_max_left 1 m.polling)
  have hl : 0 < Session.longestPause := by decide
  simp only [nap]
  omega

/-- The time that is left until a deadline, and not more than there can be. -/
def Manager.left (deadline remaining now : Nat) : Nat := min remaining (deadline - now)

/-- Goes on after a look for a reply under a key: it looks again and again until the clock has
reached a deadline.  There is at most `remaining` time until then, so that the looks come to an
end.  A look says what it has found and when it was.  Nobody gets in between these two, so that a
find gives up only if its last look has come at the deadline or later. -/
def Manager.poll (m : Manager) (key : String) (deadline remaining : Nat) :
    Option Message × Nat → Script (Option Message)
  | (some reply, _) => .done (some reply)
  | (none, now) =>
    if _h : Manager.left deadline remaining now = 0 then .done none
    else .pause (m.nap (Manager.left deadline remaining now)) fun _ =>
      .take (.claimReply m key) fun look =>
        m.poll key deadline
          (Manager.left deadline remaining now - m.nap (Manager.left deadline remaining now)) look
termination_by remaining
decreasing_by
  have := Manager.nap_pos (m := m) _h
  have : Manager.left deadline remaining now ≤ remaining := Nat.min_le_left ..
  omega

/-- What is done that begins with a look. -/
def Manager.watch (m : Manager) (key : String) (deadline remaining : Nat) :
    Script (Option Message) :=
  .take (.claimReply m key) (m.poll key deadline remaining)

theorem Manager.poll_some (m : Manager) (key : String) (deadline remaining now : Nat)
    (reply : Message) :
    m.poll key deadline remaining (some reply, now) = .done (some reply) := by
  rw [poll]

theorem Manager.poll_none (m : Manager) (key : String) (deadline remaining now : Nat) :
    m.poll key deadline remaining (none, now) =
      if left deadline remaining now = 0 then .done none
      else .pause (m.nap (left deadline remaining now)) fun _ =>
        m.watch key deadline
          (left deadline remaining now - m.nap (left deadline remaining now)) := by
  rw [poll]
  rfl

/-- Waits for a reply under a key.  The time that it waits begins with the first look. -/
def Manager.find (m : Manager) (key : String) (timeout : Nat) : Activity Message := do
  Activity.step (.purge m)
  let look ← Activity.step (.claimReply m key)
  match ← ExceptT.lift (m.poll key (look.2 + timeout) timeout look) with
  | some reply => return reply
  | none =>
    Activity.step (.expireKey m key)
    throw (.timeout s!"no reply received for correlation key '{key}'" timeout)

/-- Registers a key and remembers it in a variable. -/
def Manager.create (m : Manager) (ctx : Context) (keyName key : String) : Activity Unit := do
  ctx.set keyName (.string key)
  Activity.step (.createKey m key)

/-- The key that a variable remembers. -/
def Manager.key (ctx : Context) (keyName : String) : Activity String := do
  let store ← ctx.store
  match store.get? keyName with
  | some value => return value.asText
  | none => throw (.missingKey keyName)

namespace Endpoint

/-- The variable that remembers the key of the last message sent. -/
def keyName (e : Endpoint) : String := s!"{e.name}_correlation_key"

/-- Sends a message through the transport. -/
def dispatch (e : Endpoint) (request : Message) : Script Response := do
  let earlier ← Script.step (.transcribe e.channel request)
  Script.sleep e.transport.latency
  let id ← Script.step .generate
  let now ← Script.step .now
  return e.transport.respond
    { endpoint := e.name, earlier := earlier, request := request,
      blank := request.reply id (Moment.iso now) .null }

/-- Deals with what came of the message under a key.  A failure takes the key back. -/
def settle (e : Endpoint) (key : String) : Response → Activity Unit
  | .failure f => do
    Activity.step (.discardKey e.manager key)
    throw f
  | .silence => return ()
  | .reply m => Activity.step (.storeReply e.manager key m)
  | .later delay m =>
    match e.correlator.replyKey? m with
    | some key => Activity.step (.schedule delay e.manager key m)
    | none => return ()

/-- Sends a message. -/
def send (e : Endpoint) (ctx : Context) (request : Message) : Activity Unit := do
  match e.correlator.requestKey? request with
  | none => throw (.missingKey e.keyName)
  | some key =>
    e.manager.create ctx e.keyName key
    match e.settings.messageIdVariable with
    | some name => ctx.set name (.string request.id)
    | none => pure ()
    let response ← ExceptT.lift (e.dispatch request)
    e.settle key response

/-- Takes a reply that arrives by itself. -/
def accept (e : Endpoint) (reply : Message) : Activity Unit :=
  match e.correlator.replyKey? reply with
  | none => throw (.validation
      s!"reply {reply.id} on endpoint '{e.name}' carries no correlation key")
  | some key => Activity.step (.storeReply e.manager key reply)

/-- Receives the reply under a key. -/
def receiveSelected (e : Endpoint) (ctx : Context) (key : String) (timeout : Option Nat) :
    Activity Message :=
  tryCatch (e.manager.find key (timeout.getD e.settings.timeout)) fun f => do
    if f.isTimeout then ExceptT.lift (ctx.report (.keyTimeout e.keyName key))
    throw f

/-- Receives the reply to the last message sent in the scope. -/
def receive (e : Endpoint) (ctx : Context) (timeout : Option Nat) : Activity Message := do
  let key ← Manager.key ctx e.keyName
  e.receiveSelected ctx key timeout

end Endpoint
end Scenario
