import Scenario.Correlation.Table
import Scenario.Event
import Scenario.Message
import Scenario.Variables.Store

/-!
# Sessions

A session is all that actions can see and change while a scenario runs: a clock, the variables of
each scope, the correlation tables, what has been reported, and the replies that are on their way.

* `Manager` says how one correlation table is used: how often it is looked at and how long it
  keeps its entries.
* `Delivery` is a reply that will arrive at some time.  `Session.schedule` keeps deliveries in the
  order in which they arrive, and `Session.advance` lets time pass and those arrive that are due.
* `Session.transcript` is what was sent through a channel, and `Session.recording` what an action
  for recording has seen.
-/

set_option autoImplicit false

namespace Scenario

open Correlation

/-- How a correlation table is used. -/
structure Manager where
  /-- The number of the table. -/
  table : Nat
  /-- The wished time between two looks for a reply. -/
  polling : Nat := 500
  /-- How long an entry is kept. -/
  retention : Nat := 30000
deriving DecidableEq, Repr, Inhabited

/-- The time between two looks for a reply, at least one millisecond. -/
def Manager.interval (m : Manager) : Nat := max 1 m.polling

/-- A reply on its way. -/
structure Delivery where
  /-- When it was sent. -/
  since : Nat
  /-- When it arrives. -/
  due : Nat
  manager : Manager
  key : String
  reply : Message
deriving Repr

/-- What an action for recording has seen. -/
structure Recording where
  executions : Nat := 0
  captured : List String := []
deriving DecidableEq, Repr, Inhabited

/-- What actions can see and change. -/
structure Session where
  /-- Milliseconds since the session began. -/
  clock : Nat := 0
  /-- The variables of each scope. -/
  scopes : List Store := []
  /-- The correlation tables. -/
  tables : List (Table Message) := []
  /-- What was reported, in order. -/
  events : Array Event := #[]
  /-- How many identifiers were generated. -/
  idents : Nat := 0
  /-- The messages sent through each channel, in order. -/
  transcripts : List (List Message) := []
  /-- What each action for recording has seen. -/
  recordings : List Recording := []
  /-- Replies on their way, in the order in which they arrive. -/
  deliveries : List Delivery := []

namespace Session

instance : Inhabited Session := ⟨{}⟩

/-! ## Variables -/

/-- The variables of a scope. -/
def store (s : Session) (scope : Nat) : Store := s.scopes.getD scope .empty

/-- Changes the variables of a scope. -/
def changeStore (s : Session) (scope : Nat) (change : Store → Store) : Session :=
  { s with scopes := s.scopes.modify scope change }

/-- Opens a scope with some variables. -/
def openScope (s : Session) (store : Store) : Nat × Session :=
  (s.scopes.length, { s with scopes := s.scopes ++ [store] })

/-! ## Correlation -/

/-- A correlation table. -/
def table (s : Session) (number : Nat) : Table Message := s.tables.getD number {}

/-- Changes a correlation table. -/
def changeTable (s : Session) (number : Nat) (change : Table Message → Table Message) : Session :=
  { s with tables := s.tables.modify number change }

/-- Opens an empty correlation table. -/
def openTable (s : Session) : Nat × Session :=
  (s.tables.length, { s with tables := s.tables ++ [{}] })

/-- Stores a reply under a key. -/
def storeReply (s : Session) (m : Manager) (key : String) (reply : Message) : Session :=
  s.changeTable m.table fun t => t.store s.clock m.retention key reply

/-! ## Reports, identifiers, channels and recordings -/

/-- Reports an occurrence now. -/
def report (s : Session) (run test : Option String) (what : Occurrence) : Session :=
  { s with events := s.events.push { what := what, run := run, test := test, time := s.clock } }

/-- Generates an identifier. -/
def generate (s : Session) : String × Session :=
  (Ident.nth s.idents, { s with idents := s.idents + 1 })

/-- The messages sent through a channel. -/
def transcript (s : Session) (channel : Nat) : List Message := s.transcripts.getD channel []

/-- Opens a channel. -/
def openChannel (s : Session) : Nat × Session :=
  (s.transcripts.length, { s with transcripts := s.transcripts ++ [[]] })

/-- Notes that a message was sent through a channel. -/
def transcribe (s : Session) (channel : Nat) (m : Message) : Session :=
  { s with transcripts := s.transcripts.modify channel (· ++ [m]) }

/-- What an action for recording has seen. -/
def recording (s : Session) (number : Nat) : Recording := s.recordings.getD number {}

/-- Prepares an action for recording. -/
def openRecording (s : Session) : Nat × Session :=
  (s.recordings.length, { s with recordings := s.recordings ++ [{}] })

/-- Notes one more execution of an action for recording. -/
def recordExecution (s : Session) (number : Nat) (captured : Option String) : Session :=
  { s with recordings := s.recordings.modify number fun r =>
      ⟨r.executions + 1, r.captured ++ captured.toList⟩ }

/-! ## Time -/

/-- The longest time that a single pause or delay takes, in milliseconds: thirty years of 365
days.  What is to take longer ends then. -/
def longestPause : Nat := 30 * 365 * 24 * 60 * 60 * 1000

/-- Puts a delivery behind those that arrive no later. -/
def insertDelivery (d : Delivery) : List Delivery → List Delivery
  | [] => [d]
  | e :: rest => if e.due ≤ d.due then e :: insertDelivery d rest else d :: e :: rest

/-- Lets a reply arrive after a delay, or after the longest one if that is shorter. -/
def schedule (s : Session) (delay : Nat) (m : Manager) (key : String) (reply : Message) :
    Session :=
  let d : Delivery :=
    { since := s.clock, due := s.clock + min delay longestPause, manager := m, key := key,
      reply := reply }
  { s with deliveries := insertDelivery d s.deliveries }

/-- Lets time pass up to a moment that is not before now. -/
def passTo (s : Session) (time : Nat) : Session := { s with clock := max s.clock time }

/-- Lets a reply arrive. -/
def deliver (s : Session) (d : Delivery) : Session :=
  (s.passTo d.due).storeReply d.manager d.key d.reply

/-- Lets time pass up to a moment; the first deliveries for which `first` holds arrive before. -/
def advance (s : Session) (time : Nat) (first : Delivery → Bool) : Session :=
  let arriving := s.deliveries.takeWhile first
  let s := { s with deliveries := s.deliveries.dropWhile first }
  (arriving.foldl deliver s).passTo time

end Session
end Scenario
