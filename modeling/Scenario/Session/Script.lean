import Scenario.Session.Basic

/-!
# Steps and scripts

* `Step` is one thing an action can do to a session at one moment, and `Session.take` does it.  A
  step is indivisible: nothing else happens in between.
* `Script` is a sequence of steps and pauses that ends with a value.  It is data, so that
  what a script can do is seen without a session to run it in.
-/

set_option autoImplicit false

namespace Scenario

/-- One indivisible thing an action can do. -/
inductive Step where
  /-- Looks at the clock. -/
  | now
  /-- Looks at the variables of a scope. -/
  | read (scope : Nat)
  | write (scope : Nat) (name : String) (value : Json)
  /-- Opens a scope with the variables of another one. -/
  | copy (scope : Nat)
  | report (run test : Option String) (what : Occurrence)
  /-- Generates an identifier. -/
  | generate
  | createKey (m : Manager) (key : String)
  | storeReply (m : Manager) (key : String) (reply : Message)
  /-- Claims a reply and looks at the clock. -/
  | claimReply (m : Manager) (key : String)
  | discardKey (m : Manager) (key : String)
  | expireKey (m : Manager) (key : String)
  | purge (m : Manager)
  | clear (m : Manager)
  /-- Lets a reply arrive after a delay. -/
  | schedule (delay : Nat) (m : Manager) (key : String) (reply : Message)
  /-- Notes a message that is sent through a channel and counts those before it. -/
  | transcribe (channel : Nat) (m : Message)
  | record (number : Nat) (captured : Option String)
deriving Repr

/-- What a step yields. -/
abbrev Step.Yield : Step → Type
  | now => Nat
  | read _ => Store
  | copy _ => Nat
  | generate => String
  | claimReply _ _ => Option Message × Nat
  | transcribe _ _ => Nat
  | _ => Unit

/-- Takes a step. -/
def Session.take (s : Session) : (step : Step) → step.Yield × Session
  | .now => (s.clock, s)
  | .read scope => (s.store scope, s)
  | .write scope name value => ((), s.changeStore scope (·.set name value))
  | .copy scope => s.openScope (s.store scope)
  | .report run test what => ((), s.report run test what)
  | .generate => s.generate
  | .createKey m key => ((), s.changeTable m.table (·.create s.clock key))
  | .storeReply m key reply => ((), s.storeReply m key reply)
  | .claimReply m key =>
    ((((s.table m.table).claim key).1, s.clock),
      s.changeTable m.table fun t => (t.claim key).2)
  | .discardKey m key => ((), s.changeTable m.table (·.discard key))
  | .expireKey m key => ((), s.changeTable m.table (·.expire s.clock key))
  | .purge m => ((), s.changeTable m.table (·.purge s.clock m.retention))
  | .clear m => ((), s.changeTable m.table (·.clear))
  | .schedule delay m key reply => ((), s.schedule delay m key reply)
  | .transcribe channel m => ((s.transcript channel).length, s.transcribe channel m)
  | .record number captured => ((), s.recordExecution number captured)

/-- A step takes no time. -/
theorem Session.clock_take (s : Session) (step : Step) : (s.take step).2.clock = s.clock := by
  cases step <;> rfl

/-- A sequence of steps and pauses. -/
inductive Script (α : Type) where
  | done (value : α)
  | take (step : Step) (next : step.Yield → Script α)
  /-- Lets some milliseconds pass. -/
  | pause (ms : Nat) (next : Unit → Script α)

namespace Script

/-- Goes on with another script. -/
def bind {α β : Type} : Script α → (α → Script β) → Script β
  | done a, f => f a
  | take step next, f => .take step fun y => (next y).bind f
  | pause ms next, f => .pause ms fun u => (next u).bind f

instance : Monad Script where
  pure := done
  bind := bind

/-- The script of a single step. -/
def step (s : Step) : Script s.Yield := .take s .done

/-- The script that only lets time pass. -/
def sleep (ms : Nat) : Script Unit := .pause ms .done

end Script

/-- A script that can fail. -/
abbrev Activity (α : Type) := ExceptT Failure Script α

namespace Activity

/-- The activity that takes a step. -/
def step (s : Step) : Activity s.Yield := ExceptT.lift (Script.step s)

/-- The activity that only lets time pass. -/
def sleep (ms : Nat) : Activity Unit := ExceptT.lift (Script.sleep ms)

/-- The activity that yields a value or fails. -/
def ofExcept {α : Type} (e : Except Failure α) : Activity α := ExceptT.mk (.done e)

end Activity
end Scenario
