import Scenario.Json.Basic

/-!
# Correlation tables

A correlation table pairs requests with replies that arrive later.

* `Entry` is what a table holds under a key: perhaps a reply, the time it was made, and the time
  the last wait for it ran out.  `Entry.state` sums it up.
* `create` makes an entry before a request is sent, `put` and `store` put a reply into one, and
  `claim` takes a reply out together with its entry, so that nobody takes it twice.
* An entry is kept for a time that begins with `Entry.since`; `purge` drops what is older.
-/

set_option autoImplicit false

namespace Scenario.Correlation

/-- What a table holds under a key. -/
structure Entry (ρ : Type) where
  reply : Option ρ := none
  /-- When the entry was made. -/
  created : Nat
  /-- When the last wait for a reply ran out. -/
  expired : Option Nat := none
deriving Repr

/-- What can be said of a key in a table. -/
inductive KeyState where
  /-- A request was sent. -/
  | created
  /-- A reply can be claimed. -/
  | stored
  /-- A wait ran out and no reply has arrived since. -/
  | expired
deriving DecidableEq, Repr, Inhabited

namespace Entry

variable {ρ : Type}

/-- The state of an entry. -/
def state (e : Entry ρ) : KeyState :=
  match e.reply, e.expired with
  | some _, _ => .stored
  | none, some _ => .expired
  | none, none => .created

/-- Whether an entry waits for a reply. -/
def isPending (e : Entry ρ) : Bool := e.reply.isNone

/-- When the time begins for which the entry is kept. -/
def since (e : Entry ρ) : Nat := e.expired.getD e.created

/-- Whether an entry is kept at a time. -/
def isKept (now retention : Nat) (e : Entry ρ) : Bool := now - e.since < retention

end Entry

/-- Entries by key. -/
structure Table (ρ : Type) where
  entries : Fields (Entry ρ) := []
deriving Repr

namespace Table

variable {ρ : Type}

instance : Inhabited (Table ρ) := ⟨{}⟩

/-- The entry under a key. -/
def get? (t : Table ρ) (key : String) : Option (Entry ρ) := t.entries.get? key

/-- The state of a key; `none` if there is no entry under it. -/
def state? (t : Table ρ) (key : String) : Option KeyState := (t.get? key).map Entry.state

/-- The number of entries. -/
def size (t : Table ρ) : Nat := t.entries.length

/-- The number of entries that wait for a reply. -/
def pending (t : Table ρ) : Nat := t.entries.countP (·.2.isPending)

/-- Drops the entries that are not kept any longer. -/
def purge (t : Table ρ) (now retention : Nat) : Table ρ :=
  ⟨t.entries.filter (·.2.isKept now retention)⟩

/-- Makes an entry for a key that has none. -/
def create (t : Table ρ) (now : Nat) (key : String) : Table ρ :=
  if t.entries.has key then t else ⟨t.entries.set key { created := now }⟩

/-- Puts a reply under a key, with or without an entry. -/
def put (t : Table ρ) (now : Nat) (key : String) (reply : ρ) : Table ρ :=
  let e := (t.get? key).getD { created := now }
  ⟨t.entries.set key { e with reply := some reply }⟩

/-- Purges and puts a reply under a key. -/
def store (t : Table ρ) (now retention : Nat) (key : String) (reply : ρ) : Table ρ :=
  (t.purge now retention).put now key reply

/-- Takes the reply under a key out of the table. -/
def claim (t : Table ρ) (key : String) : Option ρ × Table ρ :=
  match (t.get? key).bind (·.reply) with
  | some reply => (some reply, ⟨t.entries.remove key⟩)
  | none => (none, t)

/-- Removes a key that waits for a reply. -/
def discard (t : Table ρ) (key : String) : Table ρ :=
  if (t.get? key).any Entry.isPending then ⟨t.entries.remove key⟩ else t

/-- Notes that a wait for a reply ran out. -/
def expire (t : Table ρ) (now : Nat) (key : String) : Table ρ :=
  match t.get? key with
  | some e => if e.isPending then ⟨t.entries.set key { e with expired := some now }⟩ else t
  | none => t

/-- Removes all keys. -/
def clear (_ : Table ρ) : Table ρ := {}

end Table
end Scenario.Correlation
