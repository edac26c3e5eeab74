import ReleaseControl.Assoc
import ReleaseControl.Watch.Event

/-! # The watch channel

Everyone who subscribes to the channel receives every event sent from then on, in order. The
channel keeps only its last events, `capacity` of them; a receiver that falls further behind is
told once how many events it lost and goes on with the oldest one kept. An event sent while nobody
listens is dropped. -/

namespace ReleaseControl

structure Channel where
  /-- How many events are kept: a power of two. -/
  capacity : Nat
  /-- The last events, oldest first. -/
  kept : List WatchEvent
  /-- How many events were sent to somebody. -/
  sent : Nat
  /-- Receivers and how many events each has passed. -/
  receivers : List (String × Nat)
  isOpen : Bool

/-- What a receiver gets. -/
inductive Received where
  | event (e : WatchEvent)
  | lagged (lost : Nat)
  | empty
  | closed
  deriving DecidableEq, Repr

namespace Channel

/-- Capacity where none is given. -/
def defaultCapacity : Nat := 1024

/-- The most events that memory can have places for. -/
def maxCapacity : Nat := Nat.pow 2 55

/-- A channel that keeps at least `capacity` events; there is none for capacity 0, nor for one
beyond all memory. -/
def new? (capacity : Nat) : Option Channel :=
  if capacity = 0 ∨ maxCapacity < capacity then none
  else some ⟨capacity.nextPowerOfTwo, [], 0, [], true⟩

def subscriberCount (c : Channel) : Nat := c.receivers.length

def hasSubscribers (c : Channel) : Bool := !c.receivers.isEmpty

/-- Adds a receiver for the events sent from now on, in place of an older one of that name. -/
def subscribe (id : String) (c : Channel) : Channel :=
  { c with receivers := Assoc.put id c.sent c.receivers }

def unsubscribe (id : String) (c : Channel) : Channel :=
  { c with receivers := Assoc.remove id c.receivers }

/-- No more events will be sent. -/
def close (c : Channel) : Channel := { c with isOpen := false }

/-- Sends an event and tells how many receivers there are. -/
def send (e : WatchEvent) (c : Channel) : Nat × Channel :=
  if c.hasSubscribers then
    let all := c.kept ++ [e]
    (c.subscriberCount, { c with kept := all.drop (all.length - c.capacity), sent := c.sent + 1 })
  else (0, c)

/-- Number of the oldest event kept. -/
def oldest (c : Channel) : Nat := c.sent - c.kept.length

/-- What stands next for a receiver that passed `position` events, and its position after it. -/
def next (c : Channel) (position : Nat) : Received × Nat :=
  if position < c.oldest then (.lagged (c.oldest - position), c.oldest)
  else
    match c.kept[position - c.oldest]? with
    | some e => (.event e, position + 1)
    | none => (if c.isOpen then .empty else .closed, position)

/-- Receives for one receiver; a name that never subscribed has none. -/
def receive? (id : String) (c : Channel) : Option (Received × Channel) :=
  (Assoc.get? id c.receivers).map fun position =>
    let (r, position) := c.next position
    (r, { c with receivers := Assoc.put id position c.receivers })

/-- Receives `n` times at most, until nothing is left. -/
def drainUpTo (id : String) : Nat → Channel → List Received × Channel
  | 0, c => ([], c)
  | n + 1, c =>
    match c.receive? id with
    | none => ([], c)
    | some (.empty, c) => ([.empty], c)
    | some (.closed, c) => ([.closed], c)
    | some (r, c) =>
      let (rs, c) := drainUpTo id n c
      (r :: rs, c)

/-- Receives everything that is there, up to and including `empty` or `closed`. -/
def drain (id : String) (c : Channel) : List Received × Channel :=
  drainUpTo id (c.kept.length + 2) c

def description (c : Channel) : String :=
  s!"EventBroadcaster \x7b subscriber_count: {c.subscriberCount} \x7d"

end Channel

end ReleaseControl
