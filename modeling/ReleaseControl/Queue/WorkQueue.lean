import ReleaseControl.Assoc
import ReleaseControl.Queue.Backoff
import ReleaseControl.Record.Key

/-! # The work queue

Keys wait in the order they came and are handed to one worker at a time. A key that waits is not
queued again; a key that is added while a worker has it is queued once the worker is done. Beside
its keys the queue counts failures per key, from which the wait before a retry follows.

Operations are taken as atomic: callers that run side by side are seen as making theirs one after
the other. -/

namespace ReleaseControl

/-- What the queue knows of a key. -/
inductive KeyState where
  | queued
  | inFlight
  /-- A worker has the key, and it was added again meanwhile. -/
  | dirty
  deriving DecidableEq, Repr

structure WorkQueue where
  backoff : Backoff
  states : List (RecordKey × KeyState)
  /-- Keys to hand out, in order. -/
  ready : List RecordKey
  failures : List (RecordKey × Nat)
  isClosed : Bool

namespace WorkQueue

def new (backoff : Backoff) : WorkQueue := ⟨backoff, [], [], [], false⟩

def state? (q : WorkQueue) (k : RecordKey) : Option KeyState := Assoc.get? k q.states

/-- Queues a key unless it waits already; a closed queue takes none. -/
def add (k : RecordKey) (q : WorkQueue) : WorkQueue :=
  if q.isClosed then q
  else
    match q.state? k with
    | none => { q with states := Assoc.put k .queued q.states, ready := q.ready ++ [k] }
    | some .inFlight => { q with states := Assoc.put k .dirty q.states }
    | some _ => q

/-- What a worker that asks for a key gets. -/
inductive Next where
  | key (k : RecordKey)
  | pending
  | closed
  deriving DecidableEq, Repr

/-- Hands out the first key that waits. Taking it out of the line and noting that a worker has it is
one step here. A running queue does one after the other, with no lock around both; a key that is
added in between still counts as waiting. -/
def next (q : WorkQueue) : Next × WorkQueue :=
  if q.isClosed then (.closed, q)
  else
    match q.ready with
    | [] => (.pending, q)
    | k :: rest => (.key k, { q with states := Assoc.put k .inFlight q.states, ready := rest })

/-- Takes a key back from its worker; one that was added meanwhile waits again. That too is one step
here. A running queue notes first that the key waits and puts it in line then, with no lock around
both. -/
def done (k : RecordKey) (q : WorkQueue) : WorkQueue :=
  match q.state? k with
  | some .dirty =>
    { q with
      states := Assoc.put k .queued q.states
      ready := if q.isClosed then q.ready else q.ready ++ [k] }
  | some .inFlight => { q with states := Assoc.remove k q.states }
  | _ => q

/-! ## Failures -/

/-- Failures counted since the key was forgotten last. -/
def failureCount (q : WorkQueue) (k : RecordKey) : Nat := (Assoc.get? k q.failures).getD 0

/-- Counts a failure and returns the wait before the retry. -/
def countFailure (k : RecordKey) (q : WorkQueue) : Nat × WorkQueue :=
  let n := q.failureCount k
  (q.backoff.delay n, { q with failures := Assoc.put k (min (n + 1) Backoff.maxFactor) q.failures })

def forget (k : RecordKey) (q : WorkQueue) : WorkQueue :=
  { q with failures := Assoc.remove k q.failures }

/-! ## State -/

/-- No key is handed out or taken any more. -/
def close (q : WorkQueue) : WorkQueue := { q with isClosed := true }

/-- How many keys wait. -/
def length (q : WorkQueue) : Nat := (q.states.filter fun e => e.2 == .queued).length

def isEmpty (q : WorkQueue) : Bool := q.length == 0

/-- Whether no key waits and no worker has one. -/
def isIdle (q : WorkQueue) : Bool := q.states.isEmpty

def description (q : WorkQueue) : String :=
  s!"WorkQueue \x7b tracked: {q.states.length}, backoff: {q.backoff.description}, .. \x7d"

end WorkQueue

end ReleaseControl
