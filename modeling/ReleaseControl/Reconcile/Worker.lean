import ReleaseControl.Queue.Timed
import ReleaseControl.Reconcile.Attempt
import ReleaseControl.Watch.Event

/-! # Workers

What moves keys through the queue: accepted events and resyncs add them, a worker takes one,
makes an attempt and gives it back. After an attempt that failed for now, or crashed, the key
comes back later; otherwise its failures are forgotten. -/

namespace ReleaseControl.Worker

/-- Queues the record of an event if the event is accepted, and tells whether it was. -/
def enqueue (e : WatchEvent) (q : WorkQueue) : Bool × WorkQueue :=
  if e.isAccepted then (true, q.add e.key) else (false, q)

/-- The keys of all stored Releases. -/
def storedReleases : Program (Except StoreError (List RecordKey)) := do
  return (← Program.ask (.list Release.kind .all)).map fun rs =>
    rs.map fun (r : StoredRecord) => r.key

/-- Queues keys in order. -/
def addAll (keys : List RecordKey) (q : WorkQueue) : WorkQueue :=
  keys.foldl (fun q k => q.add k) q

/-- Gives a key back after an attempt. -/
def conclude (k : RecordKey) (outcome : Program.Outcome (Except ReconcileError Unit))
    (t : TimedQueue) : TimedQueue :=
  let t := t.modify (·.done k)
  match outcome with
  | .returned (.ok ()) => t.modify (·.forget k)
  | .returned (.error e) =>
    if e.isRetryable then (t.addRateLimited k).2 else t.modify (·.forget k)
  | .crashed => (t.addRateLimited k).2

end ReleaseControl.Worker
