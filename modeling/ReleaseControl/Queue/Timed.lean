import ReleaseControl.Queue.WorkQueue

/-! # Delayed adds

A work queue with a clock in milliseconds. `addAfter` sets a timer; when the clock reaches its
deadline the key is added. Timers with one deadline go off in the order they were set. -/

namespace ReleaseControl

structure TimedQueue where
  queue : WorkQueue
  clock : Nat
  /-- Deadlines and keys, in the order the timers were set. -/
  timers : List (Nat × RecordKey)

namespace TimedQueue

def new (backoff : Backoff) : TimedQueue := ⟨.new backoff, 0, []⟩

/-- Applies a function to the queue. -/
def modify (f : WorkQueue → WorkQueue) (t : TimedQueue) : TimedQueue :=
  { t with queue := f t.queue }

/-- Adds a key after a delay, without one at once. -/
def addAfter (k : RecordKey) (delay : Nat) (t : TimedQueue) : TimedQueue :=
  if delay = 0 then t.modify (·.add k)
  else { t with timers := t.timers ++ [(t.clock + delay, k)] }

/-- Adds a key after the wait for its failures, one more from now on; returns the wait. -/
def addRateLimited (k : RecordKey) (t : TimedQueue) : Nat × TimedQueue :=
  let (delay, queue) := t.queue.countFailure k
  (delay, { t with queue }.addAfter k delay)

/-- Moves the clock on by one millisecond and adds the keys that are due. -/
def tick (t : TimedQueue) : TimedQueue :=
  let now := t.clock + 1
  let due := t.timers.filter fun e => e.1 ≤ now
  { queue := due.foldl (fun q e => q.add e.2) t.queue
    clock := now
    timers := t.timers.filter fun e => !(e.1 ≤ now) }

/-! ## Waiting workers -/

/-- A worker that waits for a key. -/
inductive Waiter where
  | waiting
  | served (k : RecordKey)
  | dismissed
  deriving DecidableEq, Repr

/-- Hands the keys that are ready to the workers that wait, first come first served; a closed
queue dismisses them. -/
def serve (q : WorkQueue) : List Waiter → List Waiter × WorkQueue
  | [] => ([], q)
  | .waiting :: rest =>
    let (w, q) := match q.next with
      | (.key k, q) => (.served k, q)
      | (.pending, q) => (.waiting, q)
      | (.closed, q) => (.dismissed, q)
    let (ws, q) := serve q rest
    (w :: ws, q)
  | w :: rest =>
    let (ws, q) := serve q rest
    (w :: ws, q)

end TimedQueue

end ReleaseControl
