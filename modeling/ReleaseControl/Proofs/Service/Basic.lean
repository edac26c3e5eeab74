import ReleaseControl.Deployment.Basic
import ReleaseControl.Proofs.Channel
import ReleaseControl.Proofs.Queue
import ReleaseControl.Proofs.Store.Update
import ReleaseControl.Proofs.Reconcile.Aftermath

/-! # The service, call by call

A deployment makes its attempts one after the other. Here any number of attempts are under way at
once, and between two calls of one of them everything else may happen: clients write, timers go
off, the loop handles an event, another attempt makes a call. A move is one such thing; moves that
do not apply change nothing. What a move does is put together from the functions that a deployment
runs: the store, the channel, the timed queue and the loop and workers around them.

An attempt is kept from the moment a worker takes the key until the worker gives it back. In between
it may crash at any call, and it may have come to its end without the key being given back yet. -/

namespace ReleaseControl

open Program

/-- How far an attempt has come: what it still has to do, or that it crashed. -/
inductive Progress where
  | going (rest : Program (Except ReconcileError Unit))
  | crashed

/-- How the attempt ended, if it did. -/
def Progress.outcome? : Progress → Option (Outcome (Except ReconcileError Unit))
  | going (.done result) => some (.returned result)
  | going (.call ..) => none
  | crashed => some .crashed

structure Service where
  policy : AmbiguityPolicy
  store : Store
  channel : Channel
  work : TimedQueue
  /-- The attempts under way, each on its key. -/
  attempts : List (RecordKey × Progress)

namespace Service

/-- One thing that happens. -/
inductive Move where
  /-- A client makes a call; a creation would use the uid. -/
  | client (uid now : String) (c : StoreCall)
  /-- A millisecond passes. -/
  | tick
  /-- The loop receives; if it lost events it lists the Releases. -/
  | receive (fate : Fate)
  /-- The Releases are listed and queued, as is done before the loop starts. -/
  | resync
  /-- A worker takes a key. -/
  | take (now : String)
  /-- The attempt on the key makes its next call. -/
  | call (k : RecordKey) (uid now : String) (fate : Fate)
  /-- The attempt on the key crashes. -/
  | panic (k : RecordKey)
  /-- The worker gives the key back. -/
  | conclude (k : RecordKey)

/-- Queues all stored Releases, if they can be listed. -/
def relist (fate : Fate) (v : Service) : Service :=
  match (Worker.storedReleases.run (scripted "" "") ([fate], v.store)).1 with
  | .returned (.ok keys) => { v with work := v.work.modify (Worker.addAll keys) }
  | _ => v

/-- What the loop does with what it received. -/
def handle (fate : Fate) (r : Received) (v : Service) : Service :=
  match r with
  | .event e => { v with work := v.work.modify fun q => (Worker.enqueue e q).2 }
  | .lagged _ => v.relist fate
  | .empty | .closed => v

variable {errors : StoreError → Prop}

/-- The answer to a call of an attempt. -/
def answer (uid now : String) (c : StoreCall) (fate : FateOf errors) (s : Store) :
    Except StoreError c.Reply :=
  match fate with
  | .answered => (s.perform uid now c).1
  | .failed e | .lost e => .error e.1

/-- The store after a call of an attempt. -/
def called (uid now : String) (c : StoreCall) (fate : FateOf errors) (s : Store) : Store :=
  if fate.isMade then (s.perform uid now c).2 else s

/-- The attempt on a key makes a call and goes on with the answer. The store tells of a write that
it answered. -/
def makeCall (k : RecordKey) (uid now : String) (fate : Fate) (c : StoreCall)
    (next : Except StoreError c.Reply → Program (Except ReconcileError Unit)) (v : Service) :
    Service :=
  let reply := answer uid now c fate v.store
  { v with
    store := called uid now c fate v.store
    channel := v.channel.publish c reply
    attempts := Assoc.put k (.going (next reply)) v.attempts }

def step (v : Service) : Move → Service
  | .client uid now c =>
    let (reply, store) := v.store.perform uid now c
    { v with store, channel := v.channel.publish c reply }
  | .tick => { v with work := v.work.tick }
  | .receive fate =>
    match v.channel.receive? Deployment.controllerReceiver with
    | some (r, channel) => { v with channel }.handle fate r
    | none => v
  | .resync => v.relist .answered
  | .take now =>
    match v.work.queue.next with
    | (.key k, queue) => { v with
        work := { v.work with queue }
        attempts := Assoc.put k (.going (Reconcile.attempt v.policy now k)) v.attempts }
    | _ => v
  | .call k uid now fate =>
    match Assoc.get? k v.attempts with
    | some (.going (.call c next)) => v.makeCall k uid now fate c next
    | _ => v
  | .panic k =>
    match Assoc.get? k v.attempts with
    | some (.going (.call ..)) => { v with attempts := Assoc.put k .crashed v.attempts }
    | _ => v
  | .conclude k =>
    match (Assoc.get? k v.attempts).bind Progress.outcome? with
    | some o => { v with
        work := Worker.conclude k o v.work
        attempts := Assoc.remove k v.attempts }
    | none => v

def run (v : Service) (moves : List Move) : Service := moves.foldl step v

theorem run_append (v : Service) (moves moves' : List Move) :
    v.run (moves ++ moves') = (v.run moves).run moves' := List.foldl_append

/-- A service with an empty store, its loop subscribed to the channel. -/
def launch (policy : AmbiguityPolicy) (backoff : Backoff) (channel : Channel) : Service where
  policy := policy
  store := .empty Chain.indexes
  channel := channel.subscribe Deployment.controllerReceiver
  work := .new backoff
  attempts := []

/-- Clients read, create, update and delete records of any kind and write no status. -/
def Move.Allowed : Move → Prop
  | .client _ _ c => c.Ordered ∧ c.method ≠ .updateStatus
  | _ => True

end Service

end ReleaseControl
