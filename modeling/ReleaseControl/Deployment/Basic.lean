import ReleaseControl.Deployment.Fault
import ReleaseControl.Reconcile.Worker
import ReleaseControl.Watch.Log

/-! # A deployment

A store that may fail, the channel its writes are published on, and at most one controller that
listens to the channel and works on the store. Time is the controller's clock and moves only when
it is told to. After every change the controller runs until nothing is left to do at that time:
its loop handles the events that are there, in order, then the workers take the keys that wait,
one attempt after the other. -/

namespace ReleaseControl

/-- What a controller is doing. -/
inductive Phase where
  /-- It has not been started. -/
  | assembled
  | running
  /-- Its loop crashed; the workers go on. -/
  | headless
  | stopped
  deriving DecidableEq, Repr

structure Controller where
  work : TimedQueue
  workers : Nat
  phase : Phase

structure Deployment where
  backend : FaultyStore
  channel : Channel
  policy : AmbiguityPolicy
  controller : Option Controller

namespace Deployment

/-- Answers calls through the plans and publishes what was written. -/
def answer : Program.Handler Deployment := fun c d =>
  let (outcome, backend, channel) := Program.Handler.published FaultyStore.answer c
    (d.backend, d.channel)
  (outcome, { d with backend, channel })

/-- Runs a program on the store. -/
def run {α : Type} (p : Program α) (d : Deployment) : Program.Outcome α × Deployment :=
  p.run answer d

/-- Makes one attempt on a key under a policy. -/
def reconcile (policy : AmbiguityPolicy) (key : RecordKey) (d : Deployment) :
    Program.Outcome (Except ReconcileError Unit) × Deployment :=
  d.run (Reconcile.attempt policy d.backend.now key)

/-- The name the controller's receiver has on the channel. -/
def controllerReceiver : String := "controller"

/-- The name of the receiver that watches from outside. -/
def watcherReceiver : String := "watcher"

/-! ## Building a controller -/

/-- The deployment with a controller, assembled if there is none yet. -/
def withController (backoff : Backoff) (workers : Nat) (d : Deployment) : Deployment :=
  match d.controller with
  | some _ => d
  | none =>
    { d with controller := some ⟨.new backoff, max workers 1, .assembled⟩ }

def modifyController (f : Controller → Controller) (d : Deployment) : Deployment :=
  { d with controller := d.controller.map f }

def modifyWork (f : TimedQueue → TimedQueue) : Deployment → Deployment :=
  modifyController fun c => { c with work := f c.work }

/-- Queues all stored Releases and tells how many there are. -/
def resync (d : Deployment) : Program.Outcome (Except StoreError Nat) × Deployment :=
  match d.run Worker.storedReleases with
  | (.returned (.ok keys), d) =>
    (.returned (.ok keys.length), d.modifyWork fun t => t.modify (Worker.addAll keys))
  | (.returned (.error e), d) => (.returned (.error e), d)
  | (.crashed, d) => (.crashed, d)

/-! ## The loop -/

/-- Ends the loop: no more keys are handed out, and its receiver goes. -/
def stop (d : Deployment) : Deployment :=
  let d := d.modifyController fun c =>
    { c with phase := .stopped, work := c.work.modify WorkQueue.close }
  { d with channel := d.channel.unsubscribe controllerReceiver }

/-- The loop crashed; its receiver goes, the workers stay. -/
def behead (d : Deployment) : Deployment :=
  let d := d.modifyController fun c => { c with phase := .headless }
  { d with channel := d.channel.unsubscribe controllerReceiver }

/-- What the loop does with what it received. -/
def handle : Received → Deployment → Deployment
  | .event e, d => d.modifyWork fun t => t.modify fun q => (Worker.enqueue e q).2
  | .lagged _, d =>
    match d.resync with
    | (.returned _, d) => d
    | (.crashed, d) => d.behead
  | .empty, d => d
  | .closed, d => d.stop

/-- What the controller is doing, if there is one. -/
def phase? (d : Deployment) : Option Phase := d.controller.map Controller.phase

/-- Handles up to `n` events, as long as the loop runs and there are any. -/
def handleEvents : Nat → Deployment → Deployment
  | 0, d => d
  | n + 1, d =>
    match d.phase?, d.channel.receive? controllerReceiver with
    | some .running, some (.empty, _) => d
    | some .running, some (r, channel) => handleEvents n (handle r { d with channel })
    | _, _ => d

/-! ## The workers -/

/-- The key the next free worker takes, if the workers run. -/
def takeKey (d : Deployment) : Option (RecordKey × Deployment) :=
  match d.controller with
  | none => none
  | some c =>
    if c.phase = .running ∨ c.phase = .headless then
      match c.work.queue.next with
      | (.key k, q) =>
        some (k, { d with controller := some { c with work := { c.work with queue := q } } })
      | _ => none
    else none

/-- Makes attempts on up to `n` keys, as long as any wait. -/
def workKeys : Nat → Deployment → Deployment
  | 0, d => d
  | n + 1, d =>
    match d.takeKey with
    | none => d
    | some (k, d) =>
      let (outcome, d) := d.reconcile d.policy k
      workKeys n (d.modifyWork (Worker.conclude k outcome))

/-- Whether the loop has an event to handle. -/
def hasEvent (d : Deployment) : Bool :=
  match d.phase?, d.channel.receive? controllerReceiver with
  | some .running, some (r, _) => r != .empty
  | _, _ => false

/-- Lets loop and workers take turns, up to `n` times. -/
def takeTurns : Nat → Deployment → Deployment
  | 0, d => d
  | n + 1, d =>
    if d.hasEvent || d.takeKey.isSome then
      takeTurns n (workKeys (n + 1) (handleEvents (n + 1) d))
    else d

/-- How often a planned failure can still take effect. -/
def plannedFaults (d : Deployment) : Nat := d.backend.faults.foldl (fun n f => n + f.times) 0

/-- A bound on the turns needed: an attempt is repeated at once only after a planned failure, and
each round of attempts is caused by events, of which an attempt makes at most two. -/
def turnBound (d : Deployment) : Nat :=
  let keys := d.backend.store.slots.length + d.channel.kept.length
    + (d.controller.elim 0 fun c => c.work.queue.ready.length + c.work.timers.length)
  (keys + 4) * (d.plannedFaults + 2) * 4

/-- Runs the controller until nothing is left to do. -/
def settle (d : Deployment) : Deployment := d.takeTurns d.turnBound

/-! ## Driving it -/

/-- Starts the controller on its receiver, subscribed now unless it was before. -/
def start (d : Deployment) : Deployment :=
  let d := d.modifyController fun c => { c with phase := .running }
  if Assoc.contains controllerReceiver d.channel.receivers then d
  else { d with channel := d.channel.subscribe controllerReceiver }

/-- Moves the clock on by a millisecond and adds the keys that are due. -/
def tick : Deployment → Deployment := modifyWork TimedQueue.tick

/-- Moves the clock on, one millisecond at a time; the controller runs at each. -/
def advance : Nat → Deployment → Deployment
  | 0, d => d
  | n + 1, d => advance n d.tick.settle

/-! ## Descriptions -/

def storeDescription (d : Deployment) : String :=
  s!"EventedStore \x7b backend: \"memory\", subscriber_count: {d.channel.subscriberCount} \x7d"

def reconcilerDescription (d : Deployment) : String :=
  s!"Reconciler \x7b backend: \"memory\", policy: {d.policy.label}, .. \x7d"

def controllerDescription (d : Deployment) (c : Controller) : String :=
  s!"Controller \x7b reconciler: {d.reconcilerDescription}, "
    ++ s!"queue: {c.work.queue.description}, workers: {c.workers} \x7d"

end Deployment

end ReleaseControl
