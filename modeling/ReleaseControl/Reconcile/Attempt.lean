import ReleaseControl.Reconcile.Trigger

/-! # One attempt to reconcile a Release

An attempt reads the Release, follows its chain, starts its run and writes the run's key to the
status. A Release that is finished is left alone. A run that an earlier attempt left behind is
adopted; a foreign one at the same key is a conflict. Failures go to the status: a settled one
ends the attempt, a transient one is recorded where possible and returned for a retry. -/

namespace ReleaseControl.Reconcile

/-- Ends an attempt that failed: `err` is written to the status of the Release. -/
def fail (now : String) (r : Release) (err : ReconcileError) :
    Program (Except ReconcileError Unit) := do
  let generation := r.metadata.currentGeneration
  if err.isRetryable then
    let _ ← Program.updateRecordStatus
      { r with status := r.status.setRetrying now err.message generation }
    return .error err
  else
    match ← Program.updateRecordStatus
      { r with status := r.status.setError now err.message generation } with
    | .error e => return .error (.store e)
    | .ok _ => return .ok ()

/-- Ends an attempt whose run is there: the status is written, unless it is settled. -/
def finish (now : String) (r : Release) (run : RecordKey) :
    Program (Except ReconcileError Unit) := do
  match r.status.markTriggered now run r.metadata.currentGeneration with
  | (false, _) => return .ok ()
  | (true, status) =>
    match ← Program.updateRecordStatus { r with status } with
    | .error e => return .error (.store e)
    | .ok _ => return .ok ()

/-- Starts the run of a Release, or adopts the one that is there. -/
def startOrAdopt (chain : Chain) (r : Release) : Program (Except ReconcileError RecordKey) := do
  let workspace := chain.link.spec.target
  match ← Trigger.start chain.strategy workspace r with
  | .error (.createConflict kind conflict) =>
    let key : RecordKey := ⟨workspace, PipelineRun.nameFor r⟩
    match ← Trigger.findOwned key r with
    | .ok (some _) => return .ok key
    | .ok none => return .error (.createConflict kind conflict)
    | .error e => return .error e
  | started => return started

/-- Drives the Release at a key one step towards its end. -/
def attempt (policy : AmbiguityPolicy) (now : String) (key : RecordKey) :
    Program (Except ReconcileError Unit) := do
  match ← Program.getRecord Release key with
  | .error e => return .error (.store e)
  | .ok none => return .ok ()
  | .ok (some r) =>
    if r.isFinished then return .ok ()
    match ← (Chain.resolve policy r).run with
    | .error e => fail now r e
    | .ok chain =>
      match ← startOrAdopt chain r with
      | .error e => fail now r e
      | .ok run => finish now r run

end ReleaseControl.Reconcile
