import ReleaseControl.Reconcile.Chain
import ReleaseControl.Record.PipelineRun

/-! # Starting runs

`Trigger.start` creates the run of a Release, once: its name is fixed, so a second creation meets
the first one's record. `Trigger.findOwned` tells whether a stored run was made for a Release. -/

namespace ReleaseControl.Trigger

/-- Creates the run of a Release and returns its key. -/
def start (strategy : ReleaseStrategy) (workspace : String) (r : Release) :
    Program (Except ReconcileError RecordKey) := do
  let run := PipelineRun.forRelease strategy workspace r
  match ← Program.createRecord run with
  | .ok _ => return .ok run.key
  | .error (.alreadyExists ..) => return .error (.createConflict PipelineRun.kind run.key.text)
  | .error e => return .error (.store e)

/-- Whether a run carries the uid. -/
def isOwnedBy (uid : String) (run : PipelineRun) : Bool :=
  run.metadata.labels.get? PipelineRun.uidLabel == some uid

/-- The run at a key, if it was made for the Release. -/
def findOwned (key : RecordKey) (r : Release) :
    Program (Except ReconcileError (Option PipelineRun)) := do
  match r.metadata.uid with
  | none => return .ok none
  | some uid =>
    match ← Program.getRecord PipelineRun key with
    | .error e => return .error (.store e)
    | .ok found => return .ok (found.filter (isOwnedBy uid))

end ReleaseControl.Trigger
