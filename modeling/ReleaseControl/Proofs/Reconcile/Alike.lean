import ReleaseControl.Proofs.Reconcile.SideBySide

/-! # Alike but for uids, versions and times

Two stores are alike if their records are, apart from what a store assigns and what clocks tell.
What an attempt leaves in its slots is settled so far (`Leaves.alike`). -/

namespace ReleaseControl

/-! ## What is left out -/

/-- The condition without its time; that there is one stays. -/
def Condition.timeless (c : Condition) : Condition :=
  { c with lastTransition := c.lastTransition.map fun _ => "" }

/-- The status without its times. -/
def ReleaseStatus.timeless (s : ReleaseStatus) : ReleaseStatus :=
  { s with
    conditions := s.conditions.map Condition.timeless
    startTime := s.startTime.map fun _ => "" }

/-- The metadata without uid, version and time of creation. -/
def Metadata.unassigned (m : Metadata) : Metadata :=
  { m with uid := none, resourceVersion := none, createdAt := none }

/-- What is compared of a stored record. -/
structure Gist where
  kind : String
  metadata : Option Metadata
  spec : Option Json
  /-- The status of a Release. -/
  status : Option ReleaseStatus

def StoredRecord.gist (q : StoredRecord) : Gist where
  kind := q.kind
  metadata := q.object.recordMetadata.toOption.map Metadata.unassigned
  spec := q.object.get? "spec"
  status := (q.typed : Except StoreError Release).toOption.map fun r => r.status.timeless

/-- Under every key the stores hold the same, in gist. -/
def Store.Alike (s s' : Store) : Prop :=
  ∀ x, (Assoc.get? x s.slots).map StoredRecord.gist = (Assoc.get? x s'.slots).map StoredRecord.gist

/-! ## Times -/

theorem Condition.timeless_set (now now' : String) (c : Condition) (conditions : List Condition) :
    (set now c conditions).map timeless = (set now' c conditions).map timeless := by
  induction conditions with
  | nil => rfl
  | cons old rest ih =>
      unfold set
      by_cases htype : old.type = c.type
      · rw [if_pos htype, if_pos htype, List.map_cons, List.map_cons]
        by_cases hstatus : old.status = c.status
        · rw [if_pos hstatus, if_pos hstatus]
        · rw [if_neg hstatus, if_neg hstatus]
          rfl
      · rw [if_neg htype, if_neg htype, List.map_cons, List.map_cons, ih]

namespace ReleaseStatus

theorem timeless_setSucceeded (now now' : String) (status : ConditionStatus)
    (reason message : String) (generation : Int64) {s s' : ReleaseStatus}
    (hconditions : s.conditions = s'.conditions) (hrun : s.pipelineRun = s'.pipelineRun)
    (hstart : (s.startTime.map fun _ => "") = s'.startTime.map fun _ => "") :
    (s.setSucceeded now status reason message generation).timeless =
      (s'.setSucceeded now' status reason message generation).timeless := by
  simp only [timeless, setSucceeded, setCondition, hconditions, hrun, hstart,
    Condition.timeless_set now now']

end ReleaseStatus

namespace Reconcile

open Store

variable {s₀ s s' : Store} {k : RecordKey} {r : Release} {f : Finding}

theorem timeless_reported (now now' : String) (r : Release)
    (v : Except ReconcileError RecordKey) :
    (reported now r v).timeless = (reported now' r v).timeless := by
  cases v with
  | error e =>
      rw [reported, reported]
      by_cases hretry : e.isRetryable
      · rw [if_pos hretry, if_pos hretry]
        exact ReleaseStatus.timeless_setSucceeded now now' _ _ _ _ rfl rfl rfl
      · rw [if_neg hretry, if_neg hretry]
        exact ReleaseStatus.timeless_setSucceeded now now' _ _ _ _ rfl rfl rfl
  | ok run =>
      rw [reported, reported, ReleaseStatus.markTriggered, ReleaseStatus.markTriggered]
      by_cases hsettled : r.status.isSettledFor r.metadata.currentGeneration
      · rw [if_pos hsettled, if_pos hsettled]
      · rw [if_neg hsettled, if_neg hsettled]
        exact ReleaseStatus.timeless_setSucceeded now now' _ _ _ _ rfl rfl rfl

end Reconcile

/-! ## What is assigned -/

theorem Json.unassigned_recordMetadata {v v' : Json} (hv : v.isObject) (hv' : v'.isObject)
    {m m' : Metadata} (h : m.unassigned = m'.unassigned) :
    (v.set "metadata" m.toJson).recordMetadata.toOption.map Metadata.unassigned =
      (v'.set "metadata" m'.toJson).recordMetadata.toOption.map Metadata.unassigned := by
  have hspace : m.unassigned.workspace = m'.unassigned.workspace := congrArg _ h
  have hname : m.unassigned.name = m'.unassigned.name := congrArg _ h
  change m.workspace = m'.workspace at hspace
  change m.name = m'.name at hname
  simp only [recordMetadata, get?_set_self hv, get?_set_self hv', Metadata.decode_toJson, hspace,
    hname]
  split
  · rfl
  · split
    · rfl
    · exact congrArg some h

namespace StoredRecord

theorem gist_created_run (uid time version uid' time' version' : String) (run : PipelineRun) :
    (created uid time version PipelineRun.kind run.toJson run.metadata).gist =
      (created uid' time' version' PipelineRun.kind run.toJson run.metadata).gist := by
  have hobject : (run.toJson.remove "status").isObject := by
    rw [Json.isObject_remove]
    rfl
  -- a run is not read as a Release
  have hstatus (uid time version : String) :
      ((created uid time version PipelineRun.kind run.toJson run.metadata).typed :
        Except StoreError Release).toOption = none := by
    cases htyped : ((created uid time version PipelineRun.kind run.toJson run.metadata).typed :
        Except StoreError Release) with
    | error e => rfl
    | ok r =>
        obtain ⟨hkind, -⟩ := (typed_eq_ok (recordKind_created_run uid time version run)).mp htyped
        exact absurd hkind (by decide)
  have hmetadata := Json.unassigned_recordMetadata hobject hobject
    (show (createdMetadata uid time version run.metadata).unassigned =
      (createdMetadata uid' time' version' run.metadata).unassigned from rfl)
  have hspec (uid time version : String) :
      (created uid time version PipelineRun.kind run.toJson run.metadata).object.get? "spec" =
        (run.toJson.remove "status").get? "spec" := by
    unfold created
    rw [Json.get?_set_ne (by simp)]
  unfold gist
  rw [hspec, hspec, hstatus, hstatus]
  exact congrArg (fun metadata => (⟨_, metadata, _, _⟩ : Gist)) hmetadata

theorem gist_withStatus {x : String} {stored : StoredRecord} {r : Release}
    (h : stored.Accounted x Release.kind r.metadata) (hr : stored.typed = .ok r)
    (version version' : String) {status status' : ReleaseStatus}
    (hstatus : status.timeless = status'.timeless) :
    (stored.withStatus version r status).gist = (stored.withStatus version' r status').gist := by
  have hobject (status : ReleaseStatus) :
      (stored.object.set "status" status.toJson).isObject := by
    rw [Json.isObject_set]
    exact Json.isObject_of_recordMetadata h.objectMetadata
  have hmetadata := Json.unassigned_recordMetadata (hobject status) (hobject status')
    (show ({ r.metadata with resourceVersion := some version } : Metadata).unassigned =
      ({ r.metadata with resourceVersion := some version' } : Metadata).unassigned from rfl)
  have hspec (version : String) (status : ReleaseStatus) :
      (stored.withStatus version r status).object.get? "spec" = stored.object.get? "spec" := by
    rw [h.object_withStatus, Json.get?_set_ne (by simp), Json.get?_set_ne (by simp)]
  unfold gist
  rw [hspec, hspec, h.typed_withStatus hr, h.typed_withStatus hr, h.object_withStatus,
    h.object_withStatus, hmetadata]
  exact congrArg _ (congrArg some hstatus)

end StoredRecord

/-! ## What is left -/

namespace Reconcile

open Store

variable {s₀ s s' : Store} {k : RecordKey} {r : Release} {f : Finding}

theorem RunsLeft.alike (h : RunsLeft s₀ s r f) (h' : RunsLeft s₀ s' r f) (workspace : String) :
    (s.get? PipelineRun.kind ⟨workspace, PipelineRun.nameFor r⟩).map StoredRecord.gist =
      (s'.get? PipelineRun.kind ⟨workspace, PipelineRun.nameFor r⟩).map StoredRecord.gist := by
  cases h with
  | kept h =>
      cases h' with
      | kept h' => rw [h, h']
  | created uid time version h =>
      cases h' with
      | created uid' time' version' h' =>
          rw [h, h']
          split
          · exact congrArg some (StoredRecord.gist_created_run ..)
          · rfl

/-- Attempts that were to leave the same leave the same, in gist. -/
theorem Leaves.alike (hs : s₀.Sound) (hr : s₀.read? Release k = some r) (h : Leaves f s₀ s k r)
    (h' : Leaves f s₀ s' k r) {x : String} (hx : Owns k r x) :
    (Assoc.get? x s.slots).map StoredRecord.gist =
      (Assoc.get? x s'.slots).map StoredRecord.gist := by
  cases h with
  | untouched hfinished h =>
      cases h' with
      | untouched _ h' => rw [h x hx, h' x hx]
      | reported _ _ hopen => cases hfinished.symm.trans hopen
  | @reported stored now version hopen hstored hwritten hruns =>
      cases h' with
      | untouched hfinished => cases hfinished.symm.trans hopen
      | reported now' version' _ hstored' hwritten' hruns' =>
          cases hstored.symm.trans hstored'
          rcases hx with rfl | ⟨workspace, rfl⟩
          · obtain ⟨_, hget, htyped⟩ := read?_eq_some.mp hr
            cases hstored.symm.trans hget
            have hacc := hs.accounted_release hstored htyped
            have hgist := StoredRecord.gist_withStatus hacc htyped version version'
              (timeless_reported now now' r (f.verdict r))
            show (s.get? Release.kind k).map _ = (s'.get? Release.kind k).map _
            rw [hwritten, hwritten']
            exact congrArg some hgist
          · exact hruns.alike hruns' workspace

end Reconcile

end ReleaseControl
