import ReleaseControl.Proofs.Record.Status
import ReleaseControl.Proofs.Reconcile.Aftermath

/-! # The runs of a Release

A run belongs to the Release whose uid its label carries, in whatever workspace it is stored
(`runsOf`). An attempt adds a run by its one creation and removes none; writing a status leaves
the runs as they are. -/

namespace ReleaseControl

open Store

/-- Whether the record is a run that carries the uid. -/
def StoredRecord.carries (u : String) (q : StoredRecord) : Bool :=
  match q.object.recordKind, q.object.recordMetadata with
  | .ok kind, .ok m =>
    kind == PipelineRun.kind && m.labels.get? PipelineRun.uidLabel == some u
  | _, _ => false

/-- The stored runs that carry the uid, in all workspaces. -/
def Store.runsOf (u : String) (s : Store) : List StoredRecord :=
  (s.slots.map (·.2)).filter fun q => q.carries u

theorem StoredRecord.Accounted.carries_iff {x kind u : String} {q : StoredRecord} {m : Metadata}
    (h : q.Accounted x kind m) :
    q.carries u ↔ kind = PipelineRun.kind ∧ m.labels.get? PipelineRun.uidLabel = some u := by
  simp [StoredRecord.carries, h.objectKind, h.objectMetadata]

namespace Store

/-- The slot holds a run that carries the uid. -/
structure Carried (s : Store) (u x : String) (q : StoredRecord) : Prop where
  stored : Assoc.get? x s.slots = some q
  carries : q.carries u

variable {s s' : Store} {u x : String} {q : StoredRecord}

theorem length_runsOf_le_one_iff (hs : s.Sound) :
    (s.runsOf u).length ≤ 1 ↔
      ∀ x y q p, s.Carried u x q → s.Carried u y p → x = y := by
  unfold runsOf
  rw [Assoc.length_filter_le_one_iff hs.nodup]
  constructor
  · intro h x y q p hq hp
    exact h x y q p hq.stored hq.carries hp.stored hp.carries
  · intro h x y q p hq hqc hp hpc
    exact h x y q p ⟨hq, hqc⟩ ⟨hp, hpc⟩

theorem Carried.mem_runsOf (h : s.Carried u x q) : q ∈ s.runsOf u :=
  List.mem_filter.mpr
    ⟨List.mem_map.mpr ⟨_, Assoc.mem_of_get? h.stored, rfl⟩, h.carries⟩

theorem runsOf_eq_nil_iff (hs : s.Sound) : s.runsOf u = [] ↔ ∀ x q, ¬ s.Carried u x q := by
  constructor
  · intro hnil x q hq
    have hmem := hq.mem_runsOf
    rw [hnil] at hmem
    cases hmem
  · intro hnone
    apply List.eq_nil_iff_forall_not_mem.mpr
    intro q hq
    obtain ⟨hstored, hcarries⟩ := List.mem_filter.mp hq
    obtain ⟨⟨x, q⟩, hmem, rfl⟩ := List.mem_map.mp hstored
    exact hnone x q ⟨Assoc.get?_of_mem hs.nodup hmem, hcarries⟩

/-- A run sits in the slot of a run. -/
theorem Carried.exists_key (h : s.Carried u x q) (hs : s.Sound) :
    ∃ m, q.Accounted x PipelineRun.kind m ∧ m.labels.get? PipelineRun.uidLabel = some u ∧
      s.get? PipelineRun.kind m.key = some q := by
  obtain ⟨kind, m, hacc⟩ := hs.accounted h.stored
  obtain ⟨rfl, hlabel⟩ := hacc.carries_iff.mp h.carries
  exact ⟨m, hacc, hlabel, by rw [get?, ← hacc.slot]; exact h.stored⟩

/-- Stores that look alike to a reader of runs hold the same runs. -/
theorem Carried.of_agrees (h : s'.Carried u x q) (hs' : s'.Sound)
    (hagrees : Agrees PipelineRun.kind s s') : s.Carried u x q := by
  obtain ⟨m, hacc, -, hget⟩ := h.exists_key hs'
  refine ⟨?_, h.carries⟩
  rw [hacc.slot]
  exact (hagrees.get? m.key).symm.trans hget

theorem Carried.to_agrees (h : s.Carried u x q) (hs : s.Sound)
    (hagrees : Agrees PipelineRun.kind s s') : s'.Carried u x q := by
  obtain ⟨m, hacc, -, hget⟩ := h.exists_key hs
  refine ⟨?_, h.carries⟩
  rw [hacc.slot]
  exact (hagrees.get? m.key).trans hget

end Store

/-! ## Creating one -/

namespace Store

variable {s : Store} {uid now u x : String} {chain : Chain} {r : Release} {q : StoredRecord}

/-- The record of a run that an attempt creates. -/
def runRecord (uid now : String) (chain : Chain) (r : Release) (s : Store) : StoredRecord :=
  .created uid now (toString s.nextVersion) PipelineRun.kind (Reconcile.runFor chain r).toJson
    (Reconcile.runFor chain r).metadata

/-- The slot of a run that an attempt creates. -/
def runSlot (chain : Chain) (r : Release) : String :=
  slot PipelineRun.kind (Reconcile.runKey chain r)

theorem get?_withRun (uid now : String) (chain : Chain) (r : Release) (s : Store) (x : String) :
    Assoc.get? x (s.withRun uid now chain r).slots =
      if x = runSlot chain r then some (s.runRecord uid now chain r)
      else Assoc.get? x s.slots := by
  unfold withRun
  rw [slots_accept, Assoc.get?_put]
  rfl

theorem accounted_runRecord (uid now : String) (htarget : chain.link.spec.target ≠ "")
    (hfree : s.get? PipelineRun.kind (Reconcile.runKey chain r) = none) :
    (s.runRecord uid now chain r).Accounted (runSlot chain r) PipelineRun.kind
      (StoredRecord.createdMetadata uid now (toString s.nextVersion)
        (Reconcile.runFor chain r).metadata) := by
  have hnew : s.checkNew PipelineRun.kind (Reconcile.runFor chain r).toJson =
      .ok (Reconcile.runFor chain r).metadata := checkNew_run.mpr ⟨rfl, htarget, hfree⟩
  have hslot : runSlot chain r = slot PipelineRun.kind (Reconcile.runFor chain r).metadata.key :=
    rfl
  rw [hslot]
  exact accounted_created hnew

/-- The run carries the uid of its Release. -/
theorem carries_runRecord (htarget : chain.link.spec.target ≠ "")
    (hfree : s.get? PipelineRun.kind (Reconcile.runKey chain r) = none)
    (hu : r.metadata.uid = some u) : (s.runRecord uid now chain r).carries u := by
  rw [(accounted_runRecord uid now htarget hfree).carries_iff]
  exact ⟨rfl, PipelineRun.get?_labelsFor_uid hu⟩

theorem carried_withRun (uid now : String) (htarget : chain.link.spec.target ≠ "")
    (hfree : s.get? PipelineRun.kind (Reconcile.runKey chain r) = none)
    (hu : r.metadata.uid = some u) :
    (s.withRun uid now chain r).Carried u (runSlot chain r) (s.runRecord uid now chain r) :=
  ⟨by rw [get?_withRun, if_pos rfl], carries_runRecord htarget hfree hu⟩

/-- The run is read back. -/
theorem read?_withRun (uid now : String) (chain : Chain) (r : Release) (s : Store) :
    (s.withRun uid now chain r).read? PipelineRun (Reconcile.runKey chain r) =
      some ((Reconcile.runFor chain r).storedAs uid now (toString s.nextVersion)) := by
  refine read?_eq_some.mpr ⟨s.runRecord uid now chain r, ?_, ?_⟩
  · show Assoc.get? (runSlot chain r) _ = _
    rw [get?_withRun, if_pos rfl]
  · exact StoredRecord.typed_created_run uid now _ _

theorem isOwnedBy_storedAs (hu : r.metadata.uid = some u) (version : String) :
    Trigger.isOwnedBy u ((Reconcile.runFor chain r).storedAs uid now version) := by
  have hlabels : ((Reconcile.runFor chain r).storedAs uid now version).metadata.labels =
      PipelineRun.labelsFor chain.strategy r := rfl
  unfold Trigger.isOwnedBy
  rw [hlabels, PipelineRun.get?_labelsFor_uid hu, beq_self_eq_true]

theorem Carried.cases_withRun (h : (s.withRun uid now chain r).Carried u x q) :
    s.Carried u x q ∨ (x = runSlot chain r ∧ q = s.runRecord uid now chain r) := by
  rcases Assoc.eq_or_of_get?_put h.stored with ⟨hx, hq⟩ | hold
  · exact .inr ⟨hx, hq.symm⟩
  · exact .inl ⟨hold, h.carries⟩

theorem Carried.withRun (h : s.Carried u x q)
    (hfree : s.get? PipelineRun.kind (Reconcile.runKey chain r) = none) :
    (s.withRun uid now chain r).Carried u x q := by
  refine ⟨?_, h.carries⟩
  rw [get?_withRun, if_neg]
  · exact h.stored
  · rintro rfl
    have hget : s.get? PipelineRun.kind (Reconcile.runKey chain r) = some q := h.stored
    rw [hfree] at hget
    cases hget

/-- The uid of a Release in a sound store is set. -/
theorem Sound.exists_uid (hs : s.Sound) {key : RecordKey} (hr : s.read? Release key = some r) :
    ∃ u, r.metadata.uid = some u := by
  obtain ⟨stored, hget, htyped⟩ := read?_eq_some.mp hr
  exact ⟨_, (hs.accounted_release hget htyped).uid⟩

end Store

end ReleaseControl
