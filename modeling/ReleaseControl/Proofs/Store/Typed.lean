import ReleaseControl.Proofs.Name
import ReleaseControl.Proofs.Store.RoundTrip
import ReleaseControl.Proofs.Store.Soundness

/-! # Reading and writing records by type

What the controller does with a sound store: a record that is read by its type agrees with the
facts the store keeps (`Sound.accounted_release`, `Sound.accounted_run`), the status of a Release
that was read is written without fail, and a run is created whenever its workspace has a name and
its slot is free. -/

namespace ReleaseControl

open Store

/-! ## Reading -/

section Reading

variable {ρ : Type} [Record ρ]

theorem Record.ofJson_eq_ok {v : Json} {kind : String} (hkind : v.recordKind = .ok kind) {r : ρ} :
    ofJson v = .ok r ↔ kind = Record.kind ρ ∧ decode v = .ok r := by
  have hget := Json.recordKind_eq_ok.mp hkind
  simp only [ofJson, hget, Option.bind_some, Json.asString?]
  by_cases h : kind = Record.kind ρ
  · rw [if_pos h]
    cases (decode v : Except DecodeError ρ) <;> simp [h]
  · simp [h]

theorem StoredRecord.typed_eq_ok {stored : StoredRecord} {kind : String}
    (hkind : stored.object.recordKind = .ok kind) {r : ρ} :
    stored.typed = .ok r ↔ kind = Record.kind ρ ∧ Record.decode stored.object = .ok r := by
  rw [← Record.ofJson_eq_ok hkind, typed]
  cases (Record.ofJson stored.object : Except RecordError ρ) <;> simp

/-- A record that cannot be read by its type is no transient failure. -/
theorem StoredRecord.isTransient_of_typed {stored : StoredRecord} {e : StoreError}
    (h : (stored.typed : Except StoreError ρ) = .error e) : e.isTransient = false := by
  obtain ⟨cause, -, rfl⟩ := mapError_eq_error h
  rfl

theorem StoredRecord.exists_mapM_typed {stored : List StoredRecord}
    (h : ∀ a ∈ stored, ∃ r : ρ, a.typed = .ok r) :
    ∃ found : List ρ, stored.mapM typed = .ok found := by
  induction stored with
  | nil => exact ⟨[], rfl⟩
  | cons a rest ih =>
      obtain ⟨⟨r, hr⟩, hrest⟩ := List.forall_mem_cons.mp h
      obtain ⟨found, hfound⟩ := ih hrest
      refine ⟨r :: found, ?_⟩
      rw [List.mapM_cons, hr, hfound]
      rfl

theorem StoredRecord.exists_typed_of_mapM {stored : List StoredRecord} {found : List ρ}
    (h : stored.mapM typed = .ok found) {a : StoredRecord} (ha : a ∈ stored) :
    ∃ r : ρ, a.typed = .ok r := by
  induction stored generalizing found with
  | nil => cases ha
  | cons b rest ih =>
      rw [List.mapM_cons] at h
      obtain ⟨r, hr, h⟩ := exists_of_bind_ok h
      obtain ⟨others, hothers, -⟩ := exists_of_bind_ok h
      rcases List.mem_cons.mp ha with rfl | ha
      · exact ⟨r, hr⟩
      · exact ih hothers ha

/-- Reading several records fails with the failure of one of them. -/
theorem StoredRecord.exists_of_mapM_typed_error {stored : List StoredRecord} {e : StoreError}
    (h : stored.mapM (@typed ρ _) = .error e) :
    ∃ a ∈ stored, (a.typed : Except StoreError ρ) = .error e := by
  induction stored with
  | nil => cases h
  | cons a rest ih =>
      rw [List.mapM_cons] at h
      rcases bind_error_cases h with h | ⟨r, -, h⟩
      · exact ⟨a, List.mem_cons_self, h⟩
      · rcases bind_error_cases h with h | ⟨others, -, h⟩
        · obtain ⟨b, hb, he⟩ := ih h
          exact ⟨b, List.mem_cons_of_mem _ hb, he⟩
        · cases h

theorem StoredRecord.isTransient_of_mapM_typed {stored : List StoredRecord} {e : StoreError}
    (h : stored.mapM (@typed ρ _) = .error e) : e.isTransient = false := by
  obtain ⟨a, -, ha⟩ := exists_of_mapM_typed_error h
  exact isTransient_of_typed ha

/-- The record of a type that a store holds at a key. -/
def Store.read? (ρ : Type) [Record ρ] (s : Store) (key : RecordKey) : Option ρ :=
  (s.get? (Record.kind ρ) key).bind fun stored => stored.typed.toOption

theorem Store.read?_eq_some {s : Store} {key : RecordKey} {r : ρ} :
    s.read? ρ key = some r ↔
      ∃ stored, s.get? (Record.kind ρ) key = some stored ∧ stored.typed = .ok r := by
  simp only [read?, Option.bind_eq_some_iff]
  constructor
  · rintro ⟨stored, hget, h⟩
    cases htyped : (stored.typed : Except StoreError ρ) with
    | error e => simp [htyped, Except.toOption] at h
    | ok a =>
        simp only [htyped, Except.toOption, Option.some.injEq] at h
        exact ⟨stored, hget, h ▸ htyped⟩
  · rintro ⟨stored, hget, h⟩
    exact ⟨stored, hget, by simp [h, Except.toOption]⟩

end Reading

/-! ## Metadata of what was read -/

theorem StoredRecord.Accounted.metadata_eq {x kind : String} {stored : StoredRecord}
    {m m' : Metadata} (h : stored.Accounted x kind m)
    (hmember : ∃ w, stored.object.get? "metadata" = some w ∧ Metadata.decode w = .ok m') :
    m = m' := by
  obtain ⟨w', hw', hm'⟩ := hmember
  obtain ⟨⟨w, hw, hm⟩, -⟩ := Json.recordMetadata_eq_ok.mp h.objectMetadata
  rw [hw] at hw'
  cases hw'
  exact Except.ok.inj (hm.symm.trans hm')

/-- A record that is written under its key and the version it was read with, or none, is found. -/
theorem StoredRecord.Accounted.revise_of_key {s : Store} {x kind : String} {stored : StoredRecord}
    {m incoming : Metadata} (h : stored.Accounted x kind m)
    (hget : Assoc.get? x s.slots = some stored) {object : Json}
    (hkind : object.recordKind = .ok kind) (hmeta : object.recordMetadata = .ok incoming)
    (hkey : incoming.key = m.key)
    (hversion : incoming.resourceVersion = none ∨ incoming.resourceVersion = m.resourceVersion) :
    s.revise kind object = .ok (stored, incoming) := by
  refine revise_eq_ok.mpr ⟨hkind, hmeta, ?_, ?_⟩
  · rw [hkey, get?, ← h.slot]
    exact hget
  · intro v hv
    rcases hversion with hnone | hsame
    · cases hnone.symm.trans hv
    · rw [hsame, h.version] at hv
      exact (Option.some.inj hv).symm

theorem StoredRecord.Accounted.revise_eq {s : Store} {x kind : String} {stored : StoredRecord}
    {m : Metadata} (h : stored.Accounted x kind m) (hget : Assoc.get? x s.slots = some stored)
    {object : Json} (hkind : object.recordKind = .ok kind) (hmeta : object.recordMetadata = .ok m) :
    s.revise kind object = .ok (stored, m) :=
  h.revise_of_key hget hkind hmeta rfl (.inr rfl)

namespace Store.Sound

variable {s : Store} {x : String} {stored : StoredRecord}

/-- The metadata of a record that was read are those its slot and the store tell. -/
theorem accounted_of_typed {ρ : Type} [Record ρ] (hs : s.Sound) {r : ρ} {m : Metadata}
    (hget : Assoc.get? x s.slots = some stored) (hr : stored.typed = .ok r)
    (hmember : stored.object.isObject → Record.decode stored.object = .ok r →
      ∃ w, stored.object.get? "metadata" = some w ∧ Metadata.decode w = .ok m) :
    stored.Accounted x (Record.kind ρ) m := by
  obtain ⟨kind, m', h⟩ := hs.accounted hget
  obtain ⟨rfl, hdecode⟩ := (StoredRecord.typed_eq_ok h.objectKind).mp hr
  have hobject := Json.isObject_of_recordMetadata h.objectMetadata
  rwa [h.metadata_eq (hmember hobject hdecode)] at h

end Store.Sound

namespace Record.Storable

variable {ρ : Type} [Record ρ] {upkeep : Upkeep ρ} {r : ρ}

theorem recordMetadata_toJson (h : Storable ρ upkeep)
    (hspace : (metadata r).workspace ≠ "") (hname : (metadata r).name ≠ "") :
    (toJson r).recordMetadata = .ok (metadata r) :=
  Json.recordMetadata_eq_ok.mpr
    ⟨⟨_, h.metadata_toJson r, Metadata.decode_toJson _⟩, hspace, hname⟩

theorem isObject_toJson (h : Storable ρ upkeep) (r : ρ) : (toJson r).isObject :=
  Json.isObject_of_get? (h.metadata_toJson r)

theorem accounted (h : Storable ρ upkeep) {s : Store} (hs : s.Sound) {x : String}
    {stored : StoredRecord} (hget : Assoc.get? x s.slots = some stored)
    (hr : stored.typed = .ok r) : stored.Accounted x (kind ρ) (metadata r) :=
  hs.accounted_of_typed hget hr h.metadata_of_decode

theorem recordKind_created (h : Storable ρ upkeep) (uid now version : String) (r : ρ) :
    (StoredRecord.created uid now version (kind ρ) (toJson r)
      (metadata r)).object.recordKind = .ok (kind ρ) :=
  (Json.recordKind_set (by simp) _ _).trans
    ((Json.recordKind_remove (by simp) _).trans (h.recordKind_toJson r))

/-- A record that was just created is read back with the metadata the store gave it. -/
theorem typed_created (h : Storable ρ upkeep) (uid now version : String) (r : ρ) :
    (StoredRecord.created uid now version (kind ρ) (toJson r) (metadata r)).typed =
      .ok (upkeep.withMetadata (StoredRecord.createdMetadata uid now version (metadata r))
        (upkeep.initial r)) := by
  have hobject : ((toJson r).remove "status").isObject := by
    rw [Json.isObject_remove]
    exact h.isObject_toJson r
  exact (StoredRecord.typed_eq_ok (h.recordKind_created uid now version r)).mpr
    ⟨rfl, h.decode_set_metadata hobject (h.decode_remove_status r) _⟩

end Record.Storable

namespace Store.Sound

variable {s : Store} {x : String} {stored : StoredRecord}

theorem accounted_release (hs : s.Sound) {r : Release} (hget : Assoc.get? x s.slots = some stored)
    (hr : stored.typed = .ok r) : stored.Accounted x Release.kind r.metadata :=
  Release.storable.accounted hs hget hr

theorem accounted_run (hs : s.Sound) {run : PipelineRun}
    (hget : Assoc.get? x s.slots = some stored) (hr : stored.typed = .ok run) :
    stored.Accounted x PipelineRun.kind run.metadata :=
  PipelineRun.storable.accounted hs hget hr

theorem accounted_link (hs : s.Sound) {link : ReleaseLink}
    (hget : Assoc.get? x s.slots = some stored) (hr : stored.typed = .ok link) :
    stored.Accounted x ReleaseLink.kind link.metadata :=
  ReleaseLink.storable.accounted hs hget hr

end Store.Sound

/-! ## Listing -/

namespace Store

theorem mem_of_selectMatching {q : Query} {rs kept : List StoredRecord}
    (h : selectMatching q rs = .ok kept) {r : StoredRecord} (hr : r ∈ kept) : r ∈ rs := by
  induction rs generalizing kept with
  | nil =>
      cases h
      exact hr
  | cons a rest ih =>
      obtain ⟨m, -, h⟩ := exists_of_bind_ok h
      obtain ⟨others, hothers, h⟩ := exists_of_bind_ok h
      cases h
      split at hr
      · rcases List.mem_cons.mp hr with rfl | hr
        · exact List.mem_cons_self
        · exact List.mem_cons_of_mem _ (ih hothers hr)
      · exact List.mem_cons_of_mem _ (ih hothers hr)

/-- What a list call returns is stored. -/
theorem Sound.exists_slot_of_list {s : Store} (hs : s.Sound) {kind : String} {q : Query}
    {rs : List StoredRecord} (h : s.list kind q = .ok rs) {r : StoredRecord} (hr : r ∈ rs) :
    ∃ x, Assoc.get? x s.slots = some r := by
  obtain ⟨found, hfound, h⟩ := exists_of_bind_ok h
  obtain ⟨kept, hkept, h⟩ := exists_of_bind_ok h
  cases h
  have hmem := mem_of_selectMatching hkept (List.mem_mergeSort.mp hr)
  -- without a selector all slots are looked through, with one the keys the index lists
  simp only [candidates] at hfound
  split at hfound
  · cases hfound
    obtain ⟨⟨x, a⟩, ha, rfl⟩ := List.mem_map.mp (List.mem_filter.mp hmem).1
    exact ⟨x, Assoc.get?_of_mem hs.nodup ha⟩
  · split at hfound
    · cases hfound
      obtain ⟨key, -, hget⟩ := List.mem_filterMap.mp hmem
      exact ⟨_, hget⟩
    · cases hfound

end Store

theorem StoredRecord.exists_of_mem_mapM_typed {ρ : Type} [Record ρ] {stored : List StoredRecord}
    {found : List ρ} (h : stored.mapM (@typed ρ _) = .ok found) {r : ρ} (hr : r ∈ found) :
    ∃ a ∈ stored, a.typed = .ok r := by
  induction stored generalizing found with
  | nil =>
      cases h
      cases hr
  | cons a rest ih =>
      rw [List.mapM_cons] at h
      obtain ⟨b, hb, h⟩ := exists_of_bind_ok h
      obtain ⟨others, hothers, h⟩ := exists_of_bind_ok h
      cases h
      rcases List.mem_cons.mp hr with rfl | hr
      · exact ⟨a, List.mem_cons_self, hb⟩
      · obtain ⟨a', ha', htyped⟩ := ih hothers hr
        exact ⟨a', List.mem_cons_of_mem _ ha', htyped⟩

/-! ## Writing a status -/

namespace Release

theorem recordKind_toJson (r : Release) : r.toJson.recordKind = .ok kind :=
  Json.recordKind_eq_ok.mpr (by simp [toJson])

theorem recordMetadata_toJson {r : Release} (hspace : r.metadata.workspace ≠ "")
    (hname : r.metadata.name ≠ "") : r.toJson.recordMetadata = .ok r.metadata :=
  storable.recordMetadata_toJson hspace hname

/-- The Release as a store hands it out after its status was written. -/
def noted (version : String) (status : ReleaseStatus) (r : Release) : Release :=
  { r with metadata := { r.metadata with resourceVersion := some version }, status }

@[simp] theorem uid_noted (version : String) (status : ReleaseStatus) (r : Release) :
    (r.noted version status).metadata.uid = r.metadata.uid := rfl

@[simp] theorem key_noted (version : String) (status : ReleaseStatus) (r : Release) :
    (r.noted version status).key = r.key := rfl

@[simp] theorem spec_noted (version : String) (status : ReleaseStatus) (r : Release) :
    (r.noted version status).spec = r.spec := rfl

@[simp] theorem status_noted (version : String) (status : ReleaseStatus) (r : Release) :
    (r.noted version status).status = status := rfl

@[simp] theorem currentGeneration_noted (version : String) (status : ReleaseStatus)
    (r : Release) :
    (r.noted version status).metadata.currentGeneration = r.metadata.currentGeneration := rfl

end Release

/-- The record that is left when the status of a Release is written. -/
def StoredRecord.withStatus (version : String) (r : Release) (status : ReleaseStatus)
    (stored : StoredRecord) : StoredRecord :=
  stored.revised .status version Release.kind r.metadata r.metadata { r with status }.toJson

/-- The status is replaced, and of the metadata the version. -/
theorem StoredRecord.Accounted.object_withStatus {x : String} {stored : StoredRecord} {r : Release}
    (h : stored.Accounted x Release.kind r.metadata) (version : String) (status : ReleaseStatus) :
    (stored.withStatus version r status).object =
      (stored.object.set "status" status.toJson).set "metadata"
        { r.metadata with resourceVersion := some version }.toJson := by
  have hreplaced : replacePart .status stored.object { r with status }.toJson =
      stored.object.set "status" status.toJson := by
    simp [replacePart, Release.toJson]
  have hmeta : stored.revisedMetadata .status version r.metadata r.metadata
      { r with status }.toJson = { r.metadata with resourceVersion := some version } := by
    simp only [revisedMetadata, revisedGeneration, revisedLabels, ← h.generation]
  simp only [withStatus, revised, hreplaced, hmeta]

theorem StoredRecord.Accounted.typed_withStatus {x : String} {stored : StoredRecord} {r : Release}
    (h : stored.Accounted x Release.kind r.metadata) (hr : stored.typed = .ok r)
    (version : String) (status : ReleaseStatus) :
    (stored.withStatus version r status).typed = .ok (r.noted version status) := by
  have hobject := Json.isObject_of_recordMetadata h.objectMetadata
  have hdecode := ((typed_eq_ok h.objectKind).mp hr).2
  have hkind : (stored.withStatus version r status).object.recordKind = .ok Release.kind :=
    (Json.recordKind_set (by simp) _ _).trans ((recordKind_replacePart _ _ _).trans h.objectKind)
  refine (typed_eq_ok hkind).mpr ⟨rfl, ?_⟩
  rw [h.object_withStatus]
  exact Release.decode_set_metadata (by simpa using hobject)
    (Release.decode_set_status hobject hdecode status) _

/-- The store with the status of a Release written. -/
def Store.withStatus (s : Store) (r : Release) (status : ReleaseStatus) : Store :=
  (s.updateStatus Release.kind { r with status }.toJson).2

theorem Store.Sound.updateStatus_release {s : Store} (hs : s.Sound) {key : RecordKey}
    {stored : StoredRecord} {r : Release} (hget : s.get? Release.kind key = some stored)
    (hr : stored.typed = .ok r) (status : ReleaseStatus) :
    s.updateStatus Release.kind { r with status }.toJson =
      (.ok (stored.withStatus (toString s.nextVersion) r status),
        s.supersede stored (stored.withStatus (toString s.nextVersion) r status)) := by
  have h := hs.accounted_release hget hr
  obtain ⟨-, hspace, hname⟩ := Json.recordMetadata_eq_ok.mp h.objectMetadata
  have hrevise : s.revise Release.kind { r with status }.toJson = .ok (stored, r.metadata) :=
    h.revise_eq hget (Release.recordKind_toJson _)
      (@Release.recordMetadata_toJson { r with status } hspace hname)
  exact write_of_revise hrevise h.objectMetadata

/-- A written status is found in the one slot that was written. -/
theorem Store.Sound.get?_withStatus {s : Store} (hs : s.Sound) {key : RecordKey}
    {stored : StoredRecord} {r : Release} (hget : s.get? Release.kind key = some stored)
    (hr : stored.typed = .ok r) (status : ReleaseStatus) (x : String) :
    Assoc.get? x (s.withStatus r status).slots = if x = slot Release.kind key
      then some (stored.withStatus (toString s.nextVersion) r status)
      else Assoc.get? x s.slots := by
  have hplace : slot Release.kind key = slot Release.kind r.metadata.key :=
    (hs.accounted_release hget hr).slot
  unfold withStatus
  rw [hs.updateStatus_release hget hr, slots_supersede, Assoc.get?_put, hplace]
  rfl

theorem Store.Sound.read?_withStatus {s : Store} (hs : s.Sound) {key : RecordKey} {r : Release}
    (hr : s.read? Release key = some r) (status : ReleaseStatus) :
    (s.withStatus r status).read? Release key =
      some (r.noted (toString s.nextVersion) status) := by
  obtain ⟨stored, hget, htyped⟩ := read?_eq_some.mp hr
  refine read?_eq_some.mpr ⟨stored.withStatus (toString s.nextVersion) r status, ?_, ?_⟩
  · show Assoc.get? (slot Release.kind key) _ = _
    rw [hs.get?_withStatus hget htyped, if_pos rfl]
  · exact (hs.accounted_release hget htyped).typed_withStatus htyped _ status

/-! ## Creating a run -/

namespace PipelineRun

theorem recordKind_toJson (run : PipelineRun) : run.toJson.recordKind = .ok kind :=
  Json.recordKind_eq_ok.mpr (by simp [toJson])

/-- The run as the store keeps it. -/
def storedAs (uid now version : String) (run : PipelineRun) : PipelineRun :=
  { run with metadata := StoredRecord.createdMetadata uid now version run.metadata }

end PipelineRun

theorem StoredRecord.recordKind_created_run (uid now version : String) (run : PipelineRun) :
    (created uid now version PipelineRun.kind run.toJson run.metadata).object.recordKind =
      .ok PipelineRun.kind :=
  PipelineRun.storable.recordKind_created uid now version run

theorem StoredRecord.typed_created_run (uid now version : String) (run : PipelineRun) :
    (created uid now version PipelineRun.kind run.toJson run.metadata).typed =
      .ok (run.storedAs uid now version) :=
  PipelineRun.storable.typed_created uid now version run

namespace PipelineRun

variable {strategy : ReleaseStrategy} {workspace : String} {r : Release}

theorem nameFor_ne_empty (r : Release) : nameFor r ≠ "" := by
  intro hempty
  have hname := check_nameFor r
  rw [hempty] at hname
  cases hname

theorem recordMetadata_forRelease (hspace : workspace ≠ "") :
    (forRelease strategy workspace r).toJson.recordMetadata =
      .ok (forRelease strategy workspace r).metadata :=
  Json.recordMetadata_eq_ok.mpr
    ⟨⟨_, by simp [toJson], Metadata.decode_toJson _⟩, hspace, nameFor_ne_empty r⟩

end PipelineRun

theorem Store.checkNew_run {s : Store} {strategy : ReleaseStrategy} {workspace : String}
    {r : Release} {m : Metadata} :
    s.checkNew PipelineRun.kind (PipelineRun.forRelease strategy workspace r).toJson = .ok m ↔
      m = (PipelineRun.forRelease strategy workspace r).metadata ∧ workspace ≠ "" ∧
        s.get? PipelineRun.kind ⟨workspace, PipelineRun.nameFor r⟩ = none := by
  rw [checkNew_eq_ok]
  constructor
  · rintro ⟨-, hmeta, -, hget⟩
    -- only the workspace can be missing: names of runs are always valid
    have hspace : workspace ≠ "" := by
      obtain ⟨⟨w, hw, hdecode⟩, hspace, -⟩ := Json.recordMetadata_eq_ok.mp hmeta
      obtain rfl : (PipelineRun.forRelease strategy workspace r).metadata.toJson = w := by
        simpa [PipelineRun.toJson] using hw
      rw [Metadata.decode_toJson, Except.ok.injEq] at hdecode
      rw [← hdecode] at hspace
      exact hspace
    rw [PipelineRun.recordMetadata_forRelease hspace, Except.ok.injEq] at hmeta
    subst hmeta
    exact ⟨rfl, hspace, hget⟩
  · rintro ⟨rfl, hspace, hget⟩
    exact ⟨PipelineRun.recordKind_toJson _, PipelineRun.recordMetadata_forRelease hspace,
      PipelineRun.check_nameFor r, hget⟩

end ReleaseControl
