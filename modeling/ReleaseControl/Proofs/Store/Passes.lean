import ReleaseControl.Proofs.Store.Program

/-! # Records on their way through a store

A client creates a record, gets it, and writes it back, as a whole or its status, any number of
times. Each time the record is written, stored, and read again by its type. Nothing of it is lost on
the way but what the store decides itself (`Record.Passes`): a creation assigns uid, generation,
version and time and leaves the status empty, and a write renews generation and version. A record
that was edited meanwhile goes into the stored one by parts: an update takes its spec and its
labels, a write of the status its status. -/

namespace ReleaseControl

open Store

open StoredRecord (createdMetadata)

/-- Metadata that agree in all that a write leaves alone. -/
def Metadata.Renewed (m m' : Metadata) : Prop :=
  ∃ generation resourceVersion, m' = { m with generation, resourceVersion }

namespace Metadata

theorem Renewed.refl (m : Metadata) : m.Renewed m := ⟨m.generation, m.resourceVersion, rfl⟩

theorem Renewed.trans {m m' m'' : Metadata} (h : m.Renewed m') (h' : m'.Renewed m'') :
    m.Renewed m'' := by
  obtain ⟨_, _, rfl⟩ := h
  obtain ⟨generation, version, rfl⟩ := h'
  exact ⟨generation, version, rfl⟩

end Metadata

namespace Record

/-! ## Passes -/

/-- A way to hand a record to the store and get it back. -/
inductive Pass where
  | get
  | update
  | updateStatus
  deriving DecidableEq, Repr

section Programs

open Program

variable {ρ : Type} [Record ρ]

/-- What becomes of a record on its way; `none` if the store has none. -/
def Pass.run (r : ρ) : Pass → Program (Except StoreError (Option ρ))
  | .get => getRecord ρ (key r)
  | .update => do return (← updateRecord r).map some
  | .updateStatus => do return (← updateRecordStatus r).map some

/-- Several passes, each with the record that the one before returned. -/
def runPasses (r : ρ) : List Pass → Program (Except StoreError (Option ρ))
  | [] => return .ok (some r)
  | pass :: rest => do
    match ← pass.run r with
    | .ok (some r) => runPasses r rest
    | answer => return answer

section Evaluation

variable {r r' : ρ} {stored : StoredRecord} {s s' : Store} {uid now : String}

theorem eval_createRecord
    (hcall : s.create uid now (kind ρ) (toJson r) = (.ok stored, s')) (hr : stored.typed = .ok r') :
    (createRecord r).eval uid now s = (.ok r', s') := by
  simp only [createRecord, ask, bind_eq, bind_call, bind_done, eval, perform, hcall, pure_eq, hr]

theorem eval_get (hget : s.get? (kind ρ) (key r) = some stored) (hr : stored.typed = .ok r') :
    (Pass.get.run r).eval uid now s = (.ok (some r'), s) := by
  simp only [Pass.run, getRecord, ask, bind_eq, bind_call, bind_done, eval, perform, hget, pure_eq,
    hr, Except.map]

theorem eval_update (hcall : s.update (kind ρ) (toJson r) = (.ok stored, s'))
    (hr : stored.typed = .ok r') : (Pass.update.run r).eval uid now s = (.ok (some r'), s') := by
  simp only [Pass.run, updateRecord, ask, bind_eq, bind_call, bind_done, eval, perform, hcall,
    pure_eq, hr, Except.map]

theorem eval_updateStatus (hcall : s.updateStatus (kind ρ) (toJson r) = (.ok stored, s'))
    (hr : stored.typed = .ok r') :
    (Pass.updateStatus.run r).eval uid now s = (.ok (some r'), s') := by
  simp only [Pass.run, updateRecordStatus, ask, bind_eq, bind_call, bind_done, eval, perform,
    hcall, pure_eq, hr, Except.map]

end Evaluation

/-- The program returns the record, and it is what is stored under the key then. -/
def Yields (p : Program (Except StoreError (Option ρ))) (uid now : String) (s : Store)
    (k : RecordKey) (r : ρ) : Prop :=
  ∃ s', p.eval uid now s = (.ok (some r), s') ∧ Reachable s' ∧ s'.read? ρ k = some r

end Programs

/-- What a client makes of a stored record: it has its key, and names its version or none. -/
structure IsEditOf {ρ : Type} [Record ρ] (stored r : ρ) : Prop where
  key : key r = key stored
  version : (metadata r).resourceVersion = none ∨
    (metadata r).resourceVersion = (metadata stored).resourceVersion

theorem IsEditOf.refl {ρ : Type} [Record ρ] (r : ρ) : IsEditOf r r := ⟨rfl, .inr rfl⟩

namespace Storable

variable {ρ : Type} [Record ρ] {upkeep : Upkeep ρ} {s : Store} {r old : ρ}
  {stored : StoredRecord}

/-! ## Creating -/

theorem createRecord_ok (h : Storable ρ upkeep) (hs : Reachable s)
    (hspace : (metadata r).workspace ≠ "") (hname : Name.check (metadata r).name = .ok ())
    (hfree : s.get? (kind ρ) (key r) = none) (uid now : String) :
    ∃ version s' r', r' = upkeep.withMetadata (createdMetadata uid now version (metadata r))
        (upkeep.initial r) ∧
      (Program.createRecord r).eval uid now s = (.ok r', s') ∧ Reachable s' ∧
        s'.read? ρ (key r) = some r' := by
  have hnonempty : (metadata r).name ≠ "" := by
    intro hempty
    rw [hempty] at hname
    cases hname
  have hnew : s.checkNew (kind ρ) (toJson r) = .ok (metadata r) :=
    checkNew_eq_ok.mpr ⟨h.recordKind_toJson r, h.recordMetadata_toJson hspace hnonempty, hname,
      hfree⟩
  have hcreate : s.create uid now (kind ρ) (toJson r) = _ := create_of_checkNew hnew
  have htyped := h.typed_created uid now (toString s.nextVersion) r
  refine ⟨toString s.nextVersion, _, _, rfl, eval_createRecord hcreate htyped, ?_, ?_⟩
  · have hstep := Reachable.step hs uid now (.create (kind ρ) (toJson r))
    rwa [perform, hcreate] at hstep
  · refine read?_eq_some.mpr ⟨_, ?_, htyped⟩
    rw [get?_accept]
    exact if_pos rfl

/-! ## Writing -/

/-- What the records of a type are read as after a write. -/
theorem typed_revised (h : Storable ρ upkeep) {x : String}
    (hacc : stored.Accounted x (kind ρ) (metadata old)) (hold : stored.typed = .ok old)
    (hkey : key r = key old) (part : Part) (version : String) :
    (stored.revised part version (kind ρ) (metadata r) (metadata old) (toJson r)).typed =
      .ok (upkeep.withMetadata
        (stored.revisedMetadata part version (metadata r) (metadata old) (toJson r))
        (upkeep.withPart part r old)) := by
  have hobject := Json.isObject_of_recordMetadata hacc.objectMetadata
  have hdecode := ((StoredRecord.typed_eq_ok hacc.objectKind).mp hold).2
  have hslot : x = slot (kind ρ) (metadata r).key := by
    rw [hacc.slot]
    exact congrArg (slot (kind ρ)) hkey.symm
  have hkind := (accounted_revised hacc part version hslot (toJson r)).objectKind
  refine (StoredRecord.typed_eq_ok hkind).mpr ⟨rfl, h.decode_set_metadata ?_ ?_ _⟩
  · rwa [isObject_replacePart]
  · exact h.decode_replacePart hobject hdecode part r

theorem renewed_revised (part : Part) (version : String) (incoming kept : Metadata)
    (object : Json) :
    ({ kept with labels := StoredRecord.revisedLabels part incoming kept } : Metadata).Renewed
      (stored.revisedMetadata part version incoming kept object) :=
  ⟨_, _, rfl⟩

theorem reachable_write (hs : Reachable s) {part : Part} {kind : String} {object : Json}
    {reply : Except StoreError StoredRecord} {s' : Store}
    (h : s.write part kind object = (reply, s')) : Reachable s' := by
  cases part with
  | spec =>
      have hstep := Reachable.step hs "" "" (.update kind object)
      rwa [perform, update, h] at hstep
  | status =>
      have hstep := Reachable.step hs "" "" (.updateStatus kind object)
      rwa [perform, updateStatus, h] at hstep

/-- A part of a stored record is written over and the record read again. -/
theorem write_ok (h : Storable ρ upkeep) (hs : Reachable s) {k : RecordKey}
    (hold : s.read? ρ k = some old) (hedit : IsEditOf old r) (part : Part) :
    ∃ m s' stored,
      ({ metadata old with labels :=
          StoredRecord.revisedLabels part (metadata r) (metadata old) } : Metadata).Renewed m ∧
        s.write part (kind ρ) (toJson r) = (.ok stored, s') ∧
        stored.typed = .ok (upkeep.withMetadata m (upkeep.withPart part r old)) ∧
        Reachable s' ∧ s'.read? ρ k = some (upkeep.withMetadata m (upkeep.withPart part r old)) := by
  obtain ⟨stored, hget, htyped⟩ := read?_eq_some.mp hold
  have hacc := h.accounted hs.sound hget htyped
  obtain ⟨-, hspace, hname⟩ := Json.recordMetadata_eq_ok.mp hacc.objectMetadata
  obtain ⟨hsameSpace, hsameName⟩ := RecordKey.mk.inj hedit.key
  have hmeta : (toJson r).recordMetadata = .ok (metadata r) :=
    h.recordMetadata_toJson (hsameSpace ▸ hspace) (hsameName ▸ hname)
  have hrevise : s.revise (kind ρ) (toJson r) = .ok (stored, metadata r) :=
    hacc.revise_of_key hget (h.recordKind_toJson r) hmeta hedit.key hedit.version
  have hrevised := h.typed_revised hacc htyped hedit.key part (toString s.nextVersion)
  have hwrite : s.write part (kind ρ) (toJson r) = _ :=
    write_of_revise hrevise hacc.objectMetadata
  refine ⟨_, _, _, renewed_revised part _ _ _ _, hwrite, hrevised, reachable_write hs hwrite,
    read?_eq_some.mpr ⟨_, ?_, hrevised⟩⟩
  rw [get?_supersede]
  refine if_pos (hacc.slot.trans ?_)
  exact congrArg (slot (kind ρ)) hedit.key.symm

/-- An update takes spec and labels of an edited record. -/
theorem update_ok (h : Storable ρ upkeep) (hs : Reachable s) {k : RecordKey}
    (hold : s.read? ρ k = some old) (hedit : IsEditOf old r) (uid now : String) :
    ∃ m, ({ metadata old with labels := (metadata r).labels } : Metadata).Renewed m ∧
      Yields (Pass.update.run r) uid now s k
        (upkeep.withMetadata m (upkeep.withPart .spec r old)) := by
  obtain ⟨m, s', stored, hm, hwrite, htyped, hs', hread⟩ := h.write_ok hs hold hedit .spec
  exact ⟨m, hm, s', eval_update hwrite htyped, hs', hread⟩

/-- A write of the status takes the status of an edited record. -/
theorem updateStatus_ok (h : Storable ρ upkeep) (hs : Reachable s) {k : RecordKey}
    (hold : s.read? ρ k = some old) (hedit : IsEditOf old r) (uid now : String) :
    ∃ m, (metadata old).Renewed m ∧
      Yields (Pass.updateStatus.run r) uid now s k
        (upkeep.withMetadata m (upkeep.withPart .status r old)) := by
  obtain ⟨m, s', stored, hm, hwrite, htyped, hs', hread⟩ := h.write_ok hs hold hedit .status
  exact ⟨m, hm, s', eval_updateStatus hwrite htyped, hs', hread⟩

/-! ## Passing -/

/-- A record that is handed back as it was read comes back with another generation and version at
most. -/
theorem pass_ok (h : Storable ρ upkeep) (hs : Reachable s) {k : RecordKey}
    (hr : s.read? ρ k = some r) (pass : Pass) (uid now : String) :
    ∃ m, (metadata r).Renewed m ∧ Yields (pass.run r) uid now s k (upkeep.withMetadata m r) := by
  cases pass with
  | get =>
      obtain ⟨stored, hget, htyped⟩ := read?_eq_some.mp hr
      have hacc := h.accounted hs.sound hget htyped
      have hkey : s.get? (kind ρ) (key r) = some stored := by
        rw [get?, key, ← hacc.slot]
        exact hget
      refine ⟨metadata r, .refl _, ?_⟩
      rw [h.withMetadata_self]
      exact ⟨s, eval_get hkey htyped, hs, hr⟩
  | update =>
      obtain ⟨m, hm, hyields⟩ := h.update_ok hs hr (.refl r) uid now
      rw [h.withPart_self] at hyields
      exact ⟨m, hm, hyields⟩
  | updateStatus =>
      obtain ⟨m, hm, hyields⟩ := h.updateStatus_ok hs hr (.refl r) uid now
      rw [h.withPart_self] at hyields
      exact ⟨m, hm, hyields⟩

theorem runPasses_ok (h : Storable ρ upkeep) (hs : Reachable s) {k : RecordKey}
    (hr : s.read? ρ k = some r) (passes : List Pass) (uid now : String) :
    ∃ m, (metadata r).Renewed m ∧
      Yields (runPasses r passes) uid now s k (upkeep.withMetadata m r) := by
  induction passes generalizing r s with
  | nil =>
      refine ⟨metadata r, .refl _, ?_⟩
      rw [h.withMetadata_self]
      exact ⟨s, rfl, hs, hr⟩
  | cons pass rest ih =>
      obtain ⟨m₁, hm₁, s₁, hpass, hs₁, hr₁⟩ := h.pass_ok hs hr pass uid now
      obtain ⟨m₂, hm₂, s₂, hrest, hs₂, hr₂⟩ := ih hs₁ hr₁
      rw [h.metadata_withMetadata] at hm₂
      rw [h.withMetadata_withMetadata] at hrest hr₂
      refine ⟨m₂, hm₁.trans hm₂, s₂, ?_, hs₂, hr₂⟩
      rw [runPasses, Program.bind_eq, Program.eval_bind, hpass]
      exact hrest

end Storable

/-! ## The four types -/

/-- Records of a type are read back as they were written, also by way of a store. -/
structure Passes (ρ : Type) [Record ρ] (upkeep : Upkeep ρ) : Prop where
  ofJson_toJson : ∀ r : ρ, ofJson (toJson r) = .ok r
  ofJson_again : ∀ v (r : ρ), ofJson v = .ok r → ofJson (toJson r) = .ok r
  created : ∀ s (r : ρ) uid now, Reachable s → (metadata r).workspace ≠ "" →
    Name.check (metadata r).name = .ok () → s.get? (kind ρ) (key r) = none →
      ∃ version s' r', r' = upkeep.withMetadata (createdMetadata uid now version (metadata r))
          (upkeep.initial r) ∧
        (Program.createRecord r).eval uid now s = (.ok r', s') ∧ Reachable s' ∧
          s'.read? ρ (key r) = some r'
  passed : ∀ s (r : ρ) k passes uid now, Reachable s → s.read? ρ k = some r →
    ∃ m, (metadata r).Renewed m ∧
      Yields (runPasses r passes) uid now s k (upkeep.withMetadata m r)
  updated : ∀ s (r old : ρ) k uid now, Reachable s → s.read? ρ k = some old → IsEditOf old r →
    ∃ m, ({ metadata old with labels := (metadata r).labels } : Metadata).Renewed m ∧
      Yields (Pass.update.run r) uid now s k
        (upkeep.withMetadata m (upkeep.withPart .spec r old))
  statusUpdated : ∀ s (r old : ρ) k uid now, Reachable s → s.read? ρ k = some old →
    IsEditOf old r → ∃ m, (metadata old).Renewed m ∧
      Yields (Pass.updateStatus.run r) uid now s k
        (upkeep.withMetadata m (upkeep.withPart .status r old))

theorem Storable.ofJson_toJson {ρ : Type} [Record ρ] {upkeep : Upkeep ρ}
    (h : Storable ρ upkeep) (r : ρ) : ofJson (toJson r) = .ok r :=
  (ofJson_eq_ok (h.recordKind_toJson r)).mpr ⟨rfl, h.decode_toJson r⟩

theorem Storable.passes {ρ : Type} [Record ρ] {upkeep : Upkeep ρ} (h : Storable ρ upkeep) :
    Passes ρ upkeep where
  ofJson_toJson := h.ofJson_toJson
  ofJson_again _ r _ := h.ofJson_toJson r
  created _ _ uid now hs hspace hname hfree := h.createRecord_ok hs hspace hname hfree uid now
  passed _ _ _ passes uid now hs hr := h.runPasses_ok hs hr passes uid now
  updated _ _ _ _ uid now hs hold hedit := h.update_ok hs hold hedit uid now
  statusUpdated _ _ _ _ uid now hs hold hedit := h.updateStatus_ok hs hold hedit uid now

/-- Every record is read back as it was written, and so is every one that was read from a value, in
whatever form it stood there. A record that is created is returned with the metadata that the store
gives it, a Release with an empty status. On any number of passes, each time handed back as it was
returned, it is returned and stored as it was, with another generation and version at most. Of an
edited record an update takes spec and labels and a write of the status the status; the rest stays
as it was stored. -/
theorem records_pass :
    Passes Release Release.upkeep ∧ Passes ReleaseLink (.plain ReleaseLink.mk ReleaseLink.spec) ∧
      Passes ReleaseStrategy (.plain ReleaseStrategy.mk ReleaseStrategy.spec) ∧
      Passes PipelineRun (.plain PipelineRun.mk PipelineRun.spec) :=
  ⟨Release.storable.passes, ReleaseLink.storable.passes, ReleaseStrategy.storable.passes,
    PipelineRun.storable.passes⟩

/-- A Release that is created with a status loses it. -/
theorem status_dropped :
    ∃ r r' : Release, r.status ≠ .empty ∧
      ((Program.createRecord r).eval "1" "" (.empty .none)).1 = .ok r' ∧ r'.status ≠ r.status := by
  refine ⟨⟨.new ⟨"w", "r"⟩ .empty, ⟨"l"⟩, { ReleaseStatus.empty with startTime := some "now" }⟩,
    _, by decide, rfl, by decide⟩

end Record

end ReleaseControl
