import ReleaseControl.Proofs.Record.Same
import ReleaseControl.Proofs.Store.Typed

/-! # Generations and updates

An update whose spec is the stored one leaves the generation. If a Release is read afterwards, it
was read before, with the same spec and status (`typed_of_unchanged`): such an update can neither
open nor fail a Release. Objects have their members in order; every call keeps that. -/

namespace ReleaseControl

open Store

/-! ## Order -/

/-- The object that a call brings has its members in order. -/
def StoreCall.Ordered : StoreCall → Prop
  | .create _ object | .update _ object | .updateStatus _ object => object.Ordered
  | .get .. | .list .. | .delete .. => True

theorem Release.ordered_toJson (r : Release) : r.toJson.Ordered :=
  Json.ordered_ofFields (show ["kind", "metadata", "spec", "status"].Pairwise (· < ·) by decide)

theorem ReleaseLink.ordered_toJson (link : ReleaseLink) : link.toJson.Ordered :=
  Json.ordered_ofFields (show ["kind", "metadata", "spec"].Pairwise (· < ·) by decide)

theorem PipelineRun.ordered_toJson (run : PipelineRun) : run.toJson.Ordered :=
  Json.ordered_ofFields (show ["kind", "metadata", "spec"].Pairwise (· < ·) by decide)

namespace Store

/-- The objects of all records have their members in order. -/
def Ordered (s : Store) : Prop :=
  ∀ {x : String} {q : StoredRecord}, Assoc.get? x s.slots = some q → q.object.Ordered

theorem ordered_empty (indexes : FieldIndexes) : (empty indexes).Ordered :=
  fun h => by cases h

theorem ordered_replacePart {record object : Json} (h : record.Ordered) (part : Part) :
    (replacePart part record object).Ordered := by
  cases part with
  | spec => exact Json.ordered_set h _ _
  | status =>
      simp only [replacePart]
      cases object.get? "status" with
      | none => exact Json.ordered_remove h _
      | some status => exact Json.ordered_set h _ _

theorem Effect.ordered {uid now : String} {s s' : Store} {c : StoreCall}
    (h : Effect uid now s c s') (hs : s.Ordered) (hc : c.Ordered) : s'.Ordered := by
  intro x q hx
  rcases h.get?_cases hx with hold | hnew
  · exact hs hold
  · cases hnew with
    | created hnew => exact Json.ordered_set (Json.ordered_remove hc _) _ _
    | updated hrevise hkept =>
        obtain ⟨-, -, hget, -⟩ := revise_eq_ok.mp hrevise
        exact Json.ordered_set (ordered_replacePart (hs hget) _) _ _
    | statusUpdated hrevise hkept =>
        obtain ⟨-, -, hget, -⟩ := revise_eq_ok.mp hrevise
        exact Json.ordered_set (ordered_replacePart (hs hget) _) _ _

end Store

/-! ## The generation -/

namespace StoredRecord

/-- An update that changes the spec moves the generation. -/
theorem generation_revised_ne {existing : StoredRecord} {version kind : String}
    {incoming kept : Metadata} {object : Json} (hchange : specChanges existing.object object) :
    (existing.revised .spec version kind incoming kept object).generation ≠
      existing.generation := by
  unfold revised revisedGeneration
  rw [if_pos hchange]
  intro hsame
  simp at hsame

theorem generationChanged_revised {existing : StoredRecord} {version kind : String}
    {incoming kept : Metadata} {object : Json} (hchange : specChanges existing.object object) :
    (existing.revised .spec version kind incoming kept object).generationChanged := by
  unfold generationChanged
  rw [bne_iff_ne]
  exact fun hsame => generation_revised_ne hchange (Option.some.inj hsame).symm

/-- One with the stored spec leaves it. -/
theorem generation_revised_eq {existing : StoredRecord} {version kind : String}
    {incoming kept : Metadata} {object : Json}
    (hsame : specChanges existing.object object = false) :
    (existing.revised .spec version kind incoming kept object).generation =
      existing.generation := by
  simp [revised, revisedGeneration, hsame]

end StoredRecord

/-! ## The same spec -/

theorem Store.specChanges_eq_false {record object : Json} (h : specChanges record object = false) :
    ∃ old, record.get? "spec" = some old ∧ old.same (newSpec object) := by
  simp only [specChanges] at h
  cases hspec : record.get? "spec" with
  | none => simp [hspec] at h
  | some old => exact ⟨old, rfl, by simpa [hspec] using h⟩

/-- A Release that is read after an update with the stored spec was read before it. -/
theorem StoredRecord.Accounted.typed_of_unchanged {x : String} {existing : StoredRecord}
    {kept : Metadata} (h : existing.Accounted x Release.kind kept)
    (hordered : existing.object.Ordered) {version kind : String} {incoming : Metadata}
    {object : Json} (hsame : specChanges existing.object object = false) {r' : Release}
    (hr' : (existing.revised .spec version kind incoming kept object).typed = .ok r') :
    ∃ r : Release, existing.typed = .ok r ∧ r.metadata = kept ∧ r.spec = r'.spec ∧
      r.status = r'.status := by
  have hobject := Json.isObject_of_recordMetadata h.objectMetadata
  have hkind : (existing.revised .spec version kind incoming kept object).object.recordKind =
      .ok Release.kind :=
    (Json.recordKind_set (by simp) _ _).trans ((recordKind_replacePart _ _ _).trans h.objectKind)
  have hdecode : Release.decode (existing.revised .spec version kind incoming kept object).object =
      .ok r' := ((typed_eq_ok hkind).mp hr').2
  obtain ⟨-, hspec, hstatus⟩ := Release.members_of_decode
    (by simpa [revised, isObject_replacePart] using hobject) hdecode
  obtain ⟨old, hold, hsame⟩ := specChanges_eq_false hsame
  obtain ⟨⟨w, hw, hmeta⟩, -⟩ := Json.recordMetadata_eq_ok.mp h.objectMetadata
  -- the new spec was read, so the stored one, which is the same, is read alike
  have hspec' : ReleaseSpec.decode (newSpec object) = .ok r'.spec := by
    obtain ⟨w, hw, hread⟩ := hspec
    unfold revised at hw
    rw [Json.get?_set_ne (by simp), replacePart, Json.get?_set_self hobject] at hw
    cases hw
    exact hread
  have hstatus' : (existing.object.get? "status" = none ∧ ReleaseStatus.empty = r'.status) ∨
      ∃ w, existing.object.get? "status" = some w ∧ ReleaseStatus.decode w = .ok r'.status := by
    rwa [revised, Json.get?_set_ne (by simp), replacePart, Json.get?_set_ne (by simp)] at hstatus
  refine ⟨⟨kept, r'.spec, r'.status⟩, (typed_eq_ok h.objectKind).mpr ⟨rfl, ?_⟩, rfl, rfl, rfl⟩
  exact Shape.decode_of_build hobject hordered (Release.build_of_members ⟨w, hw, hmeta⟩
    ⟨old, hold, (ReleaseSpec.decode_of_same hsame).mpr hspec'⟩ hstatus')

/-- Such an update leaves the Release as far as it was. -/
theorem StoredRecord.Accounted.isFinished_of_unchanged {x : String} {existing : StoredRecord}
    {kept : Metadata} (h : existing.Accounted x Release.kind kept)
    (hordered : existing.object.Ordered) {version kind : String} {incoming : Metadata}
    (hx : x = Store.slot kind incoming.key) {object : Json}
    (hsame : specChanges existing.object object = false) {r' : Release}
    (hr' : (existing.revised .spec version kind incoming kept object).typed = .ok r') :
    ∃ r : Release, existing.typed = .ok r ∧ r.isFinished = r'.isFinished := by
  obtain ⟨r, hr, hmeta, -, hstatus⟩ := h.typed_of_unchanged hordered hsame hr'
  have hafter := accounted_revised h .spec version hx object
  obtain ⟨-, hdecode⟩ := (typed_eq_ok hafter.objectKind).mp hr'
  have hmembers := Release.members_of_decode
    (Json.isObject_of_recordMetadata hafter.objectMetadata) hdecode
  have hgeneration : r.metadata.currentGeneration = r'.metadata.currentGeneration := by
    rw [hmeta, ← hafter.metadata_eq hmembers.1, Metadata.currentGeneration,
      Metadata.currentGeneration, h.generation, revisedMetadata, revisedGeneration, hsame]
    rfl
  refine ⟨r, hr, ?_⟩
  unfold Release.isFinished
  rw [hstatus, hgeneration]

end ReleaseControl
