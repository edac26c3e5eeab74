import ReleaseControl.Proofs.Record.Codec
import ReleaseControl.Store.Stored

/-! # The objects of stored records

What the store looks at in an object, and how records read from it change when the store replaces
its metadata or its status. -/

namespace ReleaseControl

namespace Json

theorem recordKind_eq_ok {v : Json} {kind : String} :
    v.recordKind = .ok kind ↔ v.get? "kind" = some (.str kind) := by
  simp only [recordKind]
  cases h : v.get? "kind" with
  | none => simp
  | some w => cases w <;> simp [asString?]

theorem recordMetadata_eq_ok {v : Json} {m : Metadata} :
    v.recordMetadata = .ok m ↔
      (∃ w, v.get? "metadata" = some w ∧ Metadata.decode w = .ok m) ∧
        m.workspace ≠ "" ∧ m.name ≠ "" := by
  simp only [recordMetadata]
  cases h : v.get? "metadata" with
  | none => simp
  | some w =>
      cases hw : Metadata.decode w with
      | error e => simp [hw]
      | ok a =>
          have hread : (∃ w', some w = some w' ∧ Metadata.decode w' = .ok m) ↔ a = m := by
            simp [hw]
          rw [hread]
          simp only [hw, String.isEmpty_iff]
          split
          · next hspace =>
              simp only [reduceCtorEq, false_iff]
              rintro ⟨rfl, h, -⟩
              exact h hspace
          · next hspace =>
              split
              · next hname =>
                  simp only [reduceCtorEq, false_iff]
                  rintro ⟨rfl, -, h⟩
                  exact h hname
              · next hname =>
                  constructor
                  · rintro ⟨rfl⟩
                    exact ⟨rfl, hspace, hname⟩
                  · rintro ⟨rfl, -, -⟩
                    rfl

theorem isObject_of_recordMetadata {v : Json} {m : Metadata} (h : v.recordMetadata = .ok m) :
    v.isObject := by
  obtain ⟨⟨w, hw, -⟩, -⟩ := recordMetadata_eq_ok.mp h
  exact isObject_of_get? hw

theorem withMetadata_eq {v : Json} (h : v.isObject) (m : Metadata) :
    v.withMetadata m = .ok (v.set "metadata" m.toJson) := by
  simp [withMetadata, h]

/-- Written metadata are read back if they have a workspace and a name. -/
theorem recordMetadata_set {v : Json} (hv : v.isObject) {m : Metadata} (hspace : m.workspace ≠ "")
    (hname : m.name ≠ "") : (v.set "metadata" m.toJson).recordMetadata = .ok m :=
  recordMetadata_eq_ok.mpr
    ⟨⟨m.toJson, get?_set_self hv _ _, Metadata.decode_toJson m⟩, hspace, hname⟩

end Json

open Shape

namespace Release

/-- What a Release that was read says about the members of its object. -/
theorem members_of_decode {v : Json} {r : Release} (hv : v.isObject) (h : decode v = .ok r) :
    (∃ w, v.get? "metadata" = some w ∧ Metadata.decode w = .ok r.metadata) ∧
      (∃ w, v.get? "spec" = some w ∧ ReleaseSpec.decode w = .ok r.spec) ∧
      ((v.get? "status" = none ∧ ReleaseStatus.empty = r.status) ∨
        ∃ w, v.get? "status" = some w ∧ ReleaseStatus.decode w = .ok r.status) := by
  obtain ⟨f, status, hf, hstatus, rfl⟩ := of_build_seq (build_of_decode hv h)
  obtain ⟨g, spec, hg, hspec, rfl⟩ := of_build_seq hf
  obtain ⟨metadata, hmetadata, rfl⟩ := of_build_map hg
  exact ⟨build_required.mp hmetadata, build_required.mp hspec, build_withDefault.mp hstatus⟩

/-- The members that make a Release. -/
theorem build_of_members {v : Json} {r : Release}
    (hmetadata : ∃ w, v.get? "metadata" = some w ∧ Metadata.decode w = .ok r.metadata)
    (hspec : ∃ w, v.get? "spec" = some w ∧ ReleaseSpec.decode w = .ok r.spec)
    (hstatus : (v.get? "status" = none ∧ ReleaseStatus.empty = r.status) ∨
      ∃ w, v.get? "status" = some w ∧ ReleaseStatus.decode w = .ok r.status) :
    (mk <$> required "metadata" Metadata.decode <*> required "spec" ReleaseSpec.decode
      <*> withDefault "status" ReleaseStatus.decode .empty).build (fun n => v.get? n) = .ok r :=
  build_seq (build_seq (build_map (build_required.mpr hmetadata)) (build_required.mpr hspec))
    (build_withDefault.mpr hstatus)

theorem decode_set_metadata {v : Json} {r : Release} (hv : v.isObject) (h : decode v = .ok r)
    (m : Metadata) : decode (v.set "metadata" m.toJson) = .ok { r with metadata := m } := by
  obtain ⟨-, hspec, hstatus⟩ := members_of_decode hv h
  refine decode_set hv h (build_of_members ?_ ?_ ?_)
  · exact ⟨_, Json.get?_set_self hv _ _, Metadata.decode_toJson m⟩
  · rwa [Json.get?_set_ne (by simp)]
  · rwa [Json.get?_set_ne (by simp)]

theorem decode_set_status {v : Json} {r : Release} (hv : v.isObject) (h : decode v = .ok r)
    (status : ReleaseStatus) :
    decode (v.set "status" status.toJson) = .ok { r with status } := by
  obtain ⟨hmetadata, hspec, -⟩ := members_of_decode hv h
  refine decode_set hv h (build_of_members ?_ ?_ (.inr ?_))
  · rwa [Json.get?_set_ne (by simp)]
  · rwa [Json.get?_set_ne (by simp)]
  · exact ⟨_, Json.get?_set_self hv _ _, ReleaseStatus.decode_toJson status⟩

end Release

end ReleaseControl
