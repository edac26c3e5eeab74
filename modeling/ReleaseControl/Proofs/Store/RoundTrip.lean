import ReleaseControl.Proofs.Store.Objects
import ReleaseControl.Record.ReleaseLink
import ReleaseControl.Store.Basic

/-! # Whole records are read back

Reading undoes writing for every part of a record, so it does for records. A store writes over some
members of what it holds and leaves the others (`Record.Upkeep`): `Record.Storable` says what is
read then. Links, strategies and runs are alike in all this, records of metadata and a spec
(`Record.Plain`). A Release has a status besides, which is empty where there is none to read. -/

namespace ReleaseControl

open Shape Store

/-! ## Specs -/

namespace ReleaseSpec

@[simp] theorem decode_toJson (s : ReleaseSpec) : decode s.toJson = .ok s :=
  decode_ofFields (by simp) (build_map (build_required.mpr ⟨.str s.releaseLink, by simp, rfl⟩))

end ReleaseSpec

namespace ReleaseLinkSpec

@[simp] theorem decode_toJson (s : ReleaseLinkSpec) : decode s.toJson = .ok s := by
  refine decode_ofFields (by simp) (build_seq (build_seq (build_seq (build_map ?_) ?_) ?_) ?_)
  · exact build_optional Json.str (fun _ => rfl) (by simp)
  · exact build_required.mpr ⟨.str s.target, by simp, rfl⟩
  · exact build_required.mpr ⟨.str s.application, by simp, rfl⟩
  · exact build_optional Json.str (fun _ => rfl) (by simp)

end ReleaseLinkSpec

namespace Param

@[simp] theorem decode_toJson (p : Param) : decode p.toJson = .ok p := by
  have hvalue : ∀ s, Decoder.string (Json.str s) = .ok s := fun _ => rfl
  refine decode_ofFields (by simp) (build_seq (build_seq (build_map ?_) ?_) ?_)
  · exact build_required.mpr ⟨.str p.name, by simp, rfl⟩
  · exact build_optional Json.str (fun _ => rfl) (by simp)
  · exact build_list hvalue (by simp)

end Param

namespace ReleaseStrategySpec

@[simp] theorem decode_toJson (s : ReleaseStrategySpec) : decode s.toJson = .ok s := by
  refine decode_ofFields (by simp)
    (build_seq (build_seq (build_seq (build_seq (build_map ?_) ?_) ?_) ?_) ?_)
  · exact build_required.mpr ⟨.str s.pipeline, by simp, rfl⟩
  · exact build_optional Json.str (fun _ => rfl) (by simp)
  · exact build_optional Json.str (fun _ => rfl) (by simp)
  · exact build_list Param.decode_toJson (by simp)
  · exact build_optional Json.str (fun _ => rfl) (by simp)

end ReleaseStrategySpec

/-! ## Records in a store -/

namespace Record

/-- What a store makes of the records of a type. -/
structure Upkeep (ρ : Type) where
  withMetadata : Metadata → ρ → ρ
  /-- What a creation leaves of the record it is given. -/
  initial : ρ → ρ
  /-- A stored record after a write of a part, which is taken from the record that comes first. -/
  withPart : Part → ρ → ρ → ρ

/-- The upkeep of records of metadata and a spec, which have no status to write. -/
def Upkeep.plain {ρ σ : Type} [Record ρ] (mk : Metadata → σ → ρ) (spec : ρ → σ) : Upkeep ρ where
  withMetadata m r := mk m (spec r)
  initial := id
  withPart
    | .spec, r, stored => mk (metadata stored) (spec r)
    | .status, _, stored => stored

/-- How records of a type are written and what is read from an object that a store has made of
one. -/
structure Storable (ρ : Type) [Record ρ] (upkeep : Upkeep ρ) : Prop where
  recordKind_toJson : ∀ r : ρ, (toJson r).recordKind = .ok (kind ρ)
  metadata_toJson : ∀ r : ρ, (toJson r).get? "metadata" = some (metadata r).toJson
  decode_toJson : ∀ r : ρ, decode (toJson r) = .ok r
  decode_remove_status : ∀ r : ρ, decode ((toJson r).remove "status") = .ok (upkeep.initial r)
  metadata_of_decode : ∀ {v : Json} {r : ρ}, v.isObject → decode v = .ok r →
    ∃ w, v.get? "metadata" = some w ∧ Metadata.decode w = .ok (metadata r)
  decode_set_metadata : ∀ {v : Json} {r : ρ}, v.isObject → decode v = .ok r → ∀ m : Metadata,
    decode (v.set "metadata" m.toJson) = .ok (upkeep.withMetadata m r)
  /-- The part that is written is read again, and so is what stays. -/
  decode_replacePart : ∀ {v : Json} {stored : ρ}, v.isObject → decode v = .ok stored → ∀ part r,
    decode (replacePart part v (toJson r)) = .ok (upkeep.withPart part r stored)
  metadata_withMetadata : ∀ m (r : ρ), metadata (upkeep.withMetadata m r) = m
  withMetadata_self : ∀ r : ρ, upkeep.withMetadata (metadata r) r = r
  withMetadata_withMetadata : ∀ m m' (r : ρ),
    upkeep.withMetadata m (upkeep.withMetadata m' r) = upkeep.withMetadata m r
  withPart_self : ∀ part (r : ρ), upkeep.withPart part r r = r

/-- Records of metadata and a spec, written one after the other. -/
structure Plain (ρ : Type) [Record ρ] {σ : Type} (mk : Metadata → σ → ρ) (spec : ρ → σ)
    (read : Decoder σ) (write : σ → Json) : Prop where
  decode_eq : ∃ type, (decode : Decoder ρ) =
    Shape.decode type (mk <$> required "metadata" Metadata.decode <*> required "spec" read)
  toJson_eq : ∀ r : ρ, toJson r = .ofFields [("kind", some (.str (kind ρ))),
    ("metadata", some (metadata r).toJson), ("spec", some (write (spec r)))]
  read_write : ∀ s, read (write s) = .ok s
  metadata_mk : ∀ m s, metadata (mk m s) = m
  spec_mk : ∀ m s, spec (mk m s) = s
  mk_eta : ∀ r, mk (metadata r) (spec r) = r

namespace Plain

variable {ρ σ : Type} [Record ρ] {mk : Metadata → σ → ρ} {spec : ρ → σ} {read : Decoder σ}
  {write : σ → Json} {v : Json} {r : ρ}

/-- What a record that was read says about the members of its object. -/
theorem members_of_decode (h : Plain ρ mk spec read write) (hv : v.isObject)
    (hr : decode v = .ok r) :
    (∃ w, v.get? "metadata" = some w ∧ Metadata.decode w = .ok (metadata r)) ∧
      ∃ w, v.get? "spec" = some w ∧ read w = .ok (spec r) := by
  obtain ⟨type, hdecode⟩ := h.decode_eq
  rw [hdecode] at hr
  obtain ⟨f, s, hf, hs, rfl⟩ := of_build_seq (build_of_decode hv hr)
  obtain ⟨m, hm, rfl⟩ := of_build_map hf
  rw [h.metadata_mk, h.spec_mk]
  exact ⟨build_required.mp hm, build_required.mp hs⟩

/-- The members that make one. -/
theorem build_of_members (h : Plain ρ mk spec read write) {find : String → Option Json}
    (hm : ∃ w, find "metadata" = some w ∧ Metadata.decode w = .ok (metadata r))
    (hs : ∃ w, find "spec" = some w ∧ read w = .ok (spec r)) :
    (mk <$> required "metadata" Metadata.decode <*> required "spec" read).build find = .ok r := by
  rw [← h.mk_eta r]
  exact build_seq (build_map (build_required.mpr hm)) (build_required.mpr hs)

theorem decode_toJson (h : Plain ρ mk spec read write) (r : ρ) : decode (toJson r) = .ok r := by
  obtain ⟨type, hdecode⟩ := h.decode_eq
  rw [hdecode, h.toJson_eq]
  refine decode_ofFields (by simp) (h.build_of_members ?_ ?_)
  · exact ⟨_, by simp, Metadata.decode_toJson _⟩
  · exact ⟨_, by simp, h.read_write _⟩

theorem decode_remove_status (h : Plain ρ mk spec read write) (hv : v.isObject)
    (hr : decode v = .ok r) : decode (v.remove "status") = .ok r := by
  obtain ⟨hm, hs⟩ := h.members_of_decode hv hr
  obtain ⟨type, hdecode⟩ := h.decode_eq
  rw [hdecode] at hr ⊢
  refine decode_remove hv hr (h.build_of_members ?_ ?_)
  · rwa [Json.get?_remove_ne (by simp)]
  · rwa [Json.get?_remove_ne (by simp)]

theorem decode_set_metadata (h : Plain ρ mk spec read write) (hv : v.isObject)
    (hr : decode v = .ok r) (m : Metadata) :
    decode (v.set "metadata" m.toJson) = .ok (mk m (spec r)) := by
  obtain ⟨-, hs⟩ := h.members_of_decode hv hr
  obtain ⟨type, hdecode⟩ := h.decode_eq
  rw [hdecode] at hr ⊢
  refine decode_set hv hr (h.build_of_members ?_ ?_)
  · rw [h.metadata_mk]
    exact ⟨_, Json.get?_set_self hv _ _, Metadata.decode_toJson m⟩
  · rwa [h.spec_mk, Json.get?_set_ne (by simp)]

theorem decode_replacePart (h : Plain ρ mk spec read write) {stored : ρ} (hv : v.isObject)
    (hstored : decode v = .ok stored) (part : Part) (r : ρ) :
    decode (replacePart part v (toJson r)) =
      .ok ((Upkeep.plain mk spec).withPart part r stored) := by
  cases part with
  | spec =>
      have hspec : newSpec (toJson r) = write (spec r) := by simp [newSpec, h.toJson_eq]
      obtain ⟨hm, -⟩ := h.members_of_decode hv hstored
      obtain ⟨type, hdecode⟩ := h.decode_eq
      show decode (v.set "spec" (newSpec (toJson r))) = .ok (mk (metadata stored) (spec r))
      rw [hspec]
      rw [hdecode] at hstored ⊢
      refine decode_set hv hstored (h.build_of_members ?_ ?_)
      · rwa [h.metadata_mk, Json.get?_set_ne (by simp)]
      · rw [h.spec_mk]
        exact ⟨_, Json.get?_set_self hv _ _, h.read_write _⟩
  | status =>
      have hnone : (toJson r).get? "status" = none := by simp [h.toJson_eq]
      simp only [replacePart, hnone]
      exact h.decode_remove_status hv hstored

theorem storable (h : Plain ρ mk spec read write) : Storable ρ (.plain mk spec) where
  recordKind_toJson r := Json.recordKind_eq_ok.mpr (by simp [h.toJson_eq])
  metadata_toJson r := by simp [h.toJson_eq]
  decode_toJson := h.decode_toJson
  decode_remove_status r := h.decode_remove_status (by rw [h.toJson_eq]; rfl) (h.decode_toJson r)
  metadata_of_decode hv hr := (h.members_of_decode hv hr).1
  decode_set_metadata hv hr m := h.decode_set_metadata hv hr m
  decode_replacePart hv hstored part r := h.decode_replacePart hv hstored part r
  metadata_withMetadata _ _ := h.metadata_mk _ _
  withMetadata_self r := h.mk_eta r
  withMetadata_withMetadata m m' r := congrArg (mk m) (h.spec_mk m' (spec r))
  withPart_self
    | .spec, r => h.mk_eta r
    | .status, _ => rfl

end Plain

end Record

/-! ## The four types -/

open Record

theorem ReleaseLink.plain :
    Plain ReleaseLink mk spec ReleaseLinkSpec.decode ReleaseLinkSpec.toJson :=
  ⟨⟨_, rfl⟩, fun _ => rfl, ReleaseLinkSpec.decode_toJson, fun _ _ => rfl, fun _ _ => rfl,
    fun _ => rfl⟩

theorem ReleaseLink.storable : Storable ReleaseLink (.plain mk spec) := plain.storable

theorem ReleaseStrategy.plain :
    Plain ReleaseStrategy mk spec ReleaseStrategySpec.decode ReleaseStrategySpec.toJson :=
  ⟨⟨_, rfl⟩, fun _ => rfl, ReleaseStrategySpec.decode_toJson, fun _ _ => rfl, fun _ _ => rfl,
    fun _ => rfl⟩

theorem ReleaseStrategy.storable : Storable ReleaseStrategy (.plain mk spec) := plain.storable

theorem PipelineRun.plain :
    Plain PipelineRun mk spec PipelineRunSpec.decode PipelineRunSpec.toJson :=
  ⟨⟨_, rfl⟩, fun _ => rfl, PipelineRunSpec.decode_toJson, fun _ _ => rfl, fun _ _ => rfl,
    fun _ => rfl⟩

theorem PipelineRun.storable : Storable PipelineRun (.plain mk spec) := plain.storable

namespace Release

variable {v : Json} {r : Release}

theorem decode_toJson (r : Release) : decode r.toJson = .ok r := by
  refine decode_ofFields (by simp) (build_of_members ?_ ?_ (.inr ?_))
  · exact ⟨r.metadata.toJson, by simp, Metadata.decode_toJson _⟩
  · exact ⟨r.spec.toJson, by simp, ReleaseSpec.decode_toJson _⟩
  · exact ⟨r.status.toJson, by simp, ReleaseStatus.decode_toJson _⟩

/-- A Release without a status is read with the empty one. -/
theorem decode_remove_status (hv : v.isObject) (hr : decode v = .ok r) :
    decode (v.remove "status") = .ok { r with status := .empty } := by
  obtain ⟨hmetadata, hspec, -⟩ := members_of_decode hv hr
  refine decode_remove hv hr (build_of_members ?_ ?_ (.inl ⟨Json.get?_remove_self _ _, rfl⟩))
  · rwa [Json.get?_remove_ne (by simp)]
  · rwa [Json.get?_remove_ne (by simp)]

/-- A creation leaves the status empty, and a write of spec or status leaves the other. -/
def upkeep : Upkeep Release where
  withMetadata metadata r := { r with metadata }
  initial r := { r with status := .empty }
  withPart
    | .spec, r, stored => { stored with spec := r.spec }
    | .status, r, stored => { stored with status := r.status }

theorem decode_replacePart {stored : Release} (hv : v.isObject) (hstored : decode v = .ok stored)
    (part : Part) (r : Release) :
    decode (replacePart part v r.toJson) = .ok (upkeep.withPart part r stored) := by
  cases part with
  | spec =>
      have hspec : newSpec r.toJson = r.spec.toJson := by simp [newSpec, toJson]
      obtain ⟨hmetadata, -, hstatus⟩ := members_of_decode hv hstored
      rw [replacePart, hspec]
      refine decode_set hv hstored (build_of_members ?_ ?_ ?_)
      · rwa [Json.get?_set_ne (by simp)]
      · exact ⟨_, Json.get?_set_self hv _ _, ReleaseSpec.decode_toJson _⟩
      · rwa [Json.get?_set_ne (by simp)]
  | status =>
      have hstatus : r.toJson.get? "status" = some r.status.toJson := by simp [toJson]
      simp only [replacePart, hstatus]
      exact decode_set_status hv hstored r.status

theorem storable : Storable Release upkeep where
  recordKind_toJson r := Json.recordKind_eq_ok.mpr (by simp [Record.toJson, Record.kind, toJson])
  metadata_toJson r := by simp [Record.toJson, Record.metadata, toJson]
  decode_toJson := decode_toJson
  decode_remove_status r := decode_remove_status rfl r.decode_toJson
  metadata_of_decode hv hr := (members_of_decode hv hr).1
  decode_set_metadata hv hr m := decode_set_metadata hv hr m
  decode_replacePart hv hstored part r := decode_replacePart hv hstored part r
  metadata_withMetadata _ _ := rfl
  withMetadata_self _ := rfl
  withMetadata_withMetadata _ _ _ := rfl
  withPart_self
    | .spec, _ | .status, _ => rfl

end Release

end ReleaseControl
