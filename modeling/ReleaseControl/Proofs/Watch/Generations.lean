import ReleaseControl.Proofs.Store.Ownership
import ReleaseControl.Proofs.Store.Update
import ReleaseControl.Proofs.Watch.Log

/-! # What an update counts as a change

An update counts a generation when the spec it brings is not the stored one. Of an object without a
spec the store makes one with spec `null`, but to a stored record without a spec nothing is equal.
So the count is that of a reader of the specs, to whom two missing ones are equal
(`Json.sameSpec`), except for updates that bring no spec to a record that has none or has `null`
(`Store.specChanges_eq_iff`).

Clients write back what they have read. This leaves a record that has a spec as it was, but for the
version. One that has none gets the spec `null` and a new generation, and if it is a Release the
controller is called for it (`StoredRecord.WrittenBack`). -/

namespace ReleaseControl

/-! ## Comparing specs -/

namespace Json

mutual

theorem same_refl : ∀ v : Json, v.same v = true
  | .null => rfl
  | .bool b | .int b | .str b => beq_self_eq_true b
  | .float bits => by simp [same, sameFloat]
  | .arr items => sameItems_refl items
  | .obj members => sameMembers_refl members

theorem sameItems_refl : ∀ items : List Json, sameItems items items = true
  | [] => rfl
  | v :: rest => by rw [sameItems, same_refl v, sameItems_refl rest]; rfl

theorem sameMembers_refl : ∀ members : List (String × Json), sameMembers members members = true
  | [] => rfl
  | (name, v) :: rest => by
      rw [sameMembers, same_refl v, sameMembers_refl rest, beq_self_eq_true]; rfl

end

theorem same_null_iff {v : Json} : v.same .null ↔ v = .null := by
  cases v <;> simp [same]

/-- The comparison of two specs, each of which may be missing. -/
def sameSpec : Option Json → Option Json → Bool
  | none, none => true
  | some v, some w => v.same w
  | none, some _ | some _, none => false

end Json

namespace Store

open Json

/-- The store compares specs in this way, if the object brings one, or else if the record has one
that is not `null`. -/
theorem specChanges_eq_iff {record object : Json} :
    specChanges record object = !sameSpec (record.get? "spec") (object.get? "spec") ↔
      (object.get? "spec" = none → ∃ old, record.get? "spec" = some old ∧ old ≠ .null) := by
  cases hnew : object.get? "spec" with
  | some v =>
      have hspec : newSpec object = v := by rw [newSpec, hnew]; rfl
      refine iff_of_true ?_ (fun h => by cases h)
      cases hold : record.get? "spec" <;> simp [specChanges, hold, hspec, sameSpec]
  | none =>
      have hspec : newSpec object = .null := by rw [newSpec, hnew]; rfl
      cases hold : record.get? "spec" with
      | none => simp [specChanges, hold, sameSpec]
      | some old => simp [specChanges, hold, hspec, sameSpec, ← same_null_iff]

/-- When a spec counts as changed. -/
theorem specChanges_iff {record object : Json} : specChanges record object ↔
    ∀ old, record.get? "spec" = some old → old.same (newSpec object) = false := by
  cases hold : record.get? "spec" <;> simp [specChanges, hold]

/-- A record that is written over itself counts as changed if it has no spec. -/
theorem specChanges_self (record : Json) :
    specChanges record record = (record.get? "spec").isNone := by
  cases hspec : record.get? "spec" with
  | none => simp [specChanges, hspec]
  | some v => simp [specChanges, hspec, newSpec, same_refl]

end Store

/-! ## An update -/

/-- The generation of a record after an update by an object. -/
structure StoredRecord.Counted (r : StoredRecord) (object : Json) (r' : StoredRecord) : Prop where
  previous : r'.previousGeneration = some r.generation
  raised : (∀ old, r.object.get? "spec" = some old → old.same (Store.newSpec object) = false) →
    r'.generation = r.generation + 1
  kept : (∃ old, r.object.get? "spec" = some old ∧ old.same (Store.newSpec object)) →
    r'.generation = r.generation
  /-- A reader of the specs counts the same, unless the update brings none to a record that has none
  or has `null`. -/
  law : (r'.generation = r.generation + 1 ↔
      Json.sameSpec (r.object.get? "spec") (object.get? "spec") = false) ↔
    (object.get? "spec" = none → ∃ old, r.object.get? "spec" = some old ∧ old ≠ .null)

/-- A record after it was written over itself; `m` are its metadata before. -/
structure StoredRecord.WrittenBack (r r' : StoredRecord) (m : Metadata) : Prop where
  uid : r'.uid = r.uid
  spec : r'.object.get? "spec" = some ((r.object.get? "spec").getD .null)
  generation : r'.generation =
    if (r.object.get? "spec").isSome then r.generation else r.generation + 1
  others : ∀ name, name ≠ "spec" → name ≠ "metadata" →
    r'.object.get? name = r.object.get? name
  metadata : r'.object.get? "metadata" = some
    { m with
      generation := some r'.generation, resourceVersion := some r'.resourceVersion }.toJson

namespace Store

open Json

section Updates

variable {s : Store} {kind version : String} {object : Json} {existing : StoredRecord}
  {incoming kept : Metadata}

theorem generation_revised_iff :
    (existing.revised .spec version kind incoming kept object).generation =
      existing.generation + 1 ↔ specChanges existing.object object := by
  show (if _ then _ else _) = _ ↔ _
  cases specChanges existing.object object with
  | true => simp
  | false => simp

theorem counted_revised :
    existing.Counted object (existing.revised .spec version kind incoming kept object) := by
  refine ⟨rfl, ?_, ?_, ?_⟩
  · intro hdiffers
    exact generation_revised_iff.mpr (specChanges_iff.mpr hdiffers)
  · rintro ⟨old, hold, hsame⟩
    exact StoredRecord.generation_revised_eq (by simp [specChanges, hold, hsame])
  · rw [generation_revised_iff, ← specChanges_eq_iff]
    cases specChanges existing.object object <;> cases sameSpec _ _ <;> simp

theorem counted_of_update (hs : s.Sound) {r' : StoredRecord}
    (h : (s.update kind object).1 = .ok r') :
    ∃ r incoming, object.recordMetadata = .ok incoming ∧ s.get? kind incoming.key = some r ∧
      r.Counted object r' := by
  cases hrevise : s.revise kind object with
  | error e =>
      rw [update, write_of_error hrevise] at h
      cases h
  | ok pair =>
      obtain ⟨existing, incoming⟩ := pair
      obtain ⟨-, hincoming, hget, -⟩ := revise_eq_ok.mp hrevise
      obtain ⟨kind₀, kept, hacc⟩ := hs.accounted hget
      rw [update, write_of_revise hrevise hacc.objectMetadata] at h
      cases h
      exact ⟨existing, incoming, hincoming, hget, counted_revised⟩

end Updates

/-! ## Writing back what was read -/

section WritingBack

variable {s : Store} {x kind : String} {r : StoredRecord} {m : Metadata}

/-- The record as it is written over itself. -/
def rewritten (s : Store) (kind : String) (r : StoredRecord) (m : Metadata) : StoredRecord :=
  r.revised .spec (toString s.nextVersion) kind m m r.object

theorem update_self (hx : Assoc.get? x s.slots = some r) (hacc : r.Accounted x kind m) :
    s.update kind r.object =
      (.ok (s.rewritten kind r m), s.supersede r (s.rewritten kind r m)) := by
  have hrevise := hacc.revise_eq hx hacc.objectKind hacc.objectMetadata
  exact write_of_revise hrevise hacc.objectMetadata

theorem generation_rewritten : (s.rewritten kind r m).generation =
    if (r.object.get? "spec").isSome then r.generation else r.generation + 1 := by
  show (if specChanges r.object r.object then r.generation + 1 else r.generation) = _
  rw [specChanges_self]
  cases r.object.get? "spec" <;> rfl

theorem writtenBack_rewritten (hobject : r.object.isObject) :
    r.WrittenBack (s.rewritten kind r m) m where
  uid := rfl
  spec := StoredRecord.get?_revised_part hobject
  generation := generation_rewritten
  others _ hspec hmetadata := StoredRecord.get?_revised_ne hspec hmetadata
  metadata := StoredRecord.get?_revised_metadata hobject

theorem isAccepted_rewritten :
    (WatchEvent.updated kind m.key r.generation (s.rewritten kind r m).generation).isAccepted ↔
      kind = Release.kind ∧ r.object.get? "spec" = none := by
  rw [WatchEvent.isAccepted_iff]
  refine and_congr_right fun _ => ?_
  show (some r.generation != some (s.rewritten kind r m).generation) ↔ _
  rw [generation_rewritten]
  cases r.object.get? "spec" <;> simp

end WritingBack

/-- On every store that calls can lead to, a successful update raises the generation by one if the
record has no spec or the update brings one that is not the same, and leaves it otherwise; what a
reader of the specs would count differs from this for updates without a spec only, on records
without a spec or with spec `null`. What was read from the store can be written back. This leaves
generation, spec and all else but the version if the record has a spec, and the controller is not
called for it. If it has none, it has spec `null` and a new generation afterwards, and the
controller is called for it if it is a Release. -/
theorem generations_count_specs {s : Store} (hs : Reachable s) :
    (∀ kind object r', (s.update kind object).1 = .ok r' →
      ∃ r incoming, object.recordMetadata = .ok incoming ∧ s.get? kind incoming.key = some r ∧
        r.Counted object r') ∧
      ∀ x r, Assoc.get? x s.slots = some r →
        ∃ kind m r' s' e, r.Accounted x kind m ∧ r.object.get? "metadata" = some m.toJson ∧
          s.update kind r.object = (.ok r', s') ∧ Assoc.get? x s'.slots = some r' ∧
            r.WrittenBack r' m ∧ (StoreCall.update kind r.object).told? (.ok r') = some e ∧
              (e.isAccepted ↔ kind = Release.kind ∧ r.object.get? "spec" = none) := by
  refine ⟨fun kind object r' h => counted_of_update hs.sound h, ?_⟩
  intro x r hx
  obtain ⟨kind, m, hacc⟩ := hs.sound.accounted hx
  have hobject := Json.isObject_of_recordMetadata hacc.objectMetadata
  refine ⟨kind, m, s.rewritten kind r m, s.supersede r (s.rewritten kind r m), _, hacc,
    hacc.metadata_of_canonical (hs.canonical x r hx), update_self hx hacc, ?_,
    writtenBack_rewritten hobject, rfl, isAccepted_rewritten⟩
  rw [hacc.slot]
  exact Assoc.get?_put_self _ _ _

/-- A Release that has a spec. -/
def drafted : Store := after .none [⟨"1", "", .create Release.kind (Watched.draft "a")⟩]

/-- It can be written back, and nobody is called for it. -/
theorem generations_count_specs_drafted :
    ∃ r r' s', drafted.get? Release.kind ⟨"w", "r"⟩ = some r ∧
      drafted.update Release.kind r.object = (.ok r', s') ∧ r'.generation = 1 ∧
        r'.object.get? "spec" = some (.str "a") ∧
          ∀ e, (StoreCall.update Release.kind r.object).told? (.ok r') = some e →
            e.isAccepted = false := by
  obtain ⟨r, hr, hkind, hgeneration, hspec⟩ :
      ∃ r, drafted.get? Release.kind ⟨"w", "r"⟩ = some r ∧
        r.object.recordKind = .ok Release.kind ∧ r.generation = 1 ∧
          r.object.get? "spec" = some (.str "a") := ⟨_, rfl, rfl, rfl, rfl⟩
  obtain ⟨kind, m, r', s', e, hacc, -, hupdate, -, hback, he, haccepted⟩ :=
    (generations_count_specs (reachable_after .none _)).2 _ r hr
  obtain rfl : kind = Release.kind := Except.ok.inj (hacc.objectKind.symm.trans hkind)
  refine ⟨r, r', s', hr, hupdate, ?_, ?_, ?_⟩
  · rw [hback.generation, hspec, hgeneration]
    rfl
  · rw [hback.spec, hspec]
    rfl
  · intro e' he'
    obtain rfl := Option.some.inj (he.symm.trans he')
    rw [hspec] at haccepted
    simpa using haccepted

/-- A Release that was created without a spec. -/
def unspecified : Store := after .none [⟨"1", "", .create Release.kind (.ofFields [
  ("kind", some (.str Release.kind)),
  ("metadata", some (Metadata.new ⟨"w", "r"⟩ .empty).toJson)])⟩]

/-- Written back, it has another spec and a new generation, and the controller is called for it. -/
theorem counted_without_spec :
    ∃ r r', unspecified.get? Release.kind ⟨"w", "r"⟩ = some r ∧ r.object.get? "spec" = none ∧
      (unspecified.update Release.kind r.object).1 = .ok r' ∧ r.generation = 1 ∧
        r'.generation = 2 ∧ r'.object.get? "spec" = some .null ∧
          ((StoreCall.update Release.kind r.object).told? (.ok r')).any (·.isAccepted) :=
  ⟨_, _, rfl, rfl, rfl, rfl, rfl, rfl, by decide +kernel⟩

end Store

end ReleaseControl
