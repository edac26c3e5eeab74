import ReleaseControl.Proofs.Store.Objects
import ReleaseControl.Store.Program

/-! # What a store call does

Every call leaves the store alone, or it creates, revises or deletes exactly one record
(`Store.Effect`). The lemmas name the record that is written and say when a call gets that far;
what later proofs need of the store they take from here and do not open the calls again. -/

namespace ReleaseControl

namespace StoredRecord

/-- The metadata of a new record. -/
def createdMetadata (uid now version : String) (m : Metadata) : Metadata :=
  { m with
    uid := some uid, generation := some 1, resourceVersion := some version, createdAt := some now }

/-- The record that a creation stores. -/
def created (uid now version kind : String) (object : Json) (m : Metadata) : StoredRecord :=
  ⟨kind, m.key, uid, 1, none, version,
    (object.remove "status").set "metadata" (createdMetadata uid now version m).toJson⟩

/-- The generation after a write. -/
def revisedGeneration (part : Store.Part) (existing : StoredRecord) (object : Json) : Int64 :=
  match part with
  | .spec =>
    if Store.specChanges existing.object object then existing.generation + 1
    else existing.generation
  | .status => existing.generation

/-- An update may count a generation; a write to the status leaves it. -/
theorem revisedGeneration_cases (part : Store.Part) (existing : StoredRecord) (object : Json) :
    existing.revisedGeneration part object = existing.generation ∨
      part = .spec ∧ existing.revisedGeneration part object = existing.generation + 1 := by
  cases part with
  | status => exact .inl rfl
  | spec =>
      unfold revisedGeneration
      by_cases hchange : Store.specChanges existing.object object
      · exact .inr ⟨rfl, if_pos hchange⟩
      · exact .inl (if_neg hchange)

/-- The labels after a write. -/
def revisedLabels (part : Store.Part) (incoming kept : Metadata) : Labels :=
  match part with
  | .spec => incoming.labels
  | .status => kept.labels

/-- The metadata after a write; `kept` are those of the record, `incoming` came with the object. -/
def revisedMetadata (part : Store.Part) (version : String) (existing : StoredRecord)
    (incoming kept : Metadata) (object : Json) : Metadata :=
  { kept with
    labels := revisedLabels part incoming kept
    generation := some (existing.revisedGeneration part object)
    resourceVersion := some version }

/-- The record that a write leaves in place of an existing one. -/
def revised (part : Store.Part) (version kind : String) (existing : StoredRecord)
    (incoming kept : Metadata) (object : Json) : StoredRecord :=
  ⟨kind, incoming.key, existing.uid, existing.revisedGeneration part object,
    some existing.generation, version,
    (Store.replacePart part existing.object object).set "metadata"
      (existing.revisedMetadata part version incoming kept object).toJson⟩

end StoredRecord

namespace Store

/-! ## When a call gets through -/

@[simp] theorem mapError_ok {ε ε' α : Type} (f : ε → ε') (a : α) :
    (Except.ok a : Except ε α).mapError f = .ok a := rfl

@[simp] theorem mapError_error {ε ε' α : Type} (f : ε → ε') (e : ε) :
    (Except.error e : Except ε α).mapError f = .error (f e) := rfl

theorem checkKind_eq_ok {kind : String} {object : Json} :
    checkKind kind object = .ok () ↔ object.recordKind = .ok kind := by
  simp only [checkKind]
  cases h : object.recordKind with
  | error e => simp [bind, Except.bind]
  | ok found =>
      by_cases hfound : found = kind <;> simp [bind, Except.bind, hfound]

theorem checkNew_eq_ok {s : Store} {kind : String} {object : Json} {m : Metadata} :
    s.checkNew kind object = .ok m ↔
      object.recordKind = .ok kind ∧ object.recordMetadata = .ok m ∧
        Name.check m.name = .ok () ∧ s.get? kind m.key = none := by
  rw [← checkKind_eq_ok]
  simp only [checkNew]
  cases hkind : checkKind kind object with
  | error e => simp [bind, Except.bind]
  | ok u =>
      cases hmeta : object.recordMetadata with
      | error e => simp [bind, Except.bind]
      | ok a =>
          cases hname : Name.check a.name with
          | error e =>
              simp only [bind, Except.bind, hname, mapError_error, reduceCtorEq, true_and,
                Except.ok.injEq, false_iff]
              rintro ⟨rfl, h, -⟩
              rw [hname] at h
              cases h
          | ok u =>
              cases hget : s.get? kind a.key with
              | some r =>
                  simp only [bind, Except.bind, hname, hget, mapError_ok, Option.isSome_some,
                    if_true, reduceCtorEq, true_and, Except.ok.injEq, false_iff]
                  rintro ⟨rfl, -, h⟩
                  rw [hget] at h
                  cases h
              | none =>
                  simp only [bind, Except.bind, hname, hget, mapError_ok, Option.isSome_none,
                    Bool.false_eq_true, if_false, true_and, Except.ok.injEq]
                  constructor
                  · rintro rfl
                    exact ⟨rfl, hname, hget⟩
                  · rintro ⟨rfl, -, -⟩
                    rfl

/-- What a creation starts from is an object. -/
theorem isObject_of_checkNew {s : Store} {kind : String} {object : Json} {m : Metadata}
    (h : s.checkNew kind object = .ok m) : (object.remove "status").isObject := by
  obtain ⟨-, hmeta, -, -⟩ := checkNew_eq_ok.mp h
  rw [Json.isObject_remove]
  exact Json.isObject_of_recordMetadata hmeta

/-- An object that could be created but for the record in its slot. -/
theorem checkNew_of_taken {s : Store} {kind : String} {object : Json} {m : Metadata}
    (hkind : object.recordKind = .ok kind) (hmeta : object.recordMetadata = .ok m)
    (hname : Name.check m.name = .ok ()) (htaken : (s.get? kind m.key).isSome) :
    s.checkNew kind object = .error (.alreadyExists kind m.key.text) := by
  simp only [checkNew, checkKind_eq_ok.mpr hkind, hmeta, hname, htaken, bind, Except.bind,
    mapError_ok, if_true]

theorem revise_eq_ok {s : Store} {kind : String} {object : Json} {existing : StoredRecord}
    {incoming : Metadata} :
    s.revise kind object = .ok (existing, incoming) ↔
      object.recordKind = .ok kind ∧ object.recordMetadata = .ok incoming ∧
        s.get? kind incoming.key = some existing ∧
        ∀ v, incoming.resourceVersion = some v → v = existing.resourceVersion := by
  rw [← checkKind_eq_ok]
  simp only [revise]
  cases hkind : checkKind kind object with
  | error e => simp [bind, Except.bind]
  | ok u =>
      cases hmeta : object.recordMetadata with
      | error e => simp [bind, Except.bind]
      | ok m =>
          -- no record, one that need not have a version, or one that is compared
          simp only [bind, Except.bind, true_and, Except.ok.injEq]
          cases hget : s.get? kind m.key with
          | none =>
              simp only [reduceCtorEq, false_iff]
              rintro ⟨rfl, h, -⟩
              rw [hget] at h
              cases h
          | some r =>
              cases hversion : m.resourceVersion with
              | none =>
                  simp only [Except.ok.injEq, Prod.mk.injEq]
                  constructor
                  · rintro ⟨rfl, rfl⟩
                    exact ⟨rfl, hget, by simp [hversion]⟩
                  · rintro ⟨rfl, h, -⟩
                    exact ⟨Option.some.inj (hget.symm.trans h), rfl⟩
              | some v =>
                  by_cases hv : v = r.resourceVersion
                  · simp only [hv, if_true, Except.ok.injEq, Prod.mk.injEq]
                    constructor
                    · rintro ⟨rfl, rfl⟩
                      exact ⟨rfl, hget, by simp [hversion, hv]⟩
                    · rintro ⟨rfl, h, -⟩
                      exact ⟨Option.some.inj (hget.symm.trans h), rfl⟩
                  · simp only [hv, if_false, reduceCtorEq, false_iff]
                    rintro ⟨rfl, h, hall⟩
                    rw [Option.some.inj (hget.symm.trans h)] at hv
                    exact hv (hall v hversion)

/-- A write to a record that is not there. -/
theorem revise_of_none {s : Store} {kind : String} {object : Json} {m : Metadata}
    (hkind : object.recordKind = .ok kind) (hmeta : object.recordMetadata = .ok m)
    (hnone : s.get? kind m.key = none) :
    s.revise kind object = .error (.notFound kind m.key.text) := by
  simp only [revise, checkKind_eq_ok.mpr hkind, hmeta, hnone, bind, Except.bind]

/-- A write that was made for another version of the record. -/
theorem revise_of_conflict {s : Store} {kind v : String} {object : Json} {m : Metadata}
    {existing : StoredRecord} (hkind : object.recordKind = .ok kind)
    (hmeta : object.recordMetadata = .ok m) (hget : s.get? kind m.key = some existing)
    (hversion : m.resourceVersion = some v) (hne : v ≠ existing.resourceVersion) :
    s.revise kind object = .error (.versionConflict v existing.resourceVersion) := by
  simp only [revise, checkKind_eq_ok.mpr hkind, hmeta, hget, hversion, if_neg hne, bind,
    Except.bind]

/-! ## Failures of the store itself are settled -/

/-- A computation that failed did so in its first part or in the rest. -/
theorem bind_error_cases {ε α β : Type} {x : Except ε α} {f : α → Except ε β} {e : ε}
    (h : x.bind f = .error e) : x = .error e ∨ ∃ a, x = .ok a ∧ f a = .error e := by
  cases x with
  | error e' => exact .inl (congrArg Except.error (Except.error.inj h))
  | ok a => exact .inr ⟨a, rfl, h⟩

/-- A computation that succeeded did so in its first part and in the rest. -/
theorem exists_of_bind_ok {ε α β : Type} {x : Except ε α} {f : α → Except ε β} {b : β}
    (h : x.bind f = .ok b) : ∃ a, x = .ok a ∧ f a = .ok b := by
  cases x with
  | error e => cases h
  | ok a => exact ⟨a, rfl, h⟩

theorem eq_ok_of_mapError {ε ε' α : Type} {x : Except ε α} {f : ε → ε'} {a : α}
    (h : x.mapError f = .ok a) : x = .ok a := by
  cases x with
  | error e => cases h
  | ok a' => exact congrArg Except.ok (Except.ok.inj h)

theorem mapError_eq_error {ε ε' α : Type} {x : Except ε α} {f : ε → ε'} {e : ε'}
    (h : x.mapError f = .error e) : ∃ e', x = .error e' ∧ f e' = e := by
  cases x with
  | error e' => exact ⟨e', rfl, Except.error.inj h⟩
  | ok a => cases h

theorem map_eq_error {ε α β : Type} {x : Except ε α} {f : α → β} {e : ε}
    (h : x.map f = .error e) : x = .error e := by
  cases x with
  | error e' => exact congrArg Except.error (Except.error.inj h)
  | ok a => cases h

theorem isTransient_of_recordMetadata {object : Json} {e : StoreError}
    (h : object.recordMetadata = .error e) : e.isTransient = false := by
  simp only [Json.recordMetadata] at h
  split at h
  · cases h; rfl
  · split at h
    · cases h; rfl
    · split at h
      · cases h; rfl
      · split at h
        · cases h; rfl
        · cases h

theorem isTransient_of_recordKind {object : Json} {e : StoreError}
    (h : object.recordKind = .error e) : e.isTransient = false := by
  simp only [Json.recordKind] at h
  split at h
  · cases h
  · cases h; rfl

theorem isTransient_of_checkKind {kind : String} {object : Json} {e : StoreError}
    (h : checkKind kind object = .error e) : e.isTransient = false := by
  rcases bind_error_cases h with h | ⟨found, -, h⟩
  · exact isTransient_of_recordKind h
  · split at h
    · cases h
    · cases h; rfl

theorem isTransient_of_checkNew {s : Store} {kind : String} {object : Json} {e : StoreError}
    (h : s.checkNew kind object = .error e) : e.isTransient = false := by
  rcases bind_error_cases h with h | ⟨-, -, h⟩
  · exact isTransient_of_checkKind h
  rcases bind_error_cases h with h | ⟨m, -, h⟩
  · exact isTransient_of_recordMetadata h
  rcases bind_error_cases h with h | ⟨-, -, h⟩
  · obtain ⟨e', -, rfl⟩ := mapError_eq_error h
    rfl
  · split at h
    · cases h; rfl
    · cases h

theorem isTransient_of_selectMatching {q : Query} {rs : List StoredRecord} {e : StoreError}
    (h : selectMatching q rs = .error e) : e.isTransient = false := by
  induction rs with
  | nil => cases h
  | cons r rest ih =>
      rcases bind_error_cases h with h | ⟨m, -, h⟩
      · exact isTransient_of_recordMetadata h
      · rcases bind_error_cases h with h | ⟨kept, -, h⟩
        · exact ih h
        · cases h

theorem isTransient_of_list {s : Store} {kind : String} {q : Query} {e : StoreError}
    (h : s.list kind q = .error e) : e.isTransient = false := by
  rcases bind_error_cases h with h | ⟨rs, -, h⟩
  · -- the index is the only thing that can be missing
    simp only [candidates] at h
    split at h
    · cases h
    · split at h
      · cases h
      · cases h; rfl
  · rcases bind_error_cases h with h | ⟨kept, -, h⟩
    · exact isTransient_of_selectMatching h
    · cases h

/-! ## The stores that calls leave -/

/-- The store with a new record. -/
def accept (r : StoredRecord) (s : Store) : Store :=
  ({ s with nextVersion := s.nextVersion + 1 }.indexRecord r.kind r).place r

/-- The store with a record in place of an existing one. -/
def supersede (existing r : StoredRecord) (s : Store) : Store :=
  (({ s with nextVersion := s.nextVersion + 1 }.unindexRecord r.kind existing).indexRecord
    r.kind r).place r

/-- The store without the record of a slot. -/
def expel (kind : String) (key : RecordKey) (r : StoredRecord) (s : Store) : Store :=
  { s with slots := Assoc.remove (slot kind key) s.slots }.unindexRecord kind r

@[simp] theorem slots_accept (r : StoredRecord) (s : Store) :
    (s.accept r).slots = Assoc.put (slot r.kind r.key) r s.slots := rfl

@[simp] theorem slots_supersede (existing r : StoredRecord) (s : Store) :
    (s.supersede existing r).slots = Assoc.put (slot r.kind r.key) r s.slots := rfl

@[simp] theorem slots_expel (kind : String) (key : RecordKey) (r : StoredRecord) (s : Store) :
    (s.expel kind key r).slots = Assoc.remove (slot kind key) s.slots := rfl

@[simp] theorem nextVersion_accept (r : StoredRecord) (s : Store) :
    (s.accept r).nextVersion = s.nextVersion + 1 := rfl

@[simp] theorem nextVersion_supersede (existing r : StoredRecord) (s : Store) :
    (s.supersede existing r).nextVersion = s.nextVersion + 1 := rfl

@[simp] theorem nextVersion_expel (kind : String) (key : RecordKey) (r : StoredRecord)
    (s : Store) : (s.expel kind key r).nextVersion = s.nextVersion := rfl

theorem create_of_checkNew {s : Store} {uid now kind : String} {object : Json} {m : Metadata}
    (h : s.checkNew kind object = .ok m) :
    s.create uid now kind object =
      (.ok (.created uid now (toString s.nextVersion) kind object m),
        s.accept (.created uid now (toString s.nextVersion) kind object m)) := by
  simp only [create, h, drawVersion, Json.withMetadata_eq (isObject_of_checkNew h)]
  rfl

theorem create_of_error {s : Store} {uid now kind : String} {object : Json} {e : StoreError}
    (h : s.checkNew kind object = .error e) : s.create uid now kind object = (.error e, s) := by
  simp only [create, h]

/-- A creation that the store refuses is refused for good. -/
theorem isTransient_of_create {s : Store} {uid now kind : String} {object : Json} {e : StoreError}
    (h : (s.create uid now kind object).1 = .error e) : e.isTransient = false := by
  cases hnew : s.checkNew kind object with
  | error e' =>
      rw [create_of_error hnew] at h
      cases h
      exact isTransient_of_checkNew hnew
  | ok m =>
      rw [create_of_checkNew hnew] at h
      cases h

theorem write_of_revise {s : Store} {part : Part} {kind : String} {object : Json}
    {existing : StoredRecord} {incoming kept : Metadata}
    (h : s.revise kind object = .ok (existing, incoming))
    (hkept : existing.object.recordMetadata = .ok kept) :
    s.write part kind object =
      (.ok (existing.revised part (toString s.nextVersion) kind incoming kept object),
        s.supersede existing
          (existing.revised part (toString s.nextVersion) kind incoming kept object)) := by
  have hobject := Json.isObject_of_recordMetadata hkept
  have hreplaced : (replacePart part existing.object object).isObject := by
    cases part with
    | spec => simpa [replacePart] using hobject
    | status =>
        simp only [replacePart]
        cases object.get? "status" <;> simpa using hobject
  -- both kinds of write draw a version and set the metadata in the same way
  cases part <;>
  · simp only [write, h, hkept, drawVersion, Json.withMetadata_eq hreplaced]
    rfl

theorem write_of_error {s : Store} {part : Part} {kind : String} {object : Json} {e : StoreError}
    (h : s.revise kind object = .error e) : s.write part kind object = (.error e, s) := by
  simp only [write, h]

theorem delete_of_get? {s : Store} {kind : String} {key : RecordKey} {r : StoredRecord}
    (h : s.get? kind key = some r) : s.delete kind key = (.ok r, s.expel kind key r) := by
  simp only [delete, h]
  rfl

theorem delete_of_none {s : Store} {kind : String} {key : RecordKey}
    (h : s.get? kind key = none) :
    s.delete kind key = (.error (.notFound kind key.text), s) := by
  simp only [delete, h]

/-! ## One call -/

/-- The stores that a call can leave. -/
inductive Effect (uid now : String) (s : Store) : StoreCall → Store → Prop where
  | nothing (c : StoreCall) : Effect uid now s c s
  | created {kind : String} {object : Json} {m : Metadata}
      (hnew : s.checkNew kind object = .ok m) :
      Effect uid now s (.create kind object)
        (s.accept (.created uid now (toString s.nextVersion) kind object m))
  | updated {kind : String} {object : Json} {existing : StoredRecord} {incoming kept : Metadata}
      (hrevise : s.revise kind object = .ok (existing, incoming))
      (hkept : existing.object.recordMetadata = .ok kept) :
      Effect uid now s (.update kind object) (s.supersede existing
        (existing.revised .spec (toString s.nextVersion) kind incoming kept object))
  | statusUpdated {kind : String} {object : Json} {existing : StoredRecord}
      {incoming kept : Metadata}
      (hrevise : s.revise kind object = .ok (existing, incoming))
      (hkept : existing.object.recordMetadata = .ok kept) :
      Effect uid now s (.updateStatus kind object) (s.supersede existing
        (existing.revised .status (toString s.nextVersion) kind incoming kept object))
  | deleted {kind : String} {key : RecordKey} {r : StoredRecord} (hget : s.get? kind key = some r) :
      Effect uid now s (.delete kind key) (s.expel kind key r)

/-- What a call can answer, and what it leaves then. -/
inductive Performed (uid now : String) (s : Store) :
    (c : StoreCall) → Except StoreError c.Reply → Store → Prop where
  | got (kind : String) (key : RecordKey) (reply : Except StoreError (Option StoredRecord)) :
      Performed uid now s (.get kind key) reply s
  | listed (kind : String) (query : Query) (reply : Except StoreError (List StoredRecord)) :
      Performed uid now s (.list kind query) reply s
  | refused (c : StoreCall) (e : StoreError) : Performed uid now s c (.error e) s
  | created {kind : String} {object : Json} {m : Metadata}
      (hnew : s.checkNew kind object = .ok m) :
      Performed uid now s (.create kind object)
        (.ok (.created uid now (toString s.nextVersion) kind object m))
        (s.accept (.created uid now (toString s.nextVersion) kind object m))
  | updated {kind : String} {object : Json} {existing : StoredRecord} {incoming kept : Metadata}
      (hrevise : s.revise kind object = .ok (existing, incoming))
      (hkept : existing.object.recordMetadata = .ok kept) :
      Performed uid now s (.update kind object)
        (.ok (existing.revised .spec (toString s.nextVersion) kind incoming kept object))
        (s.supersede existing
          (existing.revised .spec (toString s.nextVersion) kind incoming kept object))
  | statusUpdated {kind : String} {object : Json} {existing : StoredRecord}
      {incoming kept : Metadata}
      (hrevise : s.revise kind object = .ok (existing, incoming))
      (hkept : existing.object.recordMetadata = .ok kept) :
      Performed uid now s (.updateStatus kind object)
        (.ok (existing.revised .status (toString s.nextVersion) kind incoming kept object))
        (s.supersede existing
          (existing.revised .status (toString s.nextVersion) kind incoming kept object))
  | deleted {kind : String} {key : RecordKey} {r : StoredRecord} (hget : s.get? kind key = some r) :
      Performed uid now s (.delete kind key) (.ok r) (s.expel kind key r)

theorem write_cases (s : Store) (part : Part) (kind : String) (object : Json) :
    (∃ e, s.write part kind object = (.error e, s)) ∨ ∃ existing incoming kept,
      s.revise kind object = .ok (existing, incoming) ∧
        existing.object.recordMetadata = .ok kept := by
  cases hrevise : s.revise kind object with
  | error e => exact .inl ⟨e, write_of_error hrevise⟩
  | ok pair =>
      obtain ⟨existing, incoming⟩ := pair
      cases hkept : existing.object.recordMetadata with
      | error e => exact .inl ⟨e, by simp only [write, hrevise, hkept]⟩
      | ok kept => exact .inr ⟨existing, incoming, kept, rfl, hkept⟩

theorem performed (uid now : String) (s : Store) (c : StoreCall) :
    Performed uid now s c (s.perform uid now c).1 (s.perform uid now c).2 := by
  cases c with
  | get kind key => exact .got _ _ _
  | list kind query => exact .listed _ _ _
  | create kind object =>
      show Performed uid now s (.create kind object) (s.create uid now kind object).1
        (s.create uid now kind object).2
      cases h : s.checkNew kind object with
      | error e => rw [create_of_error h]; exact .refused _ e
      | ok m => rw [create_of_checkNew h]; exact .created h
  | update kind object =>
      show Performed uid now s (.update kind object) (s.write .spec kind object).1
        (s.write .spec kind object).2
      rcases s.write_cases .spec kind object with ⟨e, h⟩ | ⟨existing, incoming, kept, h, hkept⟩
      · rw [h]; exact .refused _ e
      · rw [write_of_revise h hkept]; exact .updated h hkept
  | updateStatus kind object =>
      show Performed uid now s (.updateStatus kind object) (s.write .status kind object).1
        (s.write .status kind object).2
      rcases s.write_cases .status kind object with ⟨e, h⟩ | ⟨existing, incoming, kept, h, hkept⟩
      · rw [h]; exact .refused _ e
      · rw [write_of_revise h hkept]; exact .statusUpdated h hkept
  | delete kind key =>
      show Performed uid now s (.delete kind key) (s.delete kind key).1 (s.delete kind key).2
      cases h : s.get? kind key with
      | none => rw [delete_of_none h]; exact .refused _ _
      | some r => rw [delete_of_get? h]; exact .deleted h

theorem Performed.effect {uid now : String} {s s' : Store} {c : StoreCall}
    {reply : Except StoreError c.Reply} (h : Performed uid now s c reply s') :
    Effect uid now s c s' := by
  cases h with
  | got | listed | refused => exact .nothing _
  | created hnew => exact .created hnew
  | updated hrevise hkept => exact .updated hrevise hkept
  | statusUpdated hrevise hkept => exact .statusUpdated hrevise hkept
  | deleted hget => exact .deleted hget

theorem perform_effect (uid now : String) (s : Store) (c : StoreCall) :
    Effect uid now s c (s.perform uid now c).2 :=
  (performed uid now s c).effect

end Store

end ReleaseControl
