import ReleaseControl.Proofs.Assoc
import ReleaseControl.Proofs.Name
import ReleaseControl.Proofs.Store.Effect

/-! # What holds of every store

The slot of a record, its object and the facts kept beside the object agree with each other, each
slot is listed once, and the versions given out are numbers below the next one (`Store.Sound`).
An empty store has all this and every call keeps it, so it holds of every store that calls can
lead to (`Reachable.sound`), whatever kinds and objects the calls bring. -/

namespace ReleaseControl

/-! ## Slots -/

/-- What stands before the first separator is determined by the whole. -/
theorem Text.append_cons_inj {sep : Char} {a b x y : List Char} (ha : sep ∉ a) (hb : sep ∉ b)
    (h : a ++ sep :: x = b ++ sep :: y) : a = b ∧ x = y := by
  induction a generalizing b with
  | nil =>
      cases b with
      | nil => exact ⟨rfl, (List.cons.inj h).2⟩
      | cons c b => exact absurd ((List.cons.inj h).1 ▸ List.mem_cons_self) hb
  | cons c a ih =>
      cases b with
      | nil => exact absurd ((List.cons.inj h).1 ▸ List.mem_cons_self) ha
      | cons d b =>
          simp only [List.mem_cons, not_or] at ha hb
          simp only [List.cons_append, List.cons.injEq] at h
          obtain ⟨rfl, rfl⟩ := ih ha.2 hb.2 h.2
          exact ⟨by rw [h.1], rfl⟩

theorem RecordKey.toList_text (k : RecordKey) :
    k.text.toList = k.workspace.toList ++ '/' :: k.name.toList := by
  simp [RecordKey.text, toString]

/-- Keys with valid names are told apart by their texts. -/
theorem RecordKey.text_inj {j k : RecordKey} (hj : '/' ∉ j.name.toList)
    (hk : '/' ∉ k.name.toList) (h : j.text = k.text) : j = k := by
  -- workspaces may have slashes in them, names may not: so the texts are split at the last one
  have hlist := congrArg (fun s : String => s.toList.reverse) h
  simp only [toList_text, List.reverse_append, List.reverse_cons, List.append_assoc,
    List.singleton_append] at hlist
  obtain ⟨hname, hspace⟩ :=
    Text.append_cons_inj (by simpa using hj) (by simpa using hk) hlist
  obtain ⟨jspace, jname⟩ := j
  obtain ⟨kspace, kname⟩ := k
  rw [RecordKey.mk.injEq]
  exact ⟨String.toList_inj.mp (List.reverse_inj.mp hspace),
    String.toList_inj.mp (List.reverse_inj.mp hname)⟩

namespace Store

theorem toList_slot (kind : String) (k : RecordKey) :
    (slot kind k).toList = kind.toList ++ '/' :: k.text.toList := by
  simp [slot, RecordKey.text, toString]

/-- Kinds without a slash do not share slots. -/
theorem slot_inj {kind kind' : String} {j k : RecordKey} (hkind : '/' ∉ kind.toList)
    (hkind' : '/' ∉ kind'.toList) (h : slot kind j = slot kind' k) :
    kind = kind' ∧ j.text = k.text := by
  have hlist := congrArg String.toList h
  rw [toList_slot, toList_slot] at hlist
  obtain ⟨hk, ht⟩ := Text.append_cons_inj hkind hkind' hlist
  exact ⟨String.toList_inj.mp hk, String.toList_inj.mp ht⟩

theorem slot_eq_iff {kind : String} {j k : RecordKey} :
    slot kind j = slot kind k ↔ j.text = k.text := by
  rw [← String.toList_inj, toList_slot, toList_slot, List.append_cancel_left_eq,
    List.cons.injEq, String.toList_inj, eq_self, true_and]

end Store

/-! ## Records that are accounted for -/

namespace Json

theorem recordKind_set {name : String} (h : name ≠ "kind") (v w : Json) :
    (v.set name w).recordKind = v.recordKind := by
  simp only [recordKind, get?_set_ne (Ne.symm h)]

theorem recordKind_remove {name : String} (h : name ≠ "kind") (v : Json) :
    (v.remove name).recordKind = v.recordKind := by
  simp only [recordKind, get?_remove_ne (Ne.symm h)]

end Json

/-- The object of a record names the kind and metadata that its slot and its facts tell. The kind
the record was last written under may be another one with the same slot. -/
structure StoredRecord.Accounted (x : String) (r : StoredRecord) (kind : String)
    (m : Metadata) : Prop where
  objectKind : r.object.recordKind = .ok kind
  objectMetadata : r.object.recordMetadata = .ok m
  name : Name.check m.name = .ok ()
  slot : x = Store.slot kind m.key
  place : x = Store.slot r.kind r.key
  uid : m.uid = some r.uid
  generation : m.generation = some r.generation
  version : m.resourceVersion = some r.resourceVersion

namespace Store

theorem recordKind_replacePart (part : Part) (record object : Json) :
    (replacePart part record object).recordKind = record.recordKind := by
  cases part with
  | spec => exact Json.recordKind_set (by simp) _ _
  | status =>
      simp only [replacePart]
      cases object.get? "status" with
      | none => exact Json.recordKind_remove (by simp) _
      | some status => exact Json.recordKind_set (by simp) _ _

theorem isObject_replacePart (part : Part) (record object : Json) :
    (replacePart part record object).isObject = record.isObject := by
  cases part with
  | spec => exact Json.isObject_set _ _ _
  | status =>
      simp only [replacePart]
      cases object.get? "status" with
      | none => exact Json.isObject_remove _ _
      | some status => exact Json.isObject_set _ _ _

theorem accounted_created {s : Store} {uid now version kind : String} {object : Json}
    {m : Metadata} (h : s.checkNew kind object = .ok m) :
    (StoredRecord.created uid now version kind object m).Accounted (slot kind m.key) kind
      (StoredRecord.createdMetadata uid now version m) := by
  obtain ⟨hkind, hmeta, hname, -⟩ := checkNew_eq_ok.mp h
  obtain ⟨-, hspace, hnonempty⟩ := Json.recordMetadata_eq_ok.mp hmeta
  refine ⟨?_, Json.recordMetadata_set (isObject_of_checkNew h) hspace hnonempty, hname, rfl, rfl,
    rfl, rfl, rfl⟩
  exact (Json.recordKind_set (by simp) _ _).trans
    ((Json.recordKind_remove (by simp) _).trans hkind)

/-- A write keeps the kind and the key that the object of the record names. -/
theorem accounted_revised {x : String} {existing : StoredRecord} {kind₀ : String}
    {kept : Metadata} (h : existing.Accounted x kind₀ kept) (part : Part) (version : String)
    {kind : String} {incoming : Metadata} (hx : x = slot kind incoming.key) (object : Json) :
    (existing.revised part version kind incoming kept object).Accounted x kind₀
      (existing.revisedMetadata part version incoming kept object) := by
  obtain ⟨-, hspace, hnonempty⟩ := Json.recordMetadata_eq_ok.mp h.objectMetadata
  have hobject : (replacePart part existing.object object).isObject := by
    rw [isObject_replacePart]
    exact Json.isObject_of_recordMetadata h.objectMetadata
  -- `kind` need not be `kind₀`: the object goes on naming the kind it was created with
  refine ⟨?_, Json.recordMetadata_set hobject hspace hnonempty, h.name, h.slot, hx, h.uid, rfl,
    rfl⟩
  exact (Json.recordKind_set (by simp) _ _).trans
    ((recordKind_replacePart part _ _).trans h.objectKind)

/-- The records that a call may leave in a slot. -/
inductive Written (uid now : String) (s : Store) : StoreCall → String → StoredRecord → Prop where
  | created {kind : String} {object : Json} {m : Metadata}
      (hnew : s.checkNew kind object = .ok m) :
      Written uid now s (.create kind object) (slot kind m.key)
        (.created uid now (toString s.nextVersion) kind object m)
  | updated {kind : String} {object : Json} {existing : StoredRecord} {incoming kept : Metadata}
      (hrevise : s.revise kind object = .ok (existing, incoming))
      (hkept : existing.object.recordMetadata = .ok kept) :
      Written uid now s (.update kind object) (slot kind incoming.key)
        (existing.revised .spec (toString s.nextVersion) kind incoming kept object)
  | statusUpdated {kind : String} {object : Json} {existing : StoredRecord}
      {incoming kept : Metadata}
      (hrevise : s.revise kind object = .ok (existing, incoming))
      (hkept : existing.object.recordMetadata = .ok kept) :
      Written uid now s (.updateStatus kind object) (slot kind incoming.key)
        (existing.revised .status (toString s.nextVersion) kind incoming kept object)

/-- What a slot holds after a call was there before or was written by it. -/
theorem Effect.get?_cases {uid now : String} {s s' : Store} {c : StoreCall}
    (h : Effect uid now s c s') {x : String} {r : StoredRecord}
    (hx : Assoc.get? x s'.slots = some r) :
    Assoc.get? x s.slots = some r ∨ Written uid now s c x r := by
  cases h with
  | nothing => exact .inl hx
  | created hnew =>
      rcases Assoc.eq_or_of_get?_put hx with ⟨rfl, rfl⟩ | hold
      · exact .inr (.created hnew)
      · exact .inl hold
  | updated hrevise hkept =>
      rcases Assoc.eq_or_of_get?_put hx with ⟨rfl, rfl⟩ | hold
      · exact .inr (.updated hrevise hkept)
      · exact .inl hold
  | statusUpdated hrevise hkept =>
      rcases Assoc.eq_or_of_get?_put hx with ⟨rfl, rfl⟩ | hold
      · exact .inr (.statusUpdated hrevise hkept)
      · exact .inl hold
  | deleted hget => exact .inl (Assoc.of_get?_remove hx).2

/-- Versions are told apart by their texts. -/
theorem version_inj {m n : Nat} (h : toString m = toString n) : m = n := by
  have hdigits : Nat.toDigits 10 m = Nat.toDigits 10 n := by
    rw [← Nat.toList_repr, ← Nat.toList_repr]
    exact congrArg String.toList h
  have hvalue := congrArg (Nat.ofDigitChars 10 · 0) hdigits
  simpa [Nat.ofDigitChars_toDigits] using hvalue

theorem Effect.nextVersion_le {uid now : String} {s s' : Store} {c : StoreCall}
    (h : Effect uid now s c s') : s.nextVersion ≤ s'.nextVersion := by
  cases h <;> simp

/-- Which indexes there are is settled once and for all. -/
theorem Effect.indexes_eq {uid now : String} {s s' : Store} {c : StoreCall}
    (h : Effect uid now s c s') : s'.indexes = s.indexes := by
  cases h <;> rfl

section Found

variable {s : Store} {r existing : StoredRecord} {kind kind' : String} {j k : RecordKey}

theorem get?_accept : (s.accept r).get? kind k =
    if slot kind k = slot r.kind r.key then some r else s.get? kind k := by
  rw [get?, slots_accept, Assoc.get?_put]
  rfl

theorem get?_supersede : (s.supersede existing r).get? kind k =
    if slot kind k = slot r.kind r.key then some r else s.get? kind k := by
  rw [get?, slots_supersede, Assoc.get?_put]
  rfl

theorem get?_expel : (s.expel kind' j r).get? kind k =
    if slot kind k = slot kind' j then none else s.get? kind k := by
  rw [get?, slots_expel, Assoc.get?_remove]
  rfl

end Found

/-! ## Sound stores -/

structure Sound (s : Store) : Prop where
  nodup : (Assoc.keys s.slots).Nodup
  accounted : ∀ {x : String} {r : StoredRecord}, Assoc.get? x s.slots = some r →
    ∃ kind m, r.Accounted x kind m
  versions : ∀ {x : String} {r : StoredRecord}, Assoc.get? x s.slots = some r →
    ∃ n < s.nextVersion, r.resourceVersion = toString n

theorem sound_empty (indexes : FieldIndexes) : (empty indexes).Sound :=
  ⟨List.nodup_nil, fun h => (by cases h), fun h => (by cases h)⟩

theorem Written.accounted {uid now : String} {s : Store} {c : StoreCall} {x : String}
    {r : StoredRecord} (h : Written uid now s c x r) (hs : s.Sound) :
    ∃ kind m, r.Accounted x kind m := by
  -- updates of spec and status differ in what they replace only
  have revised (part : Part) {kind : String} {object : Json} {existing : StoredRecord}
      {incoming kept : Metadata} (hrevise : s.revise kind object = .ok (existing, incoming))
      (hkept : existing.object.recordMetadata = .ok kept) :
      ∃ kind₀ m, (existing.revised part (toString s.nextVersion) kind incoming kept
        object).Accounted (slot kind incoming.key) kind₀ m := by
    obtain ⟨-, -, hget, -⟩ := revise_eq_ok.mp hrevise
    obtain ⟨kind₀, m, hacc⟩ := hs.accounted hget
    obtain rfl : m = kept := Except.ok.inj (hacc.objectMetadata.symm.trans hkept)
    exact ⟨_, _, accounted_revised hacc part _ rfl object⟩
  cases h with
  | created hnew => exact ⟨_, _, accounted_created hnew⟩
  | updated hrevise hkept => exact revised .spec hrevise hkept
  | statusUpdated hrevise hkept => exact revised .status hrevise hkept

theorem Written.version_eq {uid now : String} {s : Store} {c : StoreCall} {x : String}
    {r : StoredRecord} (h : Written uid now s c x r) :
    r.resourceVersion = toString s.nextVersion := by
  cases h <;> rfl

theorem Written.kind_eq {uid now : String} {s : Store} {c : StoreCall} {x : String}
    {r : StoredRecord} (h : Written uid now s c x r) : r.kind = c.kind := by
  cases h <;> rfl

/-- A call that writes draws a version. -/
theorem Effect.nextVersion_lt {uid now : String} {s s' : Store} {c : StoreCall}
    (h : Effect uid now s c s') {x : String} {r : StoredRecord}
    (hx : Assoc.get? x s'.slots = some r) (hne : Assoc.get? x s.slots ≠ some r) :
    s.nextVersion < s'.nextVersion := by
  cases h with
  | nothing => exact absurd hx hne
  | created | updated | statusUpdated => exact Nat.lt_succ_self _
  | deleted hget => exact absurd (Assoc.of_get?_remove hx).2 hne

theorem Effect.sound {uid now : String} {s s' : Store} {c : StoreCall}
    (h : Effect uid now s c s') (hs : s.Sound) : s'.Sound where
  nodup := by
    cases h with
    | nothing => exact hs.nodup
    | created => exact Assoc.nodup_put _ _ hs.nodup
    | updated => exact Assoc.nodup_put _ _ hs.nodup
    | statusUpdated => exact Assoc.nodup_put _ _ hs.nodup
    | deleted => exact Assoc.nodup_remove _ hs.nodup
  accounted hx := by
    rcases h.get?_cases hx with hold | hnew
    · exact hs.accounted hold
    · exact hnew.accounted hs
  versions {x r} hx := by
    by_cases hold : Assoc.get? x s.slots = some r
    · obtain ⟨n, hn, hversion⟩ := hs.versions hold
      exact ⟨n, Nat.lt_of_lt_of_le hn h.nextVersion_le, hversion⟩
    · -- a new record has the version that the call drew
      refine ⟨s.nextVersion, h.nextVersion_lt hx hold, ?_⟩
      exact ((h.get?_cases hx).resolve_left hold).version_eq

/-- The stores that any calls lead to. -/
inductive Reachable : Store → Prop where
  | empty (indexes : FieldIndexes) : Reachable (.empty indexes)
  | step {s : Store} (hs : Reachable s) (uid now : String) (c : StoreCall) :
      Reachable (s.perform uid now c).2

/-- Whatever was called, the store is sound. -/
theorem Reachable.sound {s : Store} (h : Reachable s) : s.Sound := by
  induction h with
  | empty indexes => exact sound_empty indexes
  | step hs uid now c ih => exact (perform_effect uid now _ c).sound ih

end Store

end ReleaseControl
