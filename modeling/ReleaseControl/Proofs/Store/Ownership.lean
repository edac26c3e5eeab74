import ReleaseControl.Proofs.Store.Addressing
import ReleaseControl.Proofs.Store.Typed

/-! # What the store owns of a record

A client may send any metadata and any status. Of the metadata the store takes the key, when the
record is created, and the labels; uid, generation, version and creation time are its own, and it
writes them into the object and beside it alike. The status comes from writes to the status only,
the spec from creations and updates only.

`Store.life` lists the requests that wrote the record of a slot, from its creation on. Whatever was
sent, the record is what these requests make of it (`Store.Recorded`), and what one call may change
of it is little (`StoredRecord.Continues`). -/

namespace ReleaseControl

/-! ## What a call gives -/

namespace StoreCall

/-- The slot that a call writes to or empties if it succeeds. -/
def slot? : StoreCall → Option String
  | .create kind object | .update kind object | .updateStatus kind object =>
    object.recordMetadata.toOption.map fun m => Store.slot kind m.key
  | .delete kind key => some (Store.slot kind key)
  | .get .. | .list .. => none

/-- The spec that a call gives to a record; that of an update without one is `null`. -/
def spec? : StoreCall → Option (Option Json)
  | .create _ object => some (object.get? "spec")
  | .update _ object => some (some (Store.newSpec object))
  | .updateStatus .. | .delete .. | .get .. | .list .. => none

/-- The status that a call gives to a record; a creation gives none, whatever its object has. -/
def status? : StoreCall → Option (Option Json)
  | .create .. => some none
  | .updateStatus _ object => some (object.get? "status")
  | .update .. | .delete .. | .get .. | .list .. => none

/-- The labels that a call gives to a record. -/
def labels? : StoreCall → Option Labels
  | .create _ object | .update _ object => object.recordMetadata.toOption.map (·.labels)
  | .updateStatus .. | .delete .. | .get .. | .list .. => none

def isUpdate : StoreCall → Bool
  | .update .. => true
  | .create .. | .updateStatus .. | .delete .. | .get .. | .list .. => false

end StoreCall

/-! ## Metadata as the store writes them -/

/-- The metadata of every record are stored in the form in which metadata are written. -/
def Store.Canonical (s : Store) : Prop :=
  ∀ x q, Assoc.get? x s.slots = some q → ∃ m : Metadata, q.object.get? "metadata" = some m.toJson

namespace Store

theorem Written.canonical {uid now : String} {s : Store} {c : StoreCall} {x : String}
    {q : StoredRecord} (h : Written uid now s c x q) :
    ∃ m : Metadata, q.object.get? "metadata" = some m.toJson := by
  cases h with
  | created hnew => exact ⟨_, Json.get?_set_self (isObject_of_checkNew hnew) _ _⟩
  | updated hrevise hkept | statusUpdated hrevise hkept =>
      refine ⟨_, Json.get?_set_self ?_ _ _⟩
      rw [isObject_replacePart]
      exact Json.isObject_of_recordMetadata hkept

/-- Every write sets them. -/
theorem Reachable.canonical {s : Store} (hs : Reachable s) : s.Canonical := by
  induction hs with
  | empty indexes =>
      intro x q hq
      cases hq
  | @step s hs uid now c ih =>
      intro x q hq
      rcases (perform_effect uid now s c).get?_cases hq with hold | hnew
      · exact ih x q hold
      · exact hnew.canonical

end Store

theorem StoredRecord.Accounted.metadata_of_canonical {x kind : String} {q : StoredRecord}
    {m : Metadata} (h : q.Accounted x kind m)
    (hcanonical : ∃ m' : Metadata, q.object.get? "metadata" = some m'.toJson) :
    q.object.get? "metadata" = some m.toJson := by
  obtain ⟨m', hm'⟩ := hcanonical
  obtain rfl : m = m' := h.metadata_eq ⟨_, hm', Metadata.decode_toJson m'⟩
  exact hm'

/-! ## The parts of an object after a write -/

namespace Store

/-- The member in which a part of a record stands. -/
def Part.member : Part → String
  | .spec => "spec"
  | .status => "status"

/-- What an object has to put there. -/
def Part.given (object : Json) : Part → Option Json
  | .spec => some (newSpec object)
  | .status => object.get? "status"

/-- The call that writes a part. -/
def Part.call (kind : String) (object : Json) : Part → StoreCall
  | .spec => .update kind object
  | .status => .updateStatus kind object

theorem get?_replacePart_self {record : Json} (h : record.isObject) (part : Part)
    (object : Json) : (replacePart part record object).get? part.member = part.given object := by
  cases part with
  | spec => exact Json.get?_set_self h _ _
  | status =>
      simp only [replacePart, Part.given]
      cases object.get? "status" with
      | none => exact Json.get?_remove_self _ _
      | some status => exact Json.get?_set_self h _ _

theorem get?_replacePart_ne {part : Part} {name : String} (h : name ≠ part.member)
    (record object : Json) : (replacePart part record object).get? name = record.get? name := by
  cases part with
  | spec => exact Json.get?_set_ne h _ _
  | status =>
      simp only [replacePart]
      cases object.get? "status" with
      | none => exact Json.get?_remove_ne h _
      | some status => exact Json.get?_set_ne h _ _

end Store

namespace StoredRecord

open Store

section Revised

variable {part : Part} {version kind : String} {existing : StoredRecord} {incoming kept : Metadata}
  {object : Json}

theorem get?_revised_part (h : existing.object.isObject) :
    (existing.revised part version kind incoming kept object).object.get? part.member =
      part.given object := by
  have hne : part.member ≠ "metadata" := by cases part <;> simp [Part.member]
  exact (Json.get?_set_ne hne _ _).trans (get?_replacePart_self h part object)

theorem get?_revised_ne {name : String} (hpart : name ≠ part.member) (hname : name ≠ "metadata") :
    (existing.revised part version kind incoming kept object).object.get? name =
      existing.object.get? name :=
  (Json.get?_set_ne hname _ _).trans (get?_replacePart_ne hpart _ _)

theorem get?_revised_metadata (h : existing.object.isObject) :
    (existing.revised part version kind incoming kept object).object.get? "metadata" =
      some (existing.revisedMetadata part version incoming kept object).toJson := by
  refine Json.get?_set_self ?_ _ _
  rwa [isObject_replacePart]

end Revised

end StoredRecord

/-! ## The life of a record -/

namespace Store

/-- What the latest of some requests gave, of those that gave something. -/
def latest {α : Type} (given : StoreCall → Option α) (requests : List Request) : Option α :=
  (requests.filterMap fun q => given q.call).getLast?

theorem latest_concat {α : Type} (given : StoreCall → Option α) (requests : List Request)
    (q : Request) : latest given (requests ++ [q]) = (given q.call).or (latest given requests) := by
  unfold latest
  rw [List.filterMap_append, List.getLast?_append]
  cases hgiven : given q.call <;> simp [hgiven]

/-- The life of a slot after one more request, which succeeded or did not. -/
def Request.prolong (q : Request) (x : String) (succeeded : Bool) (life : List Request) :
    List Request :=
  if succeeded ∧ q.call.slot? = some x then
    match q.call with
    | .create .. => [q]
    | .update .. | .updateStatus .. => life ++ [q]
    | .delete .. | .get .. | .list .. => []
  else life

def lifeFrom (x : String) (s : Store) (life : List Request) : List Request → List Request
  | [] => life
  | q :: rest =>
    lifeFrom x (s.perform q.uid q.now q.call).2
      (q.prolong x (s.perform q.uid q.now q.call).1.isOk life) rest

/-- The requests that wrote the record in a slot, from its creation on; none if the slot is free. -/
def life (indexes : FieldIndexes) (requests : List Request) (x : String) : List Request :=
  lifeFrom x (.empty indexes) [] requests

theorem lifeFrom_concat (x : String) (s : Store) (life requests : List Request) (q : Request) :
    lifeFrom x s life (requests ++ [q]) =
      q.prolong x ((requests.foldl (fun s q => (s.perform q.uid q.now q.call).2) s).perform
        q.uid q.now q.call).1.isOk (lifeFrom x s life requests) := by
  induction requests generalizing s life with
  | nil => rfl
  | cons d rest ih => exact ih _ _

theorem life_concat (indexes : FieldIndexes) (requests : List Request) (q : Request) (x : String) :
    life indexes (requests ++ [q]) x =
      q.prolong x ((after indexes requests).perform q.uid q.now q.call).1.isOk
        (life indexes requests x) :=
  lifeFrom_concat x _ _ requests q

theorem Request.prolong_of_ne {q : Request} {x : String} (h : q.call.slot? ≠ some x)
    (succeeded : Bool) (life : List Request) : q.prolong x succeeded life = life :=
  if_neg fun hboth => h hboth.2

end Store

open Store

/-! ## What the record goes back to -/

/-- The record as its creation and the writes since have made it. -/
structure StoredRecord.GoesBack (r : StoredRecord) (m : Metadata) (first : Request)
    (writes : List Request) : Prop where
  key : ∃ kind object incoming, first.call = .create kind object ∧
    object.recordMetadata = .ok incoming ∧ m.key = incoming.key
  uid : r.uid = first.uid
  createdAt : m.createdAt = some first.now
  generation : ∃ n ≤ writes.countP (·.call.isUpdate), r.generation = 1 + Int64.ofNat n
  spec : latest StoreCall.spec? (first :: writes) = some (r.object.get? "spec")
  status : latest StoreCall.status? (first :: writes) = some (r.object.get? "status")
  labels : latest StoreCall.labels? (first :: writes) = some m.labels

/-- What one call may make of a record, with its metadata before and after. -/
structure StoredRecord.Continues (r : StoredRecord) (c : StoreCall) (r' : StoredRecord)
    (m m' : Metadata) : Prop where
  uid : m'.uid = m.uid
  createdAt : m'.createdAt = m.createdAt
  key : m'.key = m.key
  generation : r'.generation = r.generation ∨ c.isUpdate ∧ r'.generation = r.generation + 1
  spec : c.isUpdate = false → r'.object.get? "spec" = r.object.get? "spec"
  labels : c.isUpdate = false → m'.labels = m.labels
  status : (∀ kind object, c ≠ .updateStatus kind object) →
    r'.object.get? "status" = r.object.get? "status"

namespace Store

section Calls

variable {uid now version : String} {s s' : Store} {x kind : String} {object : Json}
  {r r' existing : StoredRecord} {m incoming kept : Metadata} {first : Request}
  {writes : List Request}

theorem goesBack_created (hnew : s.checkNew kind object = .ok m) :
    (StoredRecord.created uid now version kind object m).GoesBack
      (StoredRecord.createdMetadata uid now version m) ⟨uid, now, .create kind object⟩ [] := by
  obtain ⟨-, hmeta, -, -⟩ := checkNew_eq_ok.mp hnew
  refine ⟨⟨kind, object, m, rfl, hmeta, rfl⟩, rfl, rfl, ⟨0, Nat.le_refl 0, rfl⟩, ?_, ?_, ?_⟩
  · show some (object.get? "spec") = some (((object.remove "status").set _ _).get? "spec")
    rw [Json.get?_set_ne (by simp), Json.get?_remove_ne (by simp)]
  · show some none = some (((object.remove "status").set _ _).get? "status")
    rw [Json.get?_set_ne (by simp), Json.get?_remove_self]
  · show latest StoreCall.labels? ([] ++ [⟨uid, now, .create kind object⟩]) = some m.labels
    rw [latest_concat, StoreCall.labels?, hmeta]
    rfl

theorem goesBack_revised (h : existing.GoesBack kept first writes) (part : Part)
    (hobject : existing.object.isObject) (hincoming : object.recordMetadata = .ok incoming) :
    (existing.revised part version kind incoming kept object).GoesBack
      (existing.revisedMetadata part version incoming kept object) first
      (writes ++ [⟨uid, now, part.call kind object⟩]) := by
  have hpart : (existing.revised part version kind incoming kept object).object.get? part.member =
      part.given object := StoredRecord.get?_revised_part hobject
  have hother {name : String} (hname : name ≠ part.member) (hmetadata : name ≠ "metadata") :
      (existing.revised part version kind incoming kept object).object.get? name =
        existing.object.get? name := StoredRecord.get?_revised_ne hname hmetadata
  refine ⟨h.key, h.uid, h.createdAt, ?_, ?_, ?_, ?_⟩
  · obtain ⟨n, hn, hgeneration⟩ := h.generation
    rw [List.countP_append]
    rcases existing.revisedGeneration_cases part object with hsame | ⟨rfl, hraised⟩
    · exact ⟨n, Nat.le_add_right_of_le hn, hsame.trans hgeneration⟩
    · refine ⟨n + 1, Nat.add_le_add_right hn 1, hraised.trans ?_⟩
      rw [hgeneration, Int64.ofNat_add, Int64.add_assoc]
      rfl
  · rw [← List.cons_append, latest_concat, h.spec]
    cases part with
    | spec => exact congrArg some hpart.symm
    | status => rw [hother (by simp [Part.member]) (by simp)]; rfl
  · rw [← List.cons_append, latest_concat, h.status]
    cases part with
    | spec => rw [hother (by simp [Part.member]) (by simp)]; rfl
    | status => exact congrArg some hpart.symm
  · rw [← List.cons_append, latest_concat, h.labels]
    cases part with
    | spec =>
        rw [Part.call, StoreCall.labels?, hincoming]
        rfl
    | status => rfl

/-- What a write makes of a record. -/
theorem continues_revised (part : Part) :
    existing.Continues (part.call kind object)
      (existing.revised part version kind incoming kept object) kept
      (existing.revisedMetadata part version incoming kept object) := by
  refine ⟨rfl, rfl, rfl, ?_, ?_, ?_, ?_⟩
  · exact (existing.revisedGeneration_cases part object).imp_right fun h => ⟨by rw [h.1]; rfl, h.2⟩
  · intro hupdate
    cases part with
    | spec => cases hupdate
    | status => exact StoredRecord.get?_revised_ne (by simp [Part.member]) (by simp)
  · intro hupdate
    cases part with
    | spec => cases hupdate
    | status => rfl
  · intro hstatus
    cases part with
    | spec => exact StoredRecord.get?_revised_ne (by simp [Part.member]) (by simp)
    | status => exact absurd rfl (hstatus kind object)

end Calls

/-- A slot that is free and has no life, or a record that agrees with its facts and goes back to
the life of the slot. -/
inductive Recorded (x : String) : Option StoredRecord → List Request → Prop where
  | free : Recorded x none []
  | used {r : StoredRecord} {kind : String} {m : Metadata} {first : Request}
      {writes : List Request} (hobject : r.object.isObject)
      (hmetadata : r.object.get? "metadata" = some m.toJson) (haccounted : r.Accounted x kind m)
      (hback : r.GoesBack m first writes) : Recorded x (some r) (first :: writes)

section Steps

variable {s s' : Store} {q : Request} {x : String} {life : List Request}

theorem recorded_created {uid now kind : String} {object : Json} {m : Metadata}
    (hnew : s.checkNew kind object = .ok m) :
    Recorded (slot kind m.key)
      (some (.created uid now (toString s.nextVersion) kind object m))
      [⟨uid, now, .create kind object⟩] := by
  have hobject := isObject_of_checkNew hnew
  refine .used ?_ ?_ (accounted_created hnew) (goesBack_created hnew)
  · simpa [StoredRecord.created] using hobject
  · exact Json.get?_set_self hobject _ _

theorem Recorded.revised {existing : StoredRecord} (h : Recorded x (some existing) life)
    (part : Part) {uid now kind : String} {object : Json} {incoming kept : Metadata}
    (hx : x = slot kind incoming.key) (hincoming : object.recordMetadata = .ok incoming)
    (hkept : existing.object.recordMetadata = .ok kept) :
    Recorded x
      (some (existing.revised part (toString s.nextVersion) kind incoming kept object))
      (life ++ [⟨uid, now, part.call kind object⟩]) := by
  cases h with
  | used hobject hmetadata haccounted hback =>
      obtain rfl := Except.ok.inj (haccounted.objectMetadata.symm.trans hkept)
      refine .used ?_ (StoredRecord.get?_revised_metadata hobject)
        (accounted_revised haccounted part _ hx object)
        (goesBack_revised hback part hobject hincoming)
      simpa [StoredRecord.revised, isObject_replacePart] using hobject

/-- A request without a slot prolongs no life. -/
theorem Recorded.read {found : Option StoredRecord} (h : Recorded x found life)
    (hq : q.call.slot? = none) (succeeded : Bool) :
    Recorded x found (q.prolong x succeeded life) := by
  rw [Request.prolong_of_ne (by simp [hq])]
  exact h

/-- A request that succeeds says what is in its slot afterwards, and leaves the others alone. -/
theorem Recorded.succeed {y : String} {found : Option StoredRecord}
    (h : Recorded x (Assoc.get? x s.slots) life) (hslot : q.call.slot? = some y)
    (hslots : ∀ x, Assoc.get? x s'.slots = if x = y then found else Assoc.get? x s.slots)
    (hself : x = y → Recorded x found (q.prolong x true life)) :
    Recorded x (Assoc.get? x s'.slots) (q.prolong x true life) := by
  rw [hslots]
  by_cases hx : x = y
  · rw [if_pos hx]
    exact hself hx
  · rw [if_neg hx, Request.prolong_of_ne (by simpa [hslot] using Ne.symm hx)]
    exact h

theorem Recorded.write (h : Recorded x (Assoc.get? x s.slots) life) (part : Part)
    {uid now kind : String} {object : Json} {existing : StoredRecord} {incoming kept : Metadata}
    (hrevise : s.revise kind object = .ok (existing, incoming))
    (hkept : existing.object.recordMetadata = .ok kept) :
    Recorded x
      (Assoc.get? x (s.supersede existing
        (existing.revised part (toString s.nextVersion) kind incoming kept object)).slots)
      (Request.prolong ⟨uid, now, part.call kind object⟩ x true life) := by
  obtain ⟨-, hincoming, hget, -⟩ := revise_eq_ok.mp hrevise
  have hslot : (part.call kind object).slot? = some (slot kind incoming.key) := by
    cases part <;> simp [Part.call, StoreCall.slot?, hincoming, Except.toOption]
  refine h.succeed hslot (fun x => Assoc.get?_put _ _ _ _) ?_
  rintro rfl
  have hlife : Request.prolong ⟨uid, now, part.call kind object⟩ (slot kind incoming.key) true
      life = life ++ [⟨uid, now, part.call kind object⟩] := by
    cases part <;> exact if_pos ⟨rfl, hslot⟩
  rw [show Assoc.get? (slot kind incoming.key) s.slots = some existing from hget] at h
  rw [hlife]
  exact h.revised part rfl hincoming hkept

/-- One more request. -/
theorem Recorded.step {answer : Except StoreError q.call.Reply}
    (h : Recorded x (Assoc.get? x s.slots) life)
    (hp : Performed q.uid q.now s q.call answer s') :
    Recorded x (Assoc.get? x s'.slots) (q.prolong x answer.isOk life) := by
  obtain ⟨uid, now, c⟩ := q
  cases hp with
  | got | listed => exact h.read rfl _
  | refused => exact h
  | @created kind object m hnew =>
      obtain ⟨-, hmeta, -, -⟩ := checkNew_eq_ok.mp hnew
      have hslot : (StoreCall.create kind object).slot? = some (slot kind m.key) := by
        simp [StoreCall.slot?, hmeta, Except.toOption]
      refine h.succeed hslot (fun x => Assoc.get?_put _ _ _ _) ?_
      rintro rfl
      have hlife : Request.prolong ⟨uid, now, .create kind object⟩ (slot kind m.key) true life =
          [⟨uid, now, .create kind object⟩] := if_pos ⟨rfl, hslot⟩
      rw [hlife]
      exact recorded_created hnew
  | updated hrevise hkept => exact h.write .spec hrevise hkept
  | statusUpdated hrevise hkept => exact h.write .status hrevise hkept
  | @deleted kind key r hget =>
      refine h.succeed rfl (fun x => Assoc.get?_remove _ _ _) ?_
      rintro rfl
      have hlife : Request.prolong ⟨uid, now, .delete kind key⟩ (slot kind key) true life = [] :=
        if_pos ⟨rfl, rfl⟩
      rw [hlife]
      exact .free

/-- A call that finds a record in a slot and leaves one there. -/
theorem Effect.continues {uid now : String} {c : StoreCall} (h : Effect uid now s c s')
    {r r' : StoredRecord} {m m' : Metadata} (hr : Assoc.get? x s.slots = some r)
    (hr' : Assoc.get? x s'.slots = some r') (hm : r.object.recordMetadata = .ok m)
    (hm' : r'.object.recordMetadata = .ok m') (hs : s.Sound) : r.Continues c r' m m' := by
  have revised (part : Part) {kind : String} {object : Json} {existing : StoredRecord}
      {incoming kept : Metadata} (hx : x = slot kind incoming.key)
      (hrevise : s.revise kind object = .ok (existing, incoming))
      (hkept : existing.object.recordMetadata = .ok kept)
      (hr'' : r' = existing.revised part (toString s.nextVersion) kind incoming kept object) :
      r.Continues (part.call kind object) r' m m' := by
    obtain ⟨-, -, hget, -⟩ := revise_eq_ok.mp hrevise
    subst hx hr''
    obtain rfl : r = existing := Option.some.inj (hr.symm.trans hget)
    obtain rfl : m = kept := Except.ok.inj (hm.symm.trans hkept)
    obtain ⟨kind₀, m₀, hacc⟩ := hs.accounted hr
    obtain rfl : m₀ = m := Except.ok.inj (hacc.objectMetadata.symm.trans hm)
    obtain rfl := Except.ok.inj
      ((accounted_revised hacc part _ rfl object).objectMetadata.symm.trans hm')
    exact continues_revised part
  rcases h.get?_cases hr' with hold | hnew
  · obtain rfl : r = r' := Option.some.inj (hr.symm.trans hold)
    obtain rfl : m = m' := Except.ok.inj (hm.symm.trans hm')
    exact ⟨rfl, rfl, rfl, .inl rfl, fun _ => rfl, fun _ => rfl, fun _ => rfl⟩
  · cases hnew with
    | created hnew => cases hr.symm.trans (checkNew_eq_ok.mp hnew).2.2.2
    | updated hrevise hkept => exact revised .spec rfl hrevise hkept rfl
    | statusUpdated hrevise hkept => exact revised .status rfl hrevise hkept rfl

end Steps

open Timeline

theorem recorded_life (indexes : FieldIndexes) (requests : List Request) (x : String) :
    Recorded x (Assoc.get? x (after indexes requests).slots) (life indexes requests x) := by
  induction requests using List.reverseRecOn with
  | nil => exact .free
  | append_singleton requests q ih =>
      rw [after_concat, life_concat]
      exact ih.step (performed q.uid q.now _ q.call)

/-- Whatever calls with whatever objects are made, a record agrees with the facts beside it and goes
back to the life of its slot: uid and creation time come from the request that created it, with the
key that the object had there, the generation started at 1 and was raised by updates only, the spec
and the labels are those of the latest creation or update, and the status is that of the latest
write to the status since. A call that leaves a record in its slot keeps uid, creation time and key,
and what else it may change is settled by its kind. -/
theorem records_go_back (indexes : FieldIndexes) (requests : List Request) :
    (∀ x, Recorded x (Assoc.get? x (after indexes requests).slots) (life indexes requests x)) ∧
      Each (fun past q => ∀ x r r' m m', Assoc.get? x (after indexes past).slots = some r →
        Assoc.get? x (after indexes (past ++ [q])).slots = some r' →
          r.object.recordMetadata = .ok m → r'.object.recordMetadata = .ok m' →
            r.Continues q.call r' m m') requests := by
  refine ⟨recorded_life indexes requests, ?_⟩
  intro past q rest hsplit x r r' m m' hr hr' hm hm'
  rw [after_concat] at hr'
  have heffect := perform_effect q.uid q.now (after indexes past) q.call
  exact heffect.continues hr hr' hm hm' (reachable_after indexes past).sound

/-- An object that claims to be an old and finished one; its metadata are written as an array. -/
def forged : Json := .ofFields [
  ("kind", some (.str "Note")),
  ("metadata", some (.arr [.str "w", .str "n", .str "mine", .int 7, .null, .obj [],
    .str "long ago"])),
  ("status", some (.str "done"))]

def forgery : List Request :=
  [⟨"1", "today", .create "Note" forged⟩, ⟨"2", "later", .updateStatus "Note" forged⟩]

/-- The store gives it uid, generation and time of its own, and a status by the second call only. -/
theorem records_go_back_forgery :
    life .none forgery "Note/w/n" = forgery ∧
      ∃ r m, (after .none forgery).get? "Note" ⟨"w", "n"⟩ = some r ∧
        r.object.recordMetadata = .ok m ∧ m.uid = some "1" ∧ m.createdAt = some "today" ∧
          m.generation = some 1 ∧ r.object.get? "status" = some (.str "done") := by
  have hlife : life .none forgery "Note/w/n" = forgery := rfl
  refine ⟨hlife, ?_⟩
  have hrecorded := (records_go_back .none forgery).1 "Note/w/n"
  rw [hlife] at hrecorded
  unfold forgery at hrecorded
  generalize hslot : Assoc.get? "Note/w/n" _ = found at hrecorded
  cases hrecorded with
  | @used r kind m first writes hobject hmetadata haccounted hback =>
      obtain ⟨n, hn, hgeneration⟩ := hback.generation
      obtain rfl : n = 0 := Nat.le_zero.mp hn
      refine ⟨r, m, hslot, haccounted.objectMetadata, ?_, hback.createdAt, ?_, ?_⟩
      · rw [haccounted.uid, hback.uid]
      · rw [haccounted.generation, hgeneration]
        rfl
      · exact (Option.some.inj hback.status).symm

end Store

end ReleaseControl
