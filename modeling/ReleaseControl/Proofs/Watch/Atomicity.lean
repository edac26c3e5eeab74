import ReleaseControl.Proofs.Store.Versions
import ReleaseControl.Proofs.Watch.Log

/-! # Failing calls leave no trace

A call is checked before it writes, and it fails on what the checks find or not at all
(`Store.Sound.errorOf_perform`). A write draws a version before it rewrites the metadata of the
object, which is a step that could fail on its own. It does not: it needs an object, and what has
passed the checks is one (`Store.Sound.rewrites_stored`, `Store.rewrites_new`). So no call is given
up halfway, and one that fails leaves the records, the index, the counter and the channel as they
were (`Store.failing_calls_atomic`). -/

namespace ReleaseControl

namespace Store

/-- The error of a check. -/
def errorOf {α : Type} : Except StoreError α → Option StoreError
  | .error e => some e
  | .ok _ => none

theorem errorOf_eq_some {α : Type} {answer : Except StoreError α} {e : StoreError} :
    errorOf answer = some e ↔ answer = .error e := by
  cases answer <;> simp [errorOf]

/-- What the store holds against a call, before the call has done anything. -/
def objection? (s : Store) : StoreCall → Option StoreError
  | .create kind object => errorOf (s.checkNew kind object)
  | .update kind object | .updateStatus kind object => errorOf (s.revise kind object)
  | .delete kind key => if (s.get? kind key).isSome then none else some (.notFound kind key.text)
  | .get .. => none
  | .list kind query => errorOf (s.list kind query)

/-! ## Rewriting the metadata -/

/-- The metadata of a stored record can be read, and those of what a write makes of it replaced. -/
theorem Sound.rewrites_stored {s : Store} (hs : s.Sound) {x : String} {r : StoredRecord}
    (hx : Assoc.get? x s.slots = some r) :
    (∃ kept, r.object.recordMetadata = .ok kept) ∧ ∀ part object (m : Metadata),
      (replacePart part r.object object).withMetadata m =
        .ok ((replacePart part r.object object).set "metadata" m.toJson) := by
  obtain ⟨kind, kept, hacc⟩ := hs.accounted hx
  refine ⟨⟨kept, hacc.objectMetadata⟩, ?_⟩
  intro part object m
  apply Json.withMetadata_eq
  rw [isObject_replacePart]
  exact Json.isObject_of_recordMetadata hacc.objectMetadata

/-- So can those of an object that may be created. -/
theorem rewrites_new {s : Store} {kind : String} {object : Json} {incoming : Metadata}
    (h : s.checkNew kind object = .ok incoming) (m : Metadata) :
    (object.remove "status").withMetadata m =
      .ok ((object.remove "status").set "metadata" m.toJson) :=
  Json.withMetadata_eq (isObject_of_checkNew h) m

/-! ## When a call fails -/

theorem Sound.errorOf_write {s : Store} (hs : s.Sound) (part : Part) (kind : String)
    (object : Json) : errorOf (s.write part kind object).1 = errorOf (s.revise kind object) := by
  cases hrevise : s.revise kind object with
  | error e =>
      rw [write_of_error hrevise]
      rfl
  | ok pair =>
      obtain ⟨existing, incoming⟩ := pair
      obtain ⟨-, -, hget, -⟩ := revise_eq_ok.mp hrevise
      obtain ⟨⟨kept, hkept⟩, -⟩ := hs.rewrites_stored hget
      rw [write_of_revise hrevise hkept]
      rfl

/-- A call fails on what the store holds against it, and on nothing else. -/
theorem Sound.errorOf_perform {s : Store} (hs : s.Sound) (uid now : String) (c : StoreCall) :
    errorOf (s.perform uid now c).1 = s.objection? c := by
  cases c with
  | get | list => rfl
  | create kind object =>
      show errorOf (s.create uid now kind object).1 = errorOf (s.checkNew kind object)
      cases hnew : s.checkNew kind object with
      | error e =>
          rw [create_of_error hnew]
          rfl
      | ok m =>
          rw [create_of_checkNew hnew]
          rfl
  | update kind object => exact hs.errorOf_write .spec kind object
  | updateStatus kind object => exact hs.errorOf_write .status kind object
  | delete kind key =>
      show errorOf (s.delete kind key).1 = if (s.get? kind key).isSome then none else _
      cases hget : s.get? kind key with
      | none =>
          rw [delete_of_none hget]
          rfl
      | some r =>
          rw [delete_of_get? hget]
          rfl

/-! ## What a failing call leaves -/

theorem Performed.unchanged_of_error {uid now : String} {s s' : Store} {c : StoreCall}
    {answer : Except StoreError c.Reply} (h : Performed uid now s c answer s') {e : StoreError}
    (he : answer = .error e) : s' = s := by
  cases h with
  | got | listed | refused => rfl
  | created | updated | statusUpdated | deleted => cases he

/-- The store and the channel are as before. -/
theorem published_of_error {s : Store} {q : Request} {e : StoreError}
    (he : (s.perform q.uid q.now q.call).1 = .error e) (channel : Channel) :
    q.handler.published q.call (s, channel) = (.returned (.error e), s, channel) := by
  have hsame := (performed q.uid q.now s q.call).unchanged_of_error he
  show (_, _, channel.publish q.call (s.perform q.uid q.now q.call).1) = _
  rw [he, hsame]
  rfl

/-- On every store that calls can lead to, a call fails exactly on what the store holds against it
before it begins. A call that fails leaves the store as it was, records, index and version counter,
and sends no event. After the checks nothing can fail: the metadata of every stored record can be
read, and those of a record that is written or created replaced. -/
theorem failing_calls_atomic {s : Store} (hs : Reachable s) :
    (∀ (q : Request) e,
        (s.perform q.uid q.now q.call).1 = .error e ↔ s.objection? q.call = some e) ∧
      (∀ (q : Request) e channel, (s.perform q.uid q.now q.call).1 = .error e →
        q.handler.published q.call (s, channel) = (.returned (.error e), s, channel)) ∧
      (∀ x r, Assoc.get? x s.slots = some r →
        (∃ kept, r.object.recordMetadata = .ok kept) ∧ ∀ part object m,
          ∃ record, (replacePart part r.object object).withMetadata m = .ok record) ∧
      ∀ kind object incoming, s.checkNew kind object = .ok incoming →
        ∀ m, ∃ record, (object.remove "status").withMetadata m = .ok record := by
  refine ⟨?_, ?_, ?_, ?_⟩
  · intro q e
    rw [← hs.sound.errorOf_perform q.uid q.now q.call]
    exact errorOf_eq_some.symm
  · intro q e channel he
    exact published_of_error he channel
  · intro x r hx
    obtain ⟨hkept, hrewrites⟩ := hs.sound.rewrites_stored hx
    exact ⟨hkept, fun part object m => ⟨_, hrewrites part object m⟩⟩
  · intro kind object incoming hnew m
    exact ⟨_, rewrites_new hnew m⟩

/-- A note that was deleted and created again. -/
def recreated : Store := after .none [noteCreated, noteDeleted, noteCreated]

/-- A write for the first note is refused, with a receiver on the channel who hears nothing. -/
theorem failing_calls_atomic_recreated :
    recreated.objection? noteRevised.call = some (.versionConflict "1" "2") ∧
      noteRevised.handler.published noteRevised.call (recreated, ⟨4, [], 0, [("o", 0)], true⟩) =
        (.returned (.error (.versionConflict "1" "2")), recreated,
          ⟨4, [], 0, [("o", 0)], true⟩) := by
  have hs : Reachable recreated := reachable_after _ _
  obtain ⟨hfails, htrace, -, -⟩ := failing_calls_atomic hs
  have hobjection : recreated.objection? noteRevised.call = some (.versionConflict "1" "2") := rfl
  exact ⟨hobjection, htrace noteRevised _ _ ((hfails noteRevised _).mpr hobjection)⟩

end Store

end ReleaseControl
