import ReleaseControl.Proofs.Store.Addressing
import ReleaseControl.Proofs.Store.Program

/-! # Versions guard the records

Versions are drawn from one counter that moves with every write and with nothing else, so the
writes of a run get the versions 1, 2, 3 and so on, also over deletions (`versions_eq`). A version
that was read therefore tells one state of one slot, and never comes back. A client that reads a
record and writes it under the version it read gets through exactly if no one wrote or deleted the
record in between (`guarded_writes`); of two such clients one at most does. -/

namespace ReleaseControl

/-- The record that an answer says was written. -/
def StoreCall.written? : (c : StoreCall) → Except StoreError c.Reply → Option StoredRecord
  | .create .., .ok stored | .update .., .ok stored | .updateStatus .., .ok stored => some stored
  | .create .., .error _ | .update .., .error _ | .updateStatus .., .error _ => none
  | .get .., _ | .list .., _ | .delete .., _ => none

/-- A well-formed write to the record of a key, under the condition that it has a version. -/
inductive StoreCall.Expects : StoreCall → RecordKey → String → Prop where
  | update {kind v : String} {object : Json} {m : Metadata}
      (hkind : object.recordKind = .ok kind) (hmeta : object.recordMetadata = .ok m)
      (hversion : m.resourceVersion = some v) : Expects (.update kind object) m.key v
  | updateStatus {kind v : String} {object : Json} {m : Metadata}
      (hkind : object.recordKind = .ok kind) (hmeta : object.recordMetadata = .ok m)
      (hversion : m.resourceVersion = some v) : Expects (.updateStatus kind object) m.key v

theorem StoreCall.Expects.addresses {c : StoreCall} {k : RecordKey} {v : String}
    (h : c.Expects k v) : c.Addresses k := by
  cases h with
  | update hkind hmeta => exact .update hkind hmeta
  | updateStatus hkind hmeta => exact .updateStatus hkind hmeta

theorem StoreCall.Expects.isRead_eq_false {c : StoreCall} {k : RecordKey} {v : String}
    (h : c.Expects k v) : c.isRead = false := by
  cases h <;> rfl

/-- The answer says that the record of the slot was written or deleted. -/
def StoreCall.Touches (c : StoreCall) (answer : Except StoreError c.Reply) (x : String) : Prop :=
  (∃ reply, answer = .ok reply) ∧ c.isRead = false ∧
    ∃ k, c.Addresses k ∧ Store.slot c.kind k = x

namespace Store

open Timeline

/-! ## The versions of a run -/

/-- The record that a request wrote. -/
def written? (s : Store) (q : Request) : Option StoredRecord :=
  q.call.written? (s.perform q.uid q.now q.call).1

/-- The versions that writes are given from a store on, in their order. -/
def versionsFrom (s : Store) : List Request → List String
  | [] => []
  | q :: rest =>
    ((s.written? q).map (·.resourceVersion)).toList ++
      versionsFrom (s.perform q.uid q.now q.call).2 rest

/-- The versions that the writes of a run were given, in their order. -/
def versions (indexes : FieldIndexes) (requests : List Request) : List String :=
  versionsFrom (.empty indexes) requests

/-- A call that writes draws the next version, and no other call does. -/
theorem Performed.written?_cases {uid now : String} {s s' : Store} {c : StoreCall}
    {answer : Except StoreError c.Reply} (h : Performed uid now s c answer s') :
    (c.written? answer = none ∧ s'.nextVersion = s.nextVersion) ∨
      ∃ r, c.written? answer = some r ∧ r.resourceVersion = toString s.nextVersion ∧
        s'.nextVersion = s.nextVersion + 1 := by
  cases h with
  | got | listed | deleted => exact .inl ⟨rfl, rfl⟩
  | refused c e => cases c <;> exact .inl ⟨rfl, rfl⟩
  | created | updated | statusUpdated => exact .inr ⟨_, rfl, rfl, rfl⟩

theorem versionsFrom_eq (s : Store) (requests : List Request) :
    versionsFrom s requests =
        (List.range' s.nextVersion (versionsFrom s requests).length).map toString ∧
      (requests.foldl (fun s q => (s.perform q.uid q.now q.call).2) s).nextVersion =
        s.nextVersion + (versionsFrom s requests).length := by
  induction requests generalizing s with
  | nil => exact ⟨rfl, rfl⟩
  | cons q rest ih =>
      obtain ⟨hrest, hnext⟩ := ih (s.perform q.uid q.now q.call).2
      rw [List.foldl_cons, hnext]
      have hcases := (performed q.uid q.now s q.call).written?_cases
      rcases hcases with ⟨hnone, hsame⟩ | ⟨r, hsome, hversion, hdrawn⟩
      · have heq : versionsFrom s (q :: rest) =
            versionsFrom (s.perform q.uid q.now q.call).2 rest := by
          rw [versionsFrom, written?, hnone]
          rfl
        rw [heq, ← hsame]
        exact ⟨hrest, rfl⟩
      · have heq : versionsFrom s (q :: rest) =
            toString s.nextVersion :: versionsFrom (s.perform q.uid q.now q.call).2 rest := by
          rw [versionsFrom, written?, hsome, ← hversion]
          rfl
        rw [hdrawn] at hrest
        rw [heq, hdrawn, List.length_cons, List.range'_succ, List.map_cons, ← hrest]
        exact ⟨rfl, by omega⟩

/-- The writes of a run get the versions 1, 2, 3 and so on, and the counter moves with them only. -/
theorem versions_eq (indexes : FieldIndexes) (requests : List Request) :
    versions indexes requests =
        (List.range' 1 (versions indexes requests).length).map toString ∧
      (after indexes requests).nextVersion = 1 + (versions indexes requests).length :=
  versionsFrom_eq (.empty indexes) requests

/-! ## Requests that touch a slot -/

section Touches

variable {uid now : String} {s s' : Store} {c : StoreCall} {answer : Except StoreError c.Reply}

/-- A call that succeeds and is no read touches the slot that it addresses and no other. -/
theorem Performed.touches_of_addresses (h : Performed uid now s c answer s') (x : String)
    {k : RecordKey} (hk : c.Addresses k) (hok : ∃ reply, answer = .ok reply)
    (hread : c.isRead = false)
    (hself : ∀ r, Assoc.get? (slot c.kind k) s'.slots = some r →
      r.resourceVersion = toString s.nextVersion) :
    (¬ c.Touches answer x ∧ Assoc.get? x s'.slots = Assoc.get? x s.slots) ∨
      (c.Touches answer x ∧
        ∀ r, Assoc.get? x s'.slots = some r → r.resourceVersion = toString s.nextVersion) := by
  by_cases hx : slot c.kind k = x
  · rw [hx] at hself
    exact .inr ⟨⟨hok, hread, k, hk, hx⟩, hself⟩
  · have hne : ∀ k', c.Addresses k' → x ≠ slot c.kind k' := by
      rintro k' hk' rfl
      exact hx (by rw [hk.unique hk'])
    refine .inl ⟨?_, h.effect.get?_of_ne hne⟩
    rintro ⟨-, -, k', hk', rfl⟩
    exact hne k' hk' rfl

/-- A slot that a call touches is free after it or has the version that the call drew. -/
theorem Performed.touches_cases (h : Performed uid now s c answer s') (x : String) :
    (¬ c.Touches answer x ∧ Assoc.get? x s'.slots = Assoc.get? x s.slots) ∨
      (c.Touches answer x ∧
        ∀ r, Assoc.get? x s'.slots = some r → r.resourceVersion = toString s.nextVersion) := by
  have put {y : String} {stored : StoredRecord}
      (hversion : stored.resourceVersion = toString s.nextVersion) :
      ∀ r, Assoc.get? y (Assoc.put y stored s.slots) = some r →
        r.resourceVersion = toString s.nextVersion := by
    intro r hr
    rw [Assoc.get?_put_self] at hr
    rw [← Option.some.inj hr, hversion]
  have touches {k : RecordKey} := h.touches_of_addresses (k := k) x
  cases h with
  | got | listed =>
      refine .inl ⟨?_, rfl⟩
      rintro ⟨-, hread, -⟩
      cases hread
  | refused =>
      refine .inl ⟨?_, rfl⟩
      rintro ⟨⟨reply, hreply⟩, -⟩
      cases hreply
  | created hnew => exact touches (addresses_of_checkNew hnew) ⟨_, rfl⟩ rfl (put rfl)
  | updated hrevise =>
      obtain ⟨hkind, hmeta, -, -⟩ := revise_eq_ok.mp hrevise
      exact touches (.update hkind hmeta) ⟨_, rfl⟩ rfl (put rfl)
  | statusUpdated hrevise =>
      obtain ⟨hkind, hmeta, -, -⟩ := revise_eq_ok.mp hrevise
      exact touches (.updateStatus hkind hmeta) ⟨_, rfl⟩ rfl (put rfl)
  | deleted hget =>
      refine touches (.delete _ _) ⟨_, rfl⟩ rfl ?_
      intro r hr
      cases (Assoc.get?_remove_self _ _).symm.trans hr

end Touches

/-- The request wrote or deleted the record of the slot. -/
def Touches (s : Store) (x : String) (q : Request) : Prop :=
  q.call.Touches (s.perform q.uid q.now q.call).1 x

/-! ## Writes that expect a version -/

/-- How a write that expects a version is refused: the slot is free, or it has another version. -/
def refusal (s : Store) (kind : String) (key : RecordKey) (v : String) : StoreError :=
  match s.get? kind key with
  | none => .notFound kind key.text
  | some r => .versionConflict v r.resourceVersion

/-- Such a write gets through if and only if the slot has the version. -/
theorem perform_of_expects {s : Store} (hs : s.Sound) {q : Request} {k : RecordKey} {v : String}
    (h : q.call.Expects k v) :
    ((∃ r, s.get? q.call.kind k = some r ∧ r.resourceVersion = v) ∧ Succeeds s q) ∨
      (¬ (∃ r, s.get? q.call.kind k = some r ∧ r.resourceVersion = v) ∧
        (s.perform q.uid q.now q.call).1 = .error (s.refusal q.call.kind k v)) := by
  have revised {kind : String} {object : Json} {m : Metadata}
      (hkind : object.recordKind = .ok kind) (hmeta : object.recordMetadata = .ok m)
      (hversion : m.resourceVersion = some v) (part : Part) :
      ((∃ r, s.get? kind m.key = some r ∧ r.resourceVersion = v) ∧
          ∃ stored, (s.write part kind object).1 = .ok stored) ∨
        (¬ (∃ r, s.get? kind m.key = some r ∧ r.resourceVersion = v) ∧
          (s.write part kind object).1 = .error (s.refusal kind m.key v)) := by
    unfold refusal
    cases hget : s.get? kind m.key with
    | none =>
        refine .inr ⟨?_, congrArg Prod.fst (write_of_error (revise_of_none hkind hmeta hget))⟩
        rintro ⟨r, hr, -⟩
        cases hr
    | some r =>
        by_cases hsame : r.resourceVersion = v
        · obtain ⟨kind', kept, hacc⟩ := hs.accounted hget
          have hrevise : s.revise kind object = .ok (r, m) := by
            refine revise_eq_ok.mpr ⟨hkind, hmeta, hget, ?_⟩
            intro w hw
            rw [hsame]
            exact Option.some.inj (hw.symm.trans hversion)
          exact .inl ⟨⟨r, rfl, hsame⟩, _,
            congrArg Prod.fst (write_of_revise hrevise hacc.objectMetadata)⟩
        · have hrefused := revise_of_conflict hkind hmeta hget hversion (Ne.symm hsame)
          refine .inr ⟨?_, congrArg Prod.fst (write_of_error hrefused)⟩
          rintro ⟨r', hr', hv⟩
          exact hsame (Option.some.inj hr' ▸ hv)
  obtain ⟨uid, now, c⟩ := q
  change c.Expects k v at h
  cases h with
  | update hkind hmeta hversion => exact revised hkind hmeta hversion .spec
  | updateStatus hkind hmeta hversion => exact revised hkind hmeta hversion .status

/-! ## Between a read and a write -/

section Between

variable {indexes : FieldIndexes} {before : List Request} {x : String} {r : StoredRecord}

theorem nextVersion_le_after (indexes : FieldIndexes) (before between : List Request) :
    (after indexes before).nextVersion ≤ (after indexes (before ++ between)).nextVersion := by
  induction between using List.reverseRecOn with
  | nil => rw [List.append_nil]
  | append_singleton between d ih =>
      rw [← List.append_assoc, after_concat]
      exact ih.trans (perform_effect _ _ _ _).nextVersion_le

/-- A slot that nothing touched is as it was; else what is in it has a later version. -/
theorem slot_after (hx : Assoc.get? x (after indexes before).slots = some r)
    (between : List Request) :
    (Each (fun past d => ¬ (after indexes (before ++ past)).Touches x d) between ∧
        Assoc.get? x (after indexes (before ++ between)).slots = some r) ∨
      (¬ Each (fun past d => ¬ (after indexes (before ++ past)).Touches x d) between ∧
        ∀ r', Assoc.get? x (after indexes (before ++ between)).slots = some r' →
          ∃ n, (after indexes before).nextVersion ≤ n ∧ r'.resourceVersion = toString n) := by
  induction between using List.reverseRecOn with
  | nil =>
      rw [List.append_nil]
      exact .inl ⟨each_nil _, hx⟩
  | append_singleton between d ih =>
      rw [← List.append_assoc, after_concat, each_concat]
      have hperformed := performed d.uid d.now (after indexes (before ++ between)) d.call
      rcases hperformed.touches_cases x with ⟨hspared, hsame⟩ | ⟨htouched, hversion⟩
      · rw [hsame]
        rcases ih with ⟨huntouched, hr⟩ | ⟨htouched, hlater⟩
        · exact .inl ⟨⟨huntouched, hspared⟩, hr⟩
        · exact .inr ⟨fun h => htouched h.1, hlater⟩
      · refine .inr ⟨fun h => h.2 htouched, ?_⟩
        intro r' hr'
        exact ⟨_, nextVersion_le_after indexes before between, hversion r' hr'⟩

/-- A write that expects the version that was read gets through if and only if no request has
touched the slot since; else it is refused. -/
theorem perform_of_read (hx : Assoc.get? x (after indexes before).slots = some r)
    (between : List Request) {q : Request} {k : RecordKey}
    (hq : q.call.Expects k r.resourceVersion) (hk : slot q.call.kind k = x) :
    (Each (fun past d => ¬ (after indexes (before ++ past)).Touches x d) between ∧
        Succeeds (after indexes (before ++ between)) q) ∨
      (¬ Each (fun past d => ¬ (after indexes (before ++ past)).Touches x d) between ∧
        ((after indexes (before ++ between)).perform q.uid q.now q.call).1 = .error
          ((after indexes (before ++ between)).refusal q.call.kind k r.resourceVersion)) := by
  have hget : (after indexes (before ++ between)).get? q.call.kind k =
      Assoc.get? x (after indexes (before ++ between)).slots := by rw [get?, hk]
  have hs := (reachable_after indexes (before ++ between)).sound
  obtain ⟨n, hn, hversion⟩ := (reachable_after indexes before).sound.versions hx
  rcases perform_of_expects hs hq with ⟨⟨r', hr', hsame⟩, hdone⟩ | ⟨hother, hrefused⟩
  · rcases slot_after hx between with ⟨huntouched, -⟩ | ⟨-, hlater⟩
    · exact .inl ⟨huntouched, hdone⟩
    · -- versions that were given out later are larger ones
      obtain ⟨n', hn', hversion'⟩ := hlater r' (hget.symm.trans hr')
      have heq : n' = n := version_inj (by rw [← hversion', hsame, hversion])
      omega
  · rcases slot_after hx between with ⟨-, hr⟩ | ⟨htouched, -⟩
    · exact absurd ⟨r, hget.trans hr, rfl⟩ hother
    · exact .inr ⟨htouched, hrefused⟩

end Between

/-- The writes of a run get the versions 1, 2, 3 and so on; nothing else draws a version. A write
that expects the version with which a record was read gets through if and only if in between no
request has written or deleted the record of that slot. Otherwise it is refused: there is no record
or it has another version. Of two writes that expect the version of one read, the second is refused
if the first got through. -/
theorem guarded_writes (indexes : FieldIndexes) (before : List Request) :
    versions indexes before = (List.range' 1 (versions indexes before).length).map toString ∧
      (after indexes before).nextVersion = 1 + (versions indexes before).length ∧
      ∀ x r, Assoc.get? x (after indexes before).slots = some r →
        ∀ between q k, q.call.Expects k r.resourceVersion → slot q.call.kind k = x →
          (Succeeds (after indexes (before ++ between)) q ↔
            Each (fun past d => ¬ (after indexes (before ++ past)).Touches x d) between) ∧
          (¬ Succeeds (after indexes (before ++ between)) q →
            ((after indexes (before ++ between)).perform q.uid q.now q.call).1 = .error
              ((after indexes (before ++ between)).refusal q.call.kind k r.resourceVersion)) ∧
          ∀ later q' k', q'.call.Expects k' r.resourceVersion → slot q'.call.kind k' = x →
            Succeeds (after indexes (before ++ between)) q →
              ¬ Succeeds (after indexes (before ++ (between ++ q :: later))) q' := by
  obtain ⟨hversions, hnext⟩ := versions_eq indexes before
  refine ⟨hversions, hnext, ?_⟩
  intro x r hx between q k hq hk
  have failed {s : Store} {d : Request} {e : StoreError}
      (he : (s.perform d.uid d.now d.call).1 = .error e) : ¬ Succeeds s d := by
    rintro ⟨reply, hreply⟩
    cases he.symm.trans hreply
  refine ⟨?_, ?_, ?_⟩
  · rcases perform_of_read hx between hq hk with ⟨huntouched, hdone⟩ | ⟨htouched, hrefused⟩
    · exact iff_of_true hdone huntouched
    · exact iff_of_false (failed hrefused) htouched
  · intro hfails
    rcases perform_of_read hx between hq hk with ⟨-, hdone⟩ | ⟨-, hrefused⟩
    · exact absurd hdone hfails
    · exact hrefused
  · intro later q' k' hq' hk' hdone
    rcases perform_of_read hx (between ++ q :: later) hq' hk' with ⟨huntouched, -⟩ | ⟨-, hrefused⟩
    · -- the first write is one of the requests in between
      exact absurd ⟨hdone, hq.isRead_eq_false, k, hq.addresses, hk⟩
        (huntouched between q later rfl)
    · exact failed hrefused

def noteMetadata (version : Option String) : Metadata :=
  { Metadata.new ⟨"w", "n"⟩ .empty with resourceVersion := version }

def note (version : Option String) : Json := .ofFields [
  ("kind", some (.str "Note")), ("metadata", some (noteMetadata version).toJson)]

def noteCreated : Request := ⟨"", "", .create "Note" (note none)⟩

/-- A write by a client that read the note as it was created first. -/
def noteRevised : Request := ⟨"", "", .update "Note" (note (some "1"))⟩

def noteDeleted : Request := ⟨"", "", .delete "Note" ⟨"w", "n"⟩⟩

/-- A note that was deleted and created again looks as it did before, but for its version. -/
theorem guarded_writes_recreated :
    versions .none [noteCreated, noteRevised, noteDeleted, noteCreated] = ["1", "2", "3"] ∧
      Succeeds (after .none [noteCreated]) noteRevised ∧
      ((after .none [noteCreated, noteDeleted, noteCreated]).perform "" "" noteRevised.call).1 =
        .error (.versionConflict "1" "2") ∧
      ¬ Succeeds (after .none [noteCreated, noteRevised, noteDeleted, noteCreated])
        noteRevised := by
  obtain ⟨-, -, hguard⟩ := guarded_writes .none [noteCreated]
  obtain ⟨r, hr, hversion⟩ : ∃ r, (after .none [noteCreated]).get? "Note" ⟨"w", "n"⟩ = some r ∧
      r.resourceVersion = "1" := ⟨_, rfl, rfl⟩
  have hexpects : noteRevised.call.Expects ⟨"w", "n"⟩ r.resourceVersion := by
    rw [hversion]
    exact .update (m := noteMetadata (some "1")) rfl rfl rfl
  obtain ⟨hdone, -, hsecond⟩ := hguard _ r hr [] noteRevised _ hexpects rfl
  have hfirst := hdone.mpr (each_nil _)
  exact ⟨by decide +kernel, hfirst, rfl,
    hsecond [noteDeleted, noteCreated] noteRevised _ hexpects rfl hfirst⟩

end Store

end ReleaseControl
