import Mathlib.Data.List.Induction
import ReleaseControl.Proofs.Store.Soundness
import ReleaseControl.Proofs.Timeline
import ReleaseControl.Record.ReleaseLink

/-! # Records under their keys

A call looks for its record in the slot of its kind and key (`StoreCall.Addresses`), and a slot goes
by one text. Names are checked when a record is created and at no other time. A key whose name has a
slash in it is a key that no record can be created under, and its slot may be that of a record of
another workspace: such a call strays (`Strays`). It reads, changes or takes out a record it does
not name.

This is the only way to a record of another key. In a run every call keeps to the record of its
kind, workspace and name, as if the store were a map from these three, exactly when no call of the
run strays (`exact_iff_no_strays`). -/

namespace ReleaseControl

/-- The key under which a call looks for a record. A call that is refused before has none. -/
inductive StoreCall.Addresses : StoreCall → RecordKey → Prop where
  | get (kind : String) (key : RecordKey) : Addresses (.get kind key) key
  | delete (kind : String) (key : RecordKey) : Addresses (.delete kind key) key
  | create {kind : String} {object : Json} {m : Metadata} (hkind : object.recordKind = .ok kind)
      (hmeta : object.recordMetadata = .ok m) (hname : Name.check m.name = .ok ()) :
      Addresses (.create kind object) m.key
  | update {kind : String} {object : Json} {m : Metadata} (hkind : object.recordKind = .ok kind)
      (hmeta : object.recordMetadata = .ok m) : Addresses (.update kind object) m.key
  | updateStatus {kind : String} {object : Json} {m : Metadata}
      (hkind : object.recordKind = .ok kind) (hmeta : object.recordMetadata = .ok m) :
      Addresses (.updateStatus kind object) m.key

/-- A call looks under one key only. -/
theorem StoreCall.Addresses.unique {c : StoreCall} {j k : RecordKey} (hj : c.Addresses j)
    (hk : c.Addresses k) : j = k := by
  have same {object : Json} {m m' : Metadata} (hm : object.recordMetadata = .ok m)
      (hm' : object.recordMetadata = .ok m') : m.key = m'.key := by
    rw [Except.ok.inj (hm.symm.trans hm')]
  cases hj with
  | get | delete => cases hk; rfl
  | create _ hm =>
      cases hk with
      | create _ hm' => exact same hm hm'
  | update _ hm =>
      cases hk with
      | update _ hm' => exact same hm hm'
  | updateStatus _ hm =>
      cases hk with
      | updateStatus _ hm' => exact same hm hm'

/-- Calls that fail when their record is not there. -/
def StoreCall.needsRecord : StoreCall → Bool
  | .update .. | .updateStatus .. | .delete .. => true
  | .create .. | .get .. | .list .. => false

namespace Store

open Timeline

/-! ## Runs of calls -/

/-- A call with what a creation would use. -/
structure Request where
  uid : String
  now : String
  call : StoreCall

/-- The store after some requests on an empty one. -/
def after (indexes : FieldIndexes) (requests : List Request) : Store :=
  requests.foldl (fun s q => (s.perform q.uid q.now q.call).2) (.empty indexes)

theorem after_concat (indexes : FieldIndexes) (requests : List Request) (q : Request) :
    after indexes (requests ++ [q]) =
      ((after indexes requests).perform q.uid q.now q.call).2 := by
  unfold after
  rw [List.foldl_append]
  rfl

theorem reachable_after (indexes : FieldIndexes) (requests : List Request) :
    Reachable (after indexes requests) := by
  induction requests using List.reverseRecOn with
  | nil => exact .empty indexes
  | append_singleton requests q ih =>
      rw [after_concat]
      exact .step ih q.uid q.now q.call

/-- The request gets an answer that is no error. -/
def Succeeds (s : Store) (q : Request) : Prop :=
  ∃ reply, (s.perform q.uid q.now q.call).1 = .ok reply

/-- A record was created with this kind and key, and not deleted under them since. -/
def Live (indexes : FieldIndexes) (requests : List Request) (kind : String) (key : RecordKey) :
    Prop :=
  ∃ before q rest, requests = before ++ q :: rest ∧
    (∃ object, q.call = .create kind object ∧ q.call.Addresses key) ∧
    Succeeds (after indexes before) q ∧
    Each (fun past d => d.call = .delete kind key →
      ¬ Succeeds (after indexes (before ++ q :: past)) d) rest

variable {indexes : FieldIndexes} {requests : List Request} {kind : String} {key : RecordKey}

/-- What is live was so before and was not deleted, or it was created last. -/
theorem live_concat {d : Request} : Live indexes (requests ++ [d]) kind key ↔
    (Live indexes requests kind key ∧
        (d.call = .delete kind key → ¬ Succeeds (after indexes requests) d)) ∨
      (∃ object, d.call = .create kind object ∧ d.call.Addresses key) ∧
        Succeeds (after indexes requests) d := by
  constructor
  · rintro ⟨before, q, rest, hsplit, hq, hsucceeds, hrest⟩
    rcases concat_eq_iff.mp hsplit with ⟨-, rfl, rfl⟩ | ⟨rest, rfl, rfl⟩
    · exact .inr ⟨hq, hsucceeds⟩
    · obtain ⟨hrest, hd⟩ := each_concat.mp hrest
      exact .inl ⟨⟨before, q, rest, rfl, hq, hsucceeds, hrest⟩, hd⟩
  · rintro (⟨⟨before, q, rest, rfl, hq, hsucceeds, hrest⟩, hd⟩ | ⟨hd, hsucceeds⟩)
    · exact ⟨before, q, rest ++ [d], by simp, hq, hsucceeds, each_concat.mpr ⟨hrest, hd⟩⟩
    · exact ⟨requests, d, [], rfl, hd, hsucceeds, each_nil _⟩

/-! ## The slot of a call -/

section Slots

variable {uid now : String} {s s' : Store} {c : StoreCall} {x : String} {r : StoredRecord}
  {m : Metadata}

/-- A call that creates a record addresses it. -/
theorem addresses_of_checkNew {object : Json} (h : s.checkNew kind object = .ok m) :
    (StoreCall.create kind object).Addresses m.key := by
  obtain ⟨hkind, hmeta, hname, -⟩ := checkNew_eq_ok.mp h
  exact .create hkind hmeta hname

/-- A call does not touch the slots that it does not address. -/
theorem Effect.get?_of_ne (h : Effect uid now s c s')
    (hx : ∀ k, c.Addresses k → x ≠ slot c.kind k) :
    Assoc.get? x s'.slots = Assoc.get? x s.slots := by
  cases h with
  | nothing => rfl
  | created hnew => exact Assoc.get?_put_ne (hx _ (addresses_of_checkNew hnew)) _ _
  | updated hrevise =>
      obtain ⟨hkind, hmeta, -, -⟩ := revise_eq_ok.mp hrevise
      exact Assoc.get?_put_ne (hx _ (.update hkind hmeta)) _ _
  | statusUpdated hrevise =>
      obtain ⟨hkind, hmeta, -, -⟩ := revise_eq_ok.mp hrevise
      exact Assoc.get?_put_ne (hx _ (.updateStatus hkind hmeta)) _ _
  | deleted => exact Assoc.get?_remove_ne (hx _ (.delete _ _)) _

/-- A record goes back to one that was there with the same kind and key, or to its creation. -/
theorem Effect.origin (h : Effect uid now s c s') (hs : s.Sound)
    (hx : Assoc.get? x s'.slots = some r) (hacc : r.Accounted x kind m) :
    (∃ r₀ m₀, Assoc.get? x s.slots = some r₀ ∧ r₀.Accounted x kind m₀ ∧ m₀.key = m.key) ∨
      ∃ object, c = .create kind object ∧ c.Addresses m.key ∧
        ∃ m₀, s.checkNew kind object = .ok m₀ := by
  have same {kind' : String} {m' : Metadata} (h' : r.Accounted x kind' m') :
      kind' = kind ∧ m' = m :=
    ⟨Except.ok.inj (h'.objectKind.symm.trans hacc.objectKind),
      Except.ok.inj (h'.objectMetadata.symm.trans hacc.objectMetadata)⟩
  have revised (part : Part) {kind' version : String} {object : Json} {existing : StoredRecord}
      {incoming kept : Metadata} (hrevise : s.revise kind' object = .ok (existing, incoming))
      (hkept : existing.object.recordMetadata = .ok kept) (hslot : x = slot kind' incoming.key)
      (hr : r = existing.revised part version kind' incoming kept object) :
      ∃ r₀ m₀, Assoc.get? x s.slots = some r₀ ∧ r₀.Accounted x kind m₀ ∧ m₀.key = m.key := by
    obtain ⟨-, -, hget, -⟩ := revise_eq_ok.mp hrevise
    have hold : Assoc.get? x s.slots = some existing := hslot ▸ hget
    obtain ⟨kind₀, m₀, hacc₀⟩ := hs.accounted hold
    obtain rfl : m₀ = kept := Except.ok.inj (hacc₀.objectMetadata.symm.trans hkept)
    obtain ⟨rfl, hm⟩ := same (hr ▸ accounted_revised hacc₀ part version hslot object)
    exact ⟨existing, m₀, hold, hacc₀, by rw [← hm]; rfl⟩
  rcases h.get?_cases hx with hold | hnew
  · exact .inl ⟨r, m, hold, hacc, rfl⟩
  · cases hnew with
    | created hnew =>
        obtain ⟨rfl, rfl⟩ := same (accounted_created hnew)
        have haddresses := addresses_of_checkNew hnew
        exact .inr ⟨_, rfl, haddresses, _, hnew⟩
    | updated hrevise hkept => exact .inl (revised .spec hrevise hkept rfl rfl)
    | statusUpdated hrevise hkept => exact .inl (revised .status hrevise hkept rfl rfl)

end Slots

/-! ## Straying calls -/

/-- The call looks for its record under a name with a slash in it and comes upon one. -/
def Strays (s : Store) (c : StoreCall) : Prop :=
  ∃ k, c.Addresses k ∧ '/' ∈ k.name.toList ∧ (s.get? c.kind k).isSome

/-- The request keeps to the record of its kind, workspace and name. -/
structure Exact (indexes : FieldIndexes) (before : List Request) (q : Request) : Prop where
  /-- The record that is found bears the key, in the facts of the store and in its object. -/
  reads : ∀ k r, q.call.Addresses k → (after indexes before).get? q.call.kind k = some r →
    r.kind = q.call.kind ∧ r.key = k ∧ r.object.recordKind = .ok q.call.kind ∧
      ∃ m, r.object.recordMetadata = .ok m ∧ m.key = k
  /-- One is found exactly when it was created with the key and not deleted since. -/
  present : ∀ k, q.call.Addresses k →
    (((after indexes before).get? q.call.kind k).isSome ↔ Live indexes before q.call.kind k)
  missing : ∀ k, q.call.Addresses k → q.call.needsRecord → ¬ Live indexes before q.call.kind k →
    ((after indexes before).perform q.uid q.now q.call).1 = .error (.notFound q.call.kind k.text)
  /-- Records of other kinds and keys stay as they are. -/
  others : ∀ k x r kind m, q.call.Addresses k →
    Assoc.get? x (after indexes before).slots = some r → r.object.recordKind = .ok kind →
      r.object.recordMetadata = .ok m → (kind, m.key) ≠ (q.call.kind, k) →
        Assoc.get? x ((after indexes before).perform q.uid q.now q.call).2.slots = some r

section Runs

variable {s : Store}

/-- A call whose record is not there says so. -/
theorem perform_of_missing {uid now : String} {c : StoreCall} {k : RecordKey}
    (hk : c.Addresses k) (hc : c.needsRecord) (hnone : s.get? c.kind k = none) :
    (s.perform uid now c).1 = .error (.notFound c.kind k.text) := by
  cases hk with
  | get | create => cases hc
  | delete kind key => exact congrArg Prod.fst (delete_of_none hnone)
  | update hkind hmeta =>
      exact congrArg Prod.fst (write_of_error (revise_of_none hkind hmeta hnone))
  | updateStatus hkind hmeta =>
      exact congrArg Prod.fst (write_of_error (revise_of_none hkind hmeta hnone))

/-- A stored record goes back to a request that created it. -/
theorem live_of_stored {x : String} {r : StoredRecord} {m : Metadata}
    (hx : Assoc.get? x (after indexes requests).slots = some r) (hacc : r.Accounted x kind m) :
    Live indexes requests kind m.key := by
  induction requests using List.reverseRecOn generalizing r m with
  | nil => cases hx
  | append_singleton requests q ih =>
      rw [after_concat] at hx
      have heffect := perform_effect q.uid q.now (after indexes requests) q.call
      rcases heffect.origin (reachable_after indexes requests).sound hx hacc with
        ⟨r₀, m₀, hx₀, hacc₀, hkey⟩ | ⟨object, hcall, haddresses, m₀, hnew⟩
      · refine live_concat.mpr (.inl ⟨hkey ▸ ih hx₀ hacc₀, ?_⟩)
        -- a deletion that succeeds leaves nothing in the slot
        rintro hdelete ⟨reply, hreply⟩
        have hget : (after indexes requests).get? kind m.key = some r₀ := by
          rw [get?, ← hkey, ← hacc₀.slot]
          exact hx₀
        have hgone : ((after indexes requests).perform q.uid q.now q.call).2 =
            (after indexes requests).expel kind m.key r₀ := by
          rw [hdelete]
          exact congrArg Prod.snd (delete_of_get? hget)
        rw [hgone, slots_expel, hacc.slot, Assoc.get?_remove_self] at hx
        cases hx
      · refine live_concat.mpr (.inr ⟨⟨object, hcall, haddresses⟩, ?_⟩)
        unfold Succeeds
        rw [hcall]
        exact ⟨_, congrArg Prod.fst (create_of_checkNew hnew)⟩

/-- The facts of the store agree with the object: the same kind, and a key of the same text. -/
structure Placed (x : String) (r : StoredRecord) (m : Metadata) : Prop where
  accounted : r.Accounted x r.kind m
  slashless : '/' ∉ r.kind.toList
  text : m.key.text = r.key.text

/-- In a run on kinds without a slash. -/
theorem placed_of_stored (hkinds : ∀ q ∈ requests, '/' ∉ q.call.kind.toList) {x : String}
    {r : StoredRecord} (hx : Assoc.get? x (after indexes requests).slots = some r) :
    ∃ m, Placed x r m := by
  have hlast : '/' ∉ r.kind.toList := by
    induction requests using List.reverseRecOn with
    | nil => cases hx
    | append_singleton requests q ih =>
        rw [after_concat] at hx
        have heffect := perform_effect q.uid q.now (after indexes requests) q.call
        rcases heffect.get?_cases hx with hold | hnew
        · exact ih (fun q hq => hkinds q (List.mem_append_left _ hq)) hold
        · rw [hnew.kind_eq]
          exact hkinds q (List.mem_append_right _ List.mem_cons_self)
  obtain ⟨kind, m, hacc⟩ := (reachable_after indexes requests).sound.accounted hx
  -- the object's kind is that of the creation
  obtain ⟨before, q, rest, hsplit, ⟨object, hcall, -⟩, -, -⟩ := live_of_stored hx hacc
  have hkind : '/' ∉ kind.toList := by
    have hq := hkinds q (hsplit ▸ List.mem_append_right _ List.mem_cons_self)
    rwa [hcall] at hq
  obtain ⟨rfl, htext⟩ := slot_inj hkind hlast (hacc.slot.symm.trans hacc.place)
  exact ⟨m, hacc, hlast, htext⟩

/-- No request so far strayed. -/
abbrev Keeps (indexes : FieldIndexes) : List Request → Prop :=
  Each fun before q => ¬ Strays (after indexes before) q.call

/-- Then records bear names without a slash. -/
theorem slash_notMem_key (h : Keeps indexes requests) {x : String} {r : StoredRecord}
    (hx : Assoc.get? x (after indexes requests).slots = some r) : '/' ∉ r.key.name.toList := by
  induction requests using List.reverseRecOn with
  | nil => cases hx
  | append_singleton requests q ih =>
      obtain ⟨h, hq⟩ := each_concat.mp h
      rw [after_concat] at hx
      have heffect := perform_effect q.uid q.now (after indexes requests) q.call
      generalize q.call = c at hq heffect hx
      rcases heffect.get?_cases hx with hold | hnew
      · exact ih h hold
      · cases hnew with
        | created hnew => exact Name.slash_notMem (checkNew_eq_ok.mp hnew).2.2.1
        | updated hrevise =>
            obtain ⟨hkind, hmeta, hget, -⟩ := revise_eq_ok.mp hrevise
            exact fun hslash => hq ⟨_, .update hkind hmeta, hslash, Option.isSome_of_mem hget⟩
        | statusUpdated hrevise =>
            obtain ⟨hkind, hmeta, hget, -⟩ := revise_eq_ok.mp hrevise
            exact fun hslash => hq ⟨_, .updateStatus hkind hmeta, hslash,
              Option.isSome_of_mem hget⟩

/-- What is found under a key with a proper name bears that key. -/
theorem key_of_get? (hkinds : ∀ q ∈ requests, '/' ∉ q.call.kind.toList)
    (h : Keeps indexes requests) (hkind : '/' ∉ kind.toList) (hkey : '/' ∉ key.name.toList)
    {r : StoredRecord} (hget : (after indexes requests).get? kind key = some r) :
    r.kind = kind ∧ r.key = key ∧ ∃ m, r.Accounted (slot kind key) kind m ∧ m.key = key := by
  obtain ⟨m, hacc, hslash, htext⟩ := placed_of_stored hkinds hget
  obtain ⟨rfl, hplace⟩ := slot_inj hkind hslash hacc.place
  obtain rfl : key = r.key := RecordKey.text_inj hkey (slash_notMem_key h hget) hplace
  exact ⟨rfl, rfl, m, hacc, RecordKey.text_inj (Name.slash_notMem hacc.name) hkey htext⟩

/-- A call that takes no record out of a slot leaves one in it. -/
theorem Effect.isSome_get? {uid now : String} {s' : Store} {c : StoreCall}
    (h : Effect uid now s c s') {x : String} (hx : (Assoc.get? x s.slots).isSome) :
    (Assoc.get? x s'.slots).isSome ∨ ∃ kind key, c = .delete kind key ∧
      (s.get? kind key).isSome ∧ x = slot kind key := by
  have put {y : String} {r : StoredRecord} : (Assoc.get? x (Assoc.put y r s.slots)).isSome := by
    rw [Assoc.get?_put]
    split
    · rfl
    · exact hx
  cases h with
  | nothing => exact .inl hx
  | created | updated | statusUpdated => exact .inl put
  | @deleted kind key r hget =>
      by_cases hslot : x = slot kind key
      · exact .inr ⟨kind, key, rfl, Option.isSome_of_mem hget, hslot⟩
      · rw [slots_expel, Assoc.get?_remove_ne hslot]
        exact .inl hx

theorem Live.exists_create (h : Live indexes requests kind key) :
    ∃ q ∈ requests, ∃ object, q.call = .create kind object ∧ q.call.Addresses key := by
  obtain ⟨before, q, rest, rfl, hq, -⟩ := h
  exact ⟨q, List.mem_append_right _ List.mem_cons_self, hq⟩

/-- Records are created under proper names only. -/
theorem Live.slash_notMem (h : Live indexes requests kind key) : '/' ∉ key.name.toList := by
  obtain ⟨q, -, object, hcall, haddresses⟩ := h.exists_create
  rw [hcall] at haddresses
  cases haddresses with
  | create _ _ hname => exact Name.slash_notMem hname

/-- A creation that succeeds puts its record into the slot. -/
theorem isSome_of_created {uid now : String} {object : Json}
    (haddresses : (StoreCall.create kind object).Addresses key)
    (hdone : Succeeds s ⟨uid, now, .create kind object⟩) :
    ((s.perform uid now (.create kind object)).2.get? kind key).isSome := by
  obtain ⟨reply, hreply⟩ := hdone
  cases hnew : s.checkNew kind object with
  | error e =>
      have hfails : (s.perform uid now (.create kind object)).1 = .error e :=
        congrArg Prod.fst (create_of_error hnew)
      cases hfails.symm.trans hreply
  | ok m =>
      rw [haddresses.unique (addresses_of_checkNew hnew)]
      have hstored : (s.perform uid now (.create kind object)).2 = _ :=
        congrArg Prod.snd (create_of_checkNew hnew)
      rw [hstored, get?, slots_accept]
      exact Option.isSome_of_mem (Assoc.get?_put_self _ _ _)

/-- What is live is there. -/
theorem isSome_of_live (hkinds : ∀ q ∈ requests, '/' ∉ q.call.kind.toList)
    (h : Keeps indexes requests) (hlive : Live indexes requests kind key) :
    ((after indexes requests).get? kind key).isSome := by
  induction requests using List.reverseRecOn with
  | nil =>
      obtain ⟨q, hq, -⟩ := hlive.exists_create
      cases hq
  | append_singleton requests q ih =>
      obtain ⟨h, hq⟩ := each_concat.mp h
      have hbefore : ∀ q ∈ requests, '/' ∉ q.call.kind.toList :=
        fun q hq => hkinds q (List.mem_append_left _ hq)
      rw [after_concat]
      rcases live_concat.mp hlive with ⟨hold, hkept⟩ | ⟨⟨object, hcall, haddresses⟩, hdone⟩
      · have hsome := ih hbefore h hold
        have heffect := perform_effect q.uid q.now (after indexes requests) q.call
        rcases heffect.isSome_get? hsome with hafter | ⟨kind', key', hcall, hfound, hslot⟩
        · exact hafter
        · -- the record was taken out, under its own key since the deletion did not stray
          have hname : '/' ∉ key'.name.toList := by
            rw [hcall] at hq
            exact fun hslash => hq ⟨key', .delete kind' key', hslash, hfound⟩
          have hkind' : '/' ∉ kind'.toList := by
            have hlast := hkinds q (List.mem_append_right _ List.mem_cons_self)
            rwa [hcall] at hlast
          have hkind : '/' ∉ kind.toList := by
            obtain ⟨d, hd, object, hcreate, -⟩ := hold.exists_create
            have hcreated := hbefore d hd
            rwa [hcreate] at hcreated
          obtain ⟨rfl, htext⟩ := slot_inj hkind hkind' hslot
          obtain rfl := RecordKey.text_inj hlive.slash_notMem hname htext
          obtain ⟨r, hr⟩ := Option.isSome_iff_exists.mp hfound
          refine absurd ?_ (hkept hcall)
          unfold Succeeds
          rw [hcall]
          exact ⟨r, congrArg Prod.fst (delete_of_get? hr)⟩
      · obtain ⟨uid, now, c⟩ := q
        obtain rfl : c = _ := hcall
        exact isSome_of_created haddresses hdone

/-! ## Exactness -/

theorem exact_of_keeps (hkinds : ∀ q ∈ requests, '/' ∉ q.call.kind.toList)
    (h : Keeps indexes requests) {q : Request} (hkind : '/' ∉ q.call.kind.toList)
    (hq : ¬ Strays (after indexes requests) q.call) : Exact indexes requests q := by
  have found {k : RecordKey} {r : StoredRecord} (hk : q.call.Addresses k)
      (hget : (after indexes requests).get? q.call.kind k = some r) :
      r.kind = q.call.kind ∧ r.key = k ∧
        ∃ m, r.Accounted (slot q.call.kind k) q.call.kind m ∧ m.key = k :=
    key_of_get? hkinds h hkind
      (fun hslash => hq ⟨k, hk, hslash, Option.isSome_of_mem hget⟩) hget
  have present (k : RecordKey) (hk : q.call.Addresses k) :
      ((after indexes requests).get? q.call.kind k).isSome ↔
        Live indexes requests q.call.kind k := by
    refine ⟨fun hsome => ?_, isSome_of_live hkinds h⟩
    obtain ⟨r, hr⟩ := Option.isSome_iff_exists.mp hsome
    obtain ⟨-, -, m, hacc, hm⟩ := found hk hr
    exact hm ▸ live_of_stored hr hacc
  refine ⟨?_, present, ?_, ?_⟩
  · intro k r hk hget
    obtain ⟨hrkind, hrkey, m, hacc, hm⟩ := found hk hget
    exact ⟨hrkind, hrkey, hacc.objectKind, m, hacc.objectMetadata, hm⟩
  · intro k hk hneeds hlive
    rw [← present k hk, Option.not_isSome_iff_eq_none] at hlive
    exact perform_of_missing hk hneeds hlive
  · intro k x r kind m hk hx hobject hmeta hne
    have heffect := perform_effect q.uid q.now (after indexes requests) q.call
    rw [heffect.get?_of_ne, hx]
    -- the slot of the call holds no record of another key
    rintro k' hk' rfl
    obtain ⟨-, -, m', hacc, hm'⟩ := found hk' hx
    rw [hacc.objectKind, Except.ok.injEq] at hobject
    rw [hacc.objectMetadata, Except.ok.injEq] at hmeta
    exact hne (by rw [← hobject, ← hmeta, hm', hk'.unique hk])

theorem not_strays_of_exact {q : Request} (h : Exact indexes requests q) :
    ¬ Strays (after indexes requests) q.call := by
  rintro ⟨k, hk, hslash, hsome⟩
  obtain ⟨r, hr⟩ := Option.isSome_iff_exists.mp hsome
  obtain ⟨-, -, -, m, hmeta, rfl⟩ := h.reads k r hk hr
  obtain ⟨kind, m', hacc⟩ := (reachable_after indexes requests).sound.accounted hr
  obtain rfl : m = m' := Except.ok.inj (hmeta.symm.trans hacc.objectMetadata)
  exact Name.slash_notMem hacc.name hslash

end Runs

/-- In a run on kinds without a slash, every call keeps to the record of its kind, workspace and
name if and only if no call of the run strays. -/
theorem exact_iff_no_strays {indexes : FieldIndexes} {requests : List Request}
    (hkinds : ∀ q ∈ requests, '/' ∉ q.call.kind.toList) :
    Each (Exact indexes) requests ↔
      Each (fun before q => ¬ Strays (after indexes before) q.call) requests := by
  induction requests using List.reverseRecOn with
  | nil => exact ⟨fun _ => each_nil _, fun _ => each_nil _⟩
  | append_singleton requests q ih =>
      have hbefore : ∀ q ∈ requests, '/' ∉ q.call.kind.toList :=
        fun q hq => hkinds q (List.mem_append_left _ hq)
      have hlast := hkinds q (List.mem_append_right _ List.mem_cons_self)
      rw [each_concat, each_concat, ih hbefore]
      exact and_congr_right fun h => ⟨not_strays_of_exact, exact_of_keeps hbefore h hlast⟩

/-- A link of one workspace is read and deleted under a key of another one. -/
def aliased : List Request := [
  ⟨"1", "", .create ReleaseLink.kind (ReleaseLink.new ⟨"a/b", "c"⟩ "x" "app" none).toJson⟩,
  ⟨"2", "", .get ReleaseLink.kind ⟨"a", "b/c"⟩⟩,
  ⟨"3", "", .delete ReleaseLink.kind ⟨"a", "b/c"⟩⟩]

theorem kinds_aliased : ∀ q ∈ aliased, '/' ∉ q.call.kind.toList := by
  simp only [aliased, List.forall_mem_cons]
  decide

theorem exact_iff_no_strays_aliased : (∀ q ∈ aliased, '/' ∉ q.call.kind.toList) ∧
    (Each (Exact .none) aliased ↔
      Each (fun before q => ¬ Strays (after .none before) q.call) aliased) :=
  ⟨kinds_aliased, exact_iff_no_strays kinds_aliased⟩

/-- The link is handed out under a key that is not its own, and is gone after the deletion of a
record that was never created. -/
theorem taken_out_under_alias : (∀ q ∈ aliased, '/' ∉ q.call.kind.toList) ∧
    ((after .none (aliased.take 1)).get? ReleaseLink.kind ⟨"a", "b/c"⟩).map (·.key) =
      some ⟨"a/b", "c"⟩ ∧
    ((after .none aliased).get? ReleaseLink.kind ⟨"a/b", "c"⟩).isNone ∧
    ¬ Each (Exact .none) aliased := by
  refine ⟨kinds_aliased, by decide +kernel, by decide +kernel, ?_⟩
  intro hexact
  have hget : Exact .none (aliased.take 1) ⟨"2", "", .get ReleaseLink.kind ⟨"a", "b/c"⟩⟩ :=
    hexact _ _ _ rfl
  exact not_strays_of_exact hget ⟨⟨"a", "b/c"⟩, .get _ _, by decide, by decide +kernel⟩

end Store

end ReleaseControl
