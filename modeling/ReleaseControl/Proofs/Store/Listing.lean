import Mathlib.Data.List.Nodup
import Mathlib.Data.List.Sort
import Mathlib.Data.Prod.Lex
import Mathlib.Data.String.Basic
import ReleaseControl.Proofs.Store.Index

/-! # Lists agree with the records

A list call either looks at every slot or follows the index to the records under one entry. Both
ways end in the same records: a list with a selector is the list without it, less the records that
do not have the value (`list_eq_filter`). It takes that the index follows the records
(`indexed_after`), that no metadata of a stored record is out of shape, and that the order of keys
leaves nothing open, so that a list is settled by its members. -/

namespace ReleaseControl

/-! ## The order of keys -/

namespace RecordKey

/-- Keys are ordered as pairs are, the workspace first. -/
def rank (k : RecordKey) : String ×ₗ String := toLex (k.workspace, k.name)

theorem rank_injective : Function.Injective rank := by
  rintro ⟨w, n⟩ ⟨w', n'⟩ h
  obtain ⟨rfl, rfl⟩ := Prod.mk.inj (toLex.injective h)
  rfl

theorem before_iff {a b : RecordKey} : a.before b ↔ a.rank < b.rank := by
  simp [before, rank, Prod.Lex.toLex_lt_toLex]

theorem atMost_iff {a b : RecordKey} : a.atMost b ↔ a.rank ≤ b.rank := by
  rw [atMost, Bool.not_eq_true', Bool.eq_false_iff, ne_eq, before_iff, not_lt]

end RecordKey

namespace StoredRecord

def Before (a b : StoredRecord) : Prop := a.key.before b.key

instance : Std.Irrefl Before where
  irrefl a h := lt_irrefl a.key.rank (RecordKey.before_iff.mp h)

instance : Std.Antisymm Before where
  antisymm _ _ hab hba :=
    absurd (RecordKey.before_iff.mp hba) (lt_asymm (RecordKey.before_iff.mp hab))

/-- Records with keys of their own are sorted strictly. -/
theorem pairwise_before_mergeSort {rs : List StoredRecord} (h : (rs.map key).Nodup) :
    (rs.mergeSort fun a b => a.key.atMost b.key).Pairwise Before := by
  have hsorted : (rs.mergeSort fun a b => a.key.atMost b.key).Pairwise
      fun a b => a.key.atMost b.key := by
    apply List.pairwise_mergeSort
    · intro a b c hab hbc
      rw [RecordKey.atMost_iff] at *
      exact hab.trans hbc
    · intro a b
      rw [Bool.or_eq_true, RecordKey.atMost_iff, RecordKey.atMost_iff]
      exact le_total _ _
  have hkeys : (rs.mergeSort fun a b => a.key.atMost b.key).Pairwise
      fun a b => a.key ≠ b.key := by
    rw [← List.pairwise_map]
    exact ((List.mergeSort_perm rs _).map key).nodup_iff.mpr h
  refine (hsorted.and hkeys).imp ?_
  rintro a b ⟨hle, hne⟩
  have hrank : a.key.rank ≠ b.key.rank := fun heq => hne (RecordKey.rank_injective heq)
  exact RecordKey.before_iff.mpr (lt_of_le_of_ne (RecordKey.atMost_iff.mp hle) hrank)

end StoredRecord

/-! ## What a query asks of metadata -/

structure Query.Fits (q : Query) (m : Metadata) : Prop where
  workspace : ∀ w, q.workspace = some w → m.workspace = w
  labels : ∀ name value, (name, value) ∈ q.labels.entries → m.labels.get? name = some value

theorem Query.matchesMetadata_iff {q : Query} {m : Metadata} :
    q.matchesMetadata m ↔ q.Fits m := by
  unfold matchesMetadata Labels.includes
  rw [Bool.and_eq_true, Option.all_eq_true, List.all_eq_true]
  constructor
  · rintro ⟨hspace, hlabels⟩
    exact ⟨fun w hw => by simpa using hspace w hw,
      fun name value hmem => by simpa using hlabels _ hmem⟩
  · rintro ⟨hspace, hlabels⟩
    exact ⟨fun w hw => by simpa using hspace w hw,
      fun e he => by simpa using hlabels e.1 e.2 he⟩

/-- Asking for every record asks for nothing of it. -/
theorem Query.fits_all (m : Metadata) : Query.all.Fits m where
  workspace _ h := by cases h
  labels _ _ h := by cases h

namespace Store

/-! ## Lists of candidates -/

/-- Candidates with metadata in shape are kept as their metadata fit. -/
theorem exists_selectMatching (q : Query) {rs : List StoredRecord}
    (h : ∀ r ∈ rs, ∃ m, r.object.recordMetadata = .ok m) :
    ∃ kept, selectMatching q rs = .ok kept ∧ kept.Sublist rs ∧
      ∀ r, r ∈ kept ↔ r ∈ rs ∧ ∃ m, r.object.recordMetadata = .ok m ∧ q.Fits m := by
  induction rs with
  | nil => exact ⟨[], rfl, .slnil, by simp⟩
  | cons a rest ih =>
      obtain ⟨hfirst, hrest⟩ := List.forall_mem_cons.mp h
      obtain ⟨m, hm⟩ := hfirst
      obtain ⟨kept, hkept, hsub, hmem⟩ := ih hrest
      have hselect : selectMatching q (a :: rest) =
          .ok (if q.matchesMetadata m then a :: kept else kept) := by
        unfold selectMatching
        rw [hm, hkept]
        rfl
      have hfits : (∃ m, a.object.recordMetadata = .ok m ∧ q.Fits m) ↔ q.matchesMetadata m := by
        rw [Query.matchesMetadata_iff]
        constructor
        · rintro ⟨m', hm', hfits⟩
          rwa [Except.ok.inj (hm.symm.trans hm')]
        · intro hfits
          exact ⟨m, hm, hfits⟩
      refine ⟨_, hselect, ?_, ?_⟩
      · split
        · exact hsub.cons_cons a
        · exact hsub.cons a
      · intro r
        by_cases hmatch : q.matchesMetadata m
        · rw [if_pos hmatch, List.mem_cons, List.mem_cons, hmem, or_and_right]
          refine or_congr_left (iff_self_and.mpr ?_)
          rintro rfl
          exact hfits.mpr hmatch
        · rw [if_neg hmatch, List.mem_cons, hmem, or_and_right]
          refine (or_iff_right ?_).symm
          rintro ⟨rfl, hr⟩
          exact hmatch (hfits.mp hr)

/-- The list of some candidates: those that fit, in the order of their keys. -/
theorem exists_list {s : Store} (hs : s.Sound) {kind : String} {q : Query}
    {found : List StoredRecord} (hfound : s.candidates kind q = .ok found)
    (hstored : ∀ r ∈ found, ∃ x, Assoc.get? x s.slots = some r)
    (hkeys : (found.map StoredRecord.key).Nodup) :
    ∃ rs, s.list kind q = .ok rs ∧ rs.Pairwise StoredRecord.Before ∧
      ∀ r, r ∈ rs ↔ r ∈ found ∧ ∃ m, r.object.recordMetadata = .ok m ∧ q.Fits m := by
  have hshape : ∀ r ∈ found, ∃ m, r.object.recordMetadata = .ok m := by
    intro r hr
    obtain ⟨x, hx⟩ := hstored r hr
    obtain ⟨kind', m, hacc⟩ := hs.accounted hx
    exact ⟨m, hacc.objectMetadata⟩
  obtain ⟨kept, hkept, hsub, hmem⟩ := exists_selectMatching q hshape
  refine ⟨kept.mergeSort fun a b => a.key.atMost b.key, ?_, ?_, ?_⟩
  · unfold list
    rw [hfound]
    show (selectMatching q found >>= _) = _
    rw [hkept]
    rfl
  · exact StoredRecord.pairwise_before_mergeSort ((hsub.map _).nodup hkeys)
  · intro r
    rw [List.mem_mergeSort, hmem]

theorem mem_ofKind {s : Store} (hs : s.Sound) (kind : String) (r : StoredRecord) :
    r ∈ (s.slots.map (·.2)).filter (fun r => r.kind == kind) ↔
      (∃ x, Assoc.get? x s.slots = some r) ∧ r.kind = kind := by
  rw [List.mem_filter, List.mem_map, beq_iff_eq]
  refine and_congr_left fun _ => ?_
  constructor
  · rintro ⟨⟨x, r⟩, hx, rfl⟩
    exact ⟨x, Assoc.get?_of_mem hs.nodup hx⟩
  · rintro ⟨x, hx⟩
    exact ⟨(x, r), Assoc.mem_of_get? hx, rfl⟩

/-- Records of one kind are in the slots of their keys, which are listed once. -/
theorem nodup_keys_ofKind {s : Store} (hs : s.Sound) (kind : String) :
    (((s.slots.map (·.2)).filter fun r => r.kind == kind).map StoredRecord.key).Nodup := by
  apply List.Nodup.of_map (slot kind)
  have hslots : (((s.slots.map (·.2)).filter fun r => r.kind == kind).map
      StoredRecord.key).map (slot kind) =
        Assoc.keys (s.slots.filter fun e => e.2.kind == kind) := by
    rw [List.filter_map, List.map_map, List.map_map, Assoc.keys]
    apply List.map_congr_left
    rintro ⟨x, r⟩ hx
    obtain ⟨hx, hkind⟩ := List.mem_filter.mp hx
    obtain ⟨kind', m, hacc⟩ := hs.accounted (Assoc.get?_of_mem hs.nodup hx)
    rw [hacc.place, beq_iff_eq.mp hkind]
    rfl
  rw [hslots]
  exact hs.nodup.sublist (List.filter_sublist.map _)

/-- Without a selector every record of the kind is looked at. -/
theorem exists_list_all {s : Store} (hs : s.Sound) (kind : String) {q : Query}
    (hq : q.selector = none) :
    ∃ rs, s.list kind q = .ok rs ∧ rs.Pairwise StoredRecord.Before ∧
      ∀ r, r ∈ rs ↔ (∃ x, Assoc.get? x s.slots = some r) ∧ r.kind = kind ∧
        ∃ m, r.object.recordMetadata = .ok m ∧ q.Fits m := by
  have hfound : s.candidates kind q =
      .ok ((s.slots.map (·.2)).filter fun r => r.kind == kind) := by
    unfold candidates
    rw [hq]
  obtain ⟨rs, hlist, hsorted, hrs⟩ :=
    exists_list hs hfound (fun r hr => ((mem_ofKind hs kind r).mp hr).1) (nodup_keys_ofKind hs kind)
  refine ⟨rs, hlist, hsorted, ?_⟩
  intro r
  rw [hrs, mem_ofKind hs, and_assoc]

section Selected

variable {s : Store} {kind : String} {sel : FieldSelector}

/-- The index knows all records of the kind that have the value. -/
theorem mem_ofValue (hs : s.Sound) (hindexed : s.Indexed)
    (hsel : s.indexes.contains kind sel.field) (r : StoredRecord) :
    r ∈ (keysAt s.index ⟨kind, sel.field, sel.value⟩).filterMap (s.get? kind) ↔
      (∃ x, Assoc.get? x s.slots = some r) ∧ r.kind = kind ∧
        sel.value ∈ r.object.fieldValues sel.field := by
  have hlisted := hindexed.mem_iff ⟨kind, sel.field, sel.value⟩
  rw [List.mem_filterMap]
  constructor
  · rintro ⟨k, hk, hget⟩
    obtain ⟨r', hr'⟩ := (hlisted k).mp hk
    obtain rfl : r = r' := Option.some.inj (hget.symm.trans hr'.stored)
    exact ⟨⟨_, hget⟩, hr'.kind, (mem_indexEntries.mp hr'.entry).2.2⟩
  · rintro ⟨⟨x, hx⟩, rfl, hvalue⟩
    obtain ⟨kind', m, hacc⟩ := hs.accounted hx
    have hget : s.get? r.kind r.key = some r := by
      rw [get?, ← hacc.place]
      exact hx
    have hentry : ⟨r.kind, sel.field, sel.value⟩ ∈ s.indexEntries r.kind r :=
      mem_indexEntries.mpr ⟨rfl, hsel, hvalue⟩
    exact ⟨r.key, (hlisted r.key).mpr ⟨r, hget, rfl, rfl, hentry⟩, hget⟩

/-- The keys of the records found are the keys that the index lists. -/
theorem nodup_keys_ofValue (hindexed : s.Indexed) (entry : IndexEntry) :
    (((keysAt s.index entry).filterMap (s.get? entry.kind)).map StoredRecord.key).Nodup := by
  have hsame : ((keysAt s.index entry).filterMap (s.get? entry.kind)).map StoredRecord.key =
      keysAt s.index entry := by
    rw [List.map_filterMap]
    refine (List.filterMap_congr ?_).trans List.filterMap_some
    intro k hk
    obtain ⟨r, hr⟩ := (hindexed.mem_iff entry k).mp hk
    rw [hr.stored, Option.map_some, hr.key]
  rw [hsame]
  exact hindexed.nodup _

/-- With a selector the index is asked. -/
theorem exists_list_selected (hs : s.Sound) (hindexed : s.Indexed) {q : Query}
    (hq : q.selector = some sel) (hsel : s.indexes.contains kind sel.field) :
    ∃ rs, s.list kind q = .ok rs ∧ rs.Pairwise StoredRecord.Before ∧
      ∀ r, r ∈ rs ↔ ((∃ x, Assoc.get? x s.slots = some r) ∧ r.kind = kind ∧
        sel.value ∈ r.object.fieldValues sel.field) ∧
          ∃ m, r.object.recordMetadata = .ok m ∧ q.Fits m := by
  have hmem := mem_ofValue hs hindexed hsel
  have hfound : s.candidates kind q =
      .ok ((keysAt s.index ⟨kind, sel.field, sel.value⟩).filterMap (s.get? kind)) := by
    unfold candidates
    rw [hq]
    exact if_pos hsel
  obtain ⟨rs, hlist, hsorted, hrs⟩ :=
    exists_list hs hfound (fun r hr => ((hmem r).mp hr).1)
      (nodup_keys_ofValue hindexed ⟨kind, sel.field, sel.value⟩)
  refine ⟨rs, hlist, hsorted, ?_⟩
  intro r
  rw [hrs, hmem]

end Selected

/-! ## Lists after a run -/

/-- In a run on kinds without a slash, a list without a selector has the stored records of the kind
whose metadata fit, and nothing else, in strictly ascending order of keys. A selector on a field
with an index takes out of it exactly the records that have the value. -/
theorem list_eq_filter (indexes : FieldIndexes) {requests : List Request}
    (hkinds : ∀ q ∈ requests, '/' ∉ q.call.kind.toList) (kind : String) (q : Query) :
    ∃ all, (after indexes requests).list kind { q with selector := none } = .ok all ∧
      all.Pairwise StoredRecord.Before ∧
      (∀ r, r ∈ all ↔ (∃ x, Assoc.get? x (after indexes requests).slots = some r) ∧
        r.kind = kind ∧ ∃ m, r.object.recordMetadata = .ok m ∧ q.Fits m) ∧
      ∀ sel, q.selector = some sel → indexes.contains kind sel.field →
        (after indexes requests).list kind q =
          .ok (all.filter fun r => sel.value ∈ r.object.fieldValues sel.field) := by
  have hs := (reachable_after indexes requests).sound
  have hfits (m : Metadata) : ({ q with selector := none } : Query).Fits m ↔ q.Fits m :=
    ⟨fun h => ⟨h.workspace, h.labels⟩, fun h => ⟨h.workspace, h.labels⟩⟩
  obtain ⟨all, hall, hsorted, hmem⟩ :=
    exists_list_all hs kind (q := { q with selector := none }) rfl
  simp only [hfits] at hmem
  refine ⟨all, hall, hsorted, hmem, ?_⟩
  intro sel hsel hindex
  obtain ⟨rs, hlist, hrs, hmem'⟩ := exists_list_selected hs (indexed_after hkinds) hsel
    (by rw [indexes_after]; exact hindex)
  -- both lists ascend strictly, so it is enough that they have the same members
  have heq : rs = all.filter fun r => sel.value ∈ r.object.fieldValues sel.field := by
    apply List.Pairwise.eq_of_mem_iff hrs (hsorted.filter _)
    intro r
    rw [hmem', List.mem_filter, hmem, decide_eq_true_iff]
    tauto
  rw [hlist, heq]

/-- An object with some tags. -/
def tagged (name : String) (tags : List String) : Json := .ofFields [
  ("kind", some (.str "Note")), ("metadata", some (Metadata.new ⟨"w", name⟩ .empty).toJson),
  ("spec", some (.ofFields [("tags", some (.arr (tags.map .str)))]))]

/-- One note loses a tag that it had twice, another one gains it and a third one is deleted. -/
def retagged : List Request := [
  ⟨"1", "", .create "Note" (tagged "a" ["x", "x"])⟩, ⟨"2", "", .create "Note" (tagged "b" ["x"])⟩,
  ⟨"3", "", .create "Note" (tagged "c" ["y"])⟩, ⟨"", "", .update "Note" (tagged "a" ["y"])⟩,
  ⟨"", "", .update "Note" (tagged "c" ["y", "x"])⟩, ⟨"", "", .delete "Note" ⟨"w", "b"⟩⟩]

theorem list_eq_filter_retagged :
    ((after (.ofList [("Note", "spec.tags")]) retagged).slots.map fun e =>
        (e.2.key.name, e.2.object.fieldValues "spec.tags")) = [("a", ["y"]), ("c", ["y", "x"])] ∧
      ∃ all, (after (.ofList [("Note", "spec.tags")]) retagged).list "Note" .all = .ok all ∧
        all.Pairwise StoredRecord.Before ∧
        (after (.ofList [("Note", "spec.tags")]) retagged).list "Note"
            ⟨none, some ⟨"spec.tags", "x"⟩, .empty⟩ =
          .ok (all.filter fun r => "x" ∈ r.object.fieldValues "spec.tags") := by
  have hkinds : ∀ q ∈ retagged, '/' ∉ q.call.kind.toList := by
    simp only [retagged, List.forall_mem_cons]
    decide
  obtain ⟨all, hall, hsorted, -, hselected⟩ := list_eq_filter
    (.ofList [("Note", "spec.tags")]) hkinds "Note" ⟨none, some ⟨"spec.tags", "x"⟩, .empty⟩
  exact ⟨by decide +kernel, all, hall, hsorted, hselected _ rfl (by decide +kernel)⟩

end Store

end ReleaseControl
