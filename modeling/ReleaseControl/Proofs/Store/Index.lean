import ReleaseControl.Proofs.Store.Addressing
import ReleaseControl.Proofs.Store.Frame

/-! # The index follows the records

The index is never computed anew: a call takes the entries of the old record out and puts those of
the new one in. All that a list relies on is that a key is found under an entry exactly when the
record at the key has the entry, and is found there once (`Indexed`). An array may bring one text
several times, so a record may have an entry more than once; it is listed under it once, and the
first removal takes it out.

A call takes out entries of its own kind, so it has to meet a record that was put in under this
kind (`Effect.indexed`). Kinds that share a slot could leave entries behind; kinds without a slash
share none (`indexed_after`). -/

namespace ReleaseControl.Store

/-! ## Entries of a record -/

theorem mem_entriesOf {x : FieldIndexes} {kind field value : String} {object : Json} :
    (field, value) ∈ x.entriesOf kind object ↔
      x.contains kind field ∧ value ∈ object.fieldValues field := by
  have hfield : field ∈ x.fieldsOf kind ↔ x.contains kind field := by
    simp [FieldIndexes.fieldsOf, FieldIndexes.contains]
  rw [FieldIndexes.entriesOf, List.mem_flatMap, ← hfield]
  constructor
  · rintro ⟨field', hmem, hpair⟩
    obtain ⟨value', hvalue, heq⟩ := List.mem_map.mp hpair
    obtain ⟨rfl, rfl⟩ := Prod.mk.inj heq
    exact ⟨hmem, hvalue⟩
  · rintro ⟨hmem, hvalue⟩
    exact ⟨field, hmem, List.mem_map.mpr ⟨value, hvalue, rfl⟩⟩

/-- A record has an entry of its kind if the field has an index and the value is one of its own. -/
theorem mem_indexEntries {s : Store} {kind : String} {r : StoredRecord} {e : IndexEntry} :
    e ∈ s.indexEntries kind r ↔ e.kind = kind ∧ s.indexes.contains kind e.field ∧
      e.value ∈ r.object.fieldValues e.field := by
  rw [← mem_entriesOf, indexEntries, List.mem_map]
  constructor
  · rintro ⟨⟨field, value⟩, hmem, rfl⟩
    exact ⟨rfl, hmem⟩
  · rintro ⟨rfl, hmem⟩
    exact ⟨_, hmem, rfl⟩

/-! ## Adding and dropping a key -/

section Keys

variable {index : List (IndexEntry × List RecordKey)} {e e' : IndexEntry} {j k : RecordKey}

theorem mem_keysAt_addIndexed : j ∈ keysAt (addIndexed k index e) e' ↔
    j ∈ keysAt index e' ∨ (e' = e ∧ j = k) := by
  by_cases he : e' = e
  · subst he
    simp only [addIndexed]
    split
    · next hmem =>
        constructor
        · exact .inl
        · rintro (h | ⟨-, rfl⟩)
          · exact h
          · exact hmem
    · simp [keysAt]
  · simp [keysAt_addIndexed he, he]

theorem keysAt_dropIndexed_self :
    keysAt (dropIndexed k index e) e = (keysAt index e).filter (· ≠ k) := by
  simp only [dropIndexed]
  split
  · next hnil => rw [hnil, keysAt, Assoc.get?_remove_self, Option.getD_none]
  · rw [keysAt, Assoc.get?_put_self, Option.getD_some]

theorem mem_keysAt_dropIndexed : j ∈ keysAt (dropIndexed k index e) e' ↔
    j ∈ keysAt index e' ∧ ¬ (e' = e ∧ j = k) := by
  by_cases he : e' = e
  · subst he
    simp [keysAt_dropIndexed_self]
  · simp [keysAt_dropIndexed he, he]

theorem nodup_keysAt_addIndexed (h : (keysAt index e').Nodup) :
    (keysAt (addIndexed k index e) e').Nodup := by
  by_cases he : e' = e
  · subst he
    simp only [addIndexed]
    split
    · exact h
    · next hmem =>
        have hkeys : keysAt (Assoc.put e' (keysAt index e' ++ [k]) index) e' =
            keysAt index e' ++ [k] := by simp [keysAt]
        rw [hkeys, List.nodup_append]
        refine ⟨h, by simp, ?_⟩
        rintro a ha b hb rfl
        exact hmem (List.mem_singleton.mp hb ▸ ha)
  · rwa [keysAt_addIndexed he]

theorem nodup_keysAt_dropIndexed (h : (keysAt index e').Nodup) :
    (keysAt (dropIndexed k index e) e').Nodup := by
  by_cases he : e' = e
  · subst he
    rw [keysAt_dropIndexed_self]
    exact h.filter _
  · rwa [keysAt_dropIndexed he]

end Keys

/-! ## Adding and dropping a record -/

section Records

variable {s : Store} {kind : String} {r : StoredRecord} {e : IndexEntry} {k : RecordKey}

theorem mem_keysAt_indexRecord : k ∈ keysAt (s.indexRecord kind r).index e ↔
    k ∈ keysAt s.index e ∨ (e ∈ s.indexEntries kind r ∧ k = r.key) := by
  unfold indexRecord
  generalize s.indexEntries kind r = entries
  show k ∈ keysAt (entries.foldl (addIndexed r.key) s.index) e ↔ _
  generalize s.index = index
  induction entries generalizing index with
  | nil => simp
  | cons d rest ih =>
      rw [List.foldl_cons, ih, mem_keysAt_addIndexed, List.mem_cons]
      tauto

theorem mem_keysAt_unindexRecord : k ∈ keysAt (s.unindexRecord kind r).index e ↔
    k ∈ keysAt s.index e ∧ ¬ (e ∈ s.indexEntries kind r ∧ k = r.key) := by
  unfold unindexRecord
  generalize s.indexEntries kind r = entries
  show k ∈ keysAt (entries.foldl (dropIndexed r.key) s.index) e ↔ _
  generalize s.index = index
  induction entries generalizing index with
  | nil => simp
  | cons d rest ih =>
      rw [List.foldl_cons, ih, mem_keysAt_dropIndexed, List.mem_cons]
      tauto

theorem nodup_keysAt_foldl {f : List (IndexEntry × List RecordKey) → IndexEntry →
      List (IndexEntry × List RecordKey)}
    (hf : ∀ index d, (keysAt index e).Nodup → (keysAt (f index d) e).Nodup)
    (entries : List IndexEntry) {index : List (IndexEntry × List RecordKey)}
    (h : (keysAt index e).Nodup) : (keysAt (entries.foldl f index) e).Nodup := by
  induction entries generalizing index with
  | nil => exact h
  | cons d rest ih => exact ih (hf index d h)

theorem nodup_keysAt_indexRecord (h : (keysAt s.index e).Nodup) :
    (keysAt (s.indexRecord kind r).index e).Nodup :=
  nodup_keysAt_foldl (fun _ _ => nodup_keysAt_addIndexed) _ h

theorem nodup_keysAt_unindexRecord (h : (keysAt s.index e).Nodup) :
    (keysAt (s.unindexRecord kind r).index e).Nodup :=
  nodup_keysAt_foldl (fun _ _ => nodup_keysAt_dropIndexed) _ h

end Records

/-! ## What the index tells -/

/-- The record is stored under the key and was written under the kind of the entry, which it has. -/
structure Listed (s : Store) (e : IndexEntry) (k : RecordKey) (r : StoredRecord) : Prop where
  stored : s.get? e.kind k = some r
  kind : r.kind = e.kind
  key : r.key = k
  entry : e ∈ s.indexEntries e.kind r

structure Indexed (s : Store) : Prop where
  mem_iff : ∀ e k, k ∈ keysAt s.index e ↔ ∃ r, s.Listed e k r
  nodup : ∀ e, (keysAt s.index e).Nodup

theorem indexed_empty (indexes : FieldIndexes) : (empty indexes).Indexed where
  mem_iff e k := by
    constructor
    · intro h
      cases h
    · rintro ⟨r, hr⟩
      cases hr.stored
  nodup e := List.nodup_nil

namespace Indexed

variable {s : Store} {r existing : StoredRecord} {kind : String} {key : RecordKey}

/-- A new record comes into a free slot. -/
theorem accept (h : s.Indexed) (hfree : s.get? r.kind r.key = none) : (s.accept r).Indexed where
  nodup e := nodup_keysAt_indexRecord (h.nodup e)
  mem_iff e k := by
    have hkeys : k ∈ keysAt (s.accept r).index e ↔
        k ∈ keysAt s.index e ∨ (e ∈ s.indexEntries r.kind r ∧ k = r.key) := mem_keysAt_indexRecord
    rw [hkeys, h.mem_iff]
    constructor
    · rintro (⟨q, hq⟩ | ⟨hentry, rfl⟩)
      · refine ⟨q, ?_, hq.kind, hq.key, hq.entry⟩
        rw [get?_accept, if_neg]
        · exact hq.stored
        · intro hslot
          have hnone : s.get? e.kind k = none := by
            rw [get?, hslot]
            exact hfree
          cases hnone.symm.trans hq.stored
      · have hkind := kind_of_mem_indexEntries hentry
        refine ⟨r, ?_, hkind.symm, rfl, hkind ▸ hentry⟩
        rw [get?_accept, hkind, if_pos rfl]
    · rintro ⟨q, hq⟩
      have hstored := hq.stored
      rw [get?_accept] at hstored
      split at hstored
      · obtain rfl : r = q := Option.some.inj hstored
        exact .inr ⟨hq.kind ▸ hq.entry, hq.key.symm⟩
      · exact .inl ⟨q, hstored, hq.kind, hq.key, hq.entry⟩

/-- A record that goes takes its entries along if it was written under the kind of the call. -/
theorem slot_eq_iff_listed {e : IndexEntry} {k : RecordKey} (hkind : existing.kind = kind)
    (hplace : slot kind existing.key = slot kind key) {q : StoredRecord}
    (hstored : s.get? kind key = some existing) (hq : s.Listed e k q) :
    slot e.kind k = slot kind key ↔ e ∈ s.indexEntries kind existing ∧ k = existing.key := by
  constructor
  · intro hslot
    have hsame : s.get? e.kind k = s.get? kind key := by rw [get?, get?, hslot]
    obtain rfl : existing = q := Option.some.inj (hstored.symm.trans (hsame.symm.trans hq.stored))
    exact ⟨hkind ▸ hq.kind ▸ hq.entry, hq.key.symm⟩
  · rintro ⟨hentry, rfl⟩
    rw [kind_of_mem_indexEntries hentry, hplace]

/-- A record replaces one that was written under the same kind. -/
theorem supersede (h : s.Indexed) (hstored : s.get? r.kind r.key = some existing)
    (hkind : existing.kind = r.kind) (hplace : slot r.kind existing.key = slot r.kind r.key) :
    (s.supersede existing r).Indexed where
  nodup e := nodup_keysAt_indexRecord (nodup_keysAt_unindexRecord (h.nodup e))
  mem_iff e k := by
    have hkeys : k ∈ keysAt (s.supersede existing r).index e ↔
        (k ∈ keysAt s.index e ∧ ¬ (e ∈ s.indexEntries r.kind existing ∧ k = existing.key)) ∨
          (e ∈ s.indexEntries r.kind r ∧ k = r.key) :=
      mem_keysAt_indexRecord.trans (or_congr_left mem_keysAt_unindexRecord)
    rw [hkeys, h.mem_iff]
    constructor
    · rintro (⟨⟨q, hq⟩, hkept⟩ | ⟨hentry, rfl⟩)
      · rw [← slot_eq_iff_listed hkind hplace hstored hq] at hkept
        exact ⟨q, by rw [get?_supersede, if_neg hkept]; exact hq.stored, hq.kind, hq.key, hq.entry⟩
      · have hkind := kind_of_mem_indexEntries hentry
        refine ⟨r, ?_, hkind.symm, rfl, hkind ▸ hentry⟩
        rw [get?_supersede, hkind, if_pos rfl]
    · rintro ⟨q, hq⟩
      have hstored' := hq.stored
      rw [get?_supersede] at hstored'
      split at hstored'
      · obtain rfl : r = q := Option.some.inj hstored'
        exact .inr ⟨hq.kind ▸ hq.entry, hq.key.symm⟩
      · next hslot =>
          have hold : s.Listed e k q := ⟨hstored', hq.kind, hq.key, hq.entry⟩
          exact .inl ⟨⟨q, hold⟩, mt (slot_eq_iff_listed hkind hplace hstored hold).mpr hslot⟩

theorem expel (h : s.Indexed) (hstored : s.get? kind key = some existing)
    (hkind : existing.kind = kind) (hplace : slot kind existing.key = slot kind key) :
    (s.expel kind key existing).Indexed where
  nodup e := nodup_keysAt_unindexRecord (h.nodup e)
  mem_iff e k := by
    have hkeys : k ∈ keysAt (s.expel kind key existing).index e ↔
        k ∈ keysAt s.index e ∧ ¬ (e ∈ s.indexEntries kind existing ∧ k = existing.key) :=
      mem_keysAt_unindexRecord
    rw [hkeys, h.mem_iff]
    constructor
    · rintro ⟨⟨q, hq⟩, hkept⟩
      rw [← slot_eq_iff_listed hkind hplace hstored hq] at hkept
      exact ⟨q, by rw [get?_expel, if_neg hkept]; exact hq.stored, hq.kind, hq.key, hq.entry⟩
    · rintro ⟨q, hq⟩
      have hstored' := hq.stored
      rw [get?_expel] at hstored'
      split at hstored'
      · cases hstored'
      · next hslot =>
          have hold : s.Listed e k q := ⟨hstored', hq.kind, hq.key, hq.entry⟩
          exact ⟨⟨q, hold⟩, mt (slot_eq_iff_listed hkind hplace hstored hold).mpr hslot⟩

end Indexed

/-! ## Runs of calls -/

/-- A call that finds records under its own kind only keeps the index with the records. -/
theorem Effect.indexed {uid now : String} {s s' : Store} {c : StoreCall}
    (h : Effect uid now s c s') (hs : s.Sound) (hindexed : s.Indexed)
    (hkind : ∀ k r, c.Addresses k → s.get? c.kind k = some r → r.kind = c.kind) : s'.Indexed := by
  have placed {kind : String} {k : RecordKey} {r : StoredRecord} (hget : s.get? kind k = some r)
      (hr : r.kind = kind) : slot kind r.key = slot kind k := by
    obtain ⟨kind₀, m, hacc⟩ := hs.accounted hget
    rw [hacc.place, hr]
  cases h with
  | nothing => exact hindexed
  | created hnew => exact hindexed.accept (checkNew_eq_ok.mp hnew).2.2.2
  | updated hrevise =>
      obtain ⟨hobject, hmeta, hget, -⟩ := revise_eq_ok.mp hrevise
      have hr := hkind _ _ (.update hobject hmeta) hget
      exact hindexed.supersede hget hr (placed hget hr)
  | statusUpdated hrevise =>
      obtain ⟨hobject, hmeta, hget, -⟩ := revise_eq_ok.mp hrevise
      have hr := hkind _ _ (.updateStatus hobject hmeta) hget
      exact hindexed.supersede hget hr (placed hget hr)
  | deleted hget =>
      have hr := hkind _ _ (.delete _ _) hget
      exact hindexed.expel hget hr (placed hget hr)

theorem indexes_after (indexes : FieldIndexes) (requests : List Request) :
    (after indexes requests).indexes = indexes := by
  induction requests using List.reverseRecOn with
  | nil => rfl
  | append_singleton requests q ih =>
      rw [after_concat, (perform_effect q.uid q.now _ q.call).indexes_eq, ih]

/-- In a run on kinds without a slash the index follows the records. -/
theorem indexed_after {indexes : FieldIndexes} {requests : List Request}
    (hkinds : ∀ q ∈ requests, '/' ∉ q.call.kind.toList) : (after indexes requests).Indexed := by
  induction requests using List.reverseRecOn with
  | nil => exact indexed_empty indexes
  | append_singleton requests q ih =>
      obtain ⟨hkinds, hlast⟩ := List.forall_mem_append.mp hkinds
      rw [after_concat]
      refine (perform_effect q.uid q.now _ q.call).indexed (reachable_after indexes requests).sound
        (ih hkinds) ?_
      intro k r _ hget
      obtain ⟨m, hplaced⟩ := placed_of_stored hkinds hget
      exact (slot_inj (hlast q List.mem_cons_self) hplaced.slashless
        hplaced.accounted.place).1.symm

end ReleaseControl.Store
