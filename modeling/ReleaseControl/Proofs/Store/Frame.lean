import ReleaseControl.Proofs.Store.Soundness

/-! # What a call leaves alone

A call writes records of one kind. What is found at the keys of another kind, and what a selector
finds among them, is the same before and after it (`Agrees`), as long as neither kind has a slash
and so none can reach into the slots of the other. -/

namespace ReleaseControl.Store

/-- The two stores look alike to a reader of one kind. -/
structure Agrees (kind : String) (s s' : Store) : Prop where
  indexes : s'.indexes = s.indexes
  get? : ∀ key, s'.get? kind key = s.get? kind key
  keysAt : ∀ e : IndexEntry, e.kind = kind → keysAt s'.index e = Store.keysAt s.index e

namespace Agrees

variable {kind : String} {s s' : Store}

theorem refl (kind : String) (s : Store) : Agrees kind s s :=
  ⟨rfl, fun _ => rfl, fun _ _ => rfl⟩

theorem trans {s'' : Store} (h : Agrees kind s s') (h' : Agrees kind s' s'') : Agrees kind s s'' :=
  ⟨h'.indexes.trans h.indexes, fun key => (h'.get? key).trans (h.get? key),
    fun e he => (h'.keysAt e he).trans (h.keysAt e he)⟩

/-- What a selector finds. -/
theorem list {q : Query} {sel : FieldSelector} (hq : q.selector = some sel)
    (h : Agrees kind s s') : s'.list kind q = s.list kind q := by
  have hcandidates : s'.candidates kind q = s.candidates kind q := by
    simp only [candidates, hq, h.indexes]
    rw [h.keysAt ⟨kind, sel.field, sel.value⟩ rfl]
    have hfind : s'.get? kind = s.get? kind := funext h.get?
    rw [hfind]
  simp only [Store.list, hcandidates]

end Agrees

/-! ## The index -/

theorem keysAt_addIndexed {index : List (IndexEntry × List RecordKey)} {key : RecordKey}
    {e e' : IndexEntry} (hne : e' ≠ e) :
    keysAt (addIndexed key index e) e' = keysAt index e' := by
  simp only [addIndexed]
  split
  · rfl
  · simp only [keysAt, Assoc.get?_put_ne hne]

theorem keysAt_dropIndexed {index : List (IndexEntry × List RecordKey)} {key : RecordKey}
    {e e' : IndexEntry} (hne : e' ≠ e) :
    keysAt (dropIndexed key index e) e' = keysAt index e' := by
  simp only [dropIndexed]
  split
  · simp only [keysAt, Assoc.get?_remove_ne hne]
  · simp only [keysAt, Assoc.get?_put_ne hne]

theorem kind_of_mem_indexEntries {s : Store} {kind : String} {r : StoredRecord} {e : IndexEntry}
    (h : e ∈ s.indexEntries kind r) : e.kind = kind := by
  obtain ⟨d, -, rfl⟩ := List.mem_map.mp h
  rfl

/-- A pass over the entries of one kind does not move those of another. -/
theorem keysAt_foldl {f : List (IndexEntry × List RecordKey) → IndexEntry →
      List (IndexEntry × List RecordKey)} {e' : IndexEntry}
    (hf : ∀ index e, e' ≠ e → keysAt (f index e) e' = keysAt index e')
    (entries : List IndexEntry) (hentries : ∀ e ∈ entries, e.kind ≠ e'.kind)
    (index : List (IndexEntry × List RecordKey)) :
    keysAt (entries.foldl f index) e' = keysAt index e' := by
  induction entries generalizing index with
  | nil => rfl
  | cons e rest ih =>
      -- entries of another kind are other entries
      have hne : e' ≠ e := fun heq => hentries e List.mem_cons_self (heq ▸ rfl)
      rw [List.foldl_cons, ih fun d hd => hentries d (List.mem_cons_of_mem _ hd), hf _ _ hne]

theorem keysAt_indexRecord {s : Store} {kind : String} {r : StoredRecord} {e : IndexEntry}
    (hne : kind ≠ e.kind) : keysAt (s.indexRecord kind r).index e = keysAt s.index e :=
  keysAt_foldl (fun _ _ => keysAt_addIndexed) _
    (fun _ hd => kind_of_mem_indexEntries hd ▸ hne) _

theorem keysAt_unindexRecord {s : Store} {kind : String} {r : StoredRecord} {e : IndexEntry}
    (hne : kind ≠ e.kind) : keysAt (s.unindexRecord kind r).index e = keysAt s.index e :=
  keysAt_foldl (fun _ _ => keysAt_dropIndexed) _
    (fun _ hd => kind_of_mem_indexEntries hd ▸ hne) _

/-! ## The calls that write -/

section Writes

variable {kind : String} {r existing : StoredRecord} {s : Store}

/-- Records of different kinds sit in different slots. -/
theorem slot_ne {kind' : String} (hkind : '/' ∉ kind.toList) (hkind' : '/' ∉ kind'.toList)
    (hne : kind ≠ kind') (j k : RecordKey) : slot kind j ≠ slot kind' k :=
  fun heq => hne (slot_inj hkind hkind' heq).1

theorem agrees_accept (hkind : '/' ∉ kind.toList) (hr : '/' ∉ r.kind.toList)
    (hne : r.kind ≠ kind) : Agrees kind s (s.accept r) where
  indexes := rfl
  get? key := by
    rw [get?, slots_accept, Assoc.get?_put_ne (slot_ne hkind hr (Ne.symm hne) _ _)]
    rfl
  keysAt e he := keysAt_indexRecord (he.symm ▸ hne)

theorem agrees_supersede (hkind : '/' ∉ kind.toList) (hr : '/' ∉ r.kind.toList)
    (hne : r.kind ≠ kind) : Agrees kind s (s.supersede existing r) where
  indexes := rfl
  get? key := by
    rw [get?, slots_supersede, Assoc.get?_put_ne (slot_ne hkind hr (Ne.symm hne) _ _)]
    rfl
  keysAt e he := by
    have hne' : r.kind ≠ e.kind := he.symm ▸ hne
    exact (keysAt_indexRecord hne').trans (keysAt_unindexRecord hne')

theorem agrees_expel {kind' : String} {key : RecordKey} (hkind : '/' ∉ kind.toList)
    (hkind' : '/' ∉ kind'.toList) (hne : kind' ≠ kind) : Agrees kind s (s.expel kind' key r) where
  indexes := rfl
  get? k := by
    rw [get?, slots_expel, Assoc.get?_remove_ne (slot_ne hkind hkind' (Ne.symm hne) _ _)]
    rfl
  keysAt e he := keysAt_unindexRecord (he.symm ▸ hne)

/-- A call on another kind is not seen by a reader of this one. -/
theorem Effect.agrees {uid now : String} {s' : Store} {c : StoreCall} (h : Effect uid now s c s')
    (hkind : '/' ∉ kind.toList) (hc : '/' ∉ c.kind.toList) (hne : c.kind ≠ kind) :
    Agrees kind s s' := by
  cases h with
  | nothing => exact .refl kind s
  | created => exact agrees_accept hkind hc hne
  | updated => exact agrees_supersede hkind hc hne
  | statusUpdated => exact agrees_supersede hkind hc hne
  | deleted => exact agrees_expel hkind hc hne

end Writes

end ReleaseControl.Store
