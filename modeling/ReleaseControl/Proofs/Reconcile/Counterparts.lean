import ReleaseControl.Proofs.Reconcile.Chain
import ReleaseControl.Proofs.Store.Listing

/-! # The counterparts of a link

The counterpart of a link is chosen among the links that the index lists under the link's own
workspace. A record may be written as the array of its fields, which is read like the object, but
no path leads into an array. So the index finds a link if and only if its spec is written as an
object (`fieldValues_target`): links that pair with a given one are all among those looked at, but
for the ones with an array for a spec (`mem_counterparts`). -/

namespace ReleaseControl

open Store

/-- A stored record is read as the given one. -/
def Store.Has {ρ : Type} [Record ρ] (s : Store) (r : ρ) : Prop :=
  ∃ x stored, Assoc.get? x s.slots = some stored ∧ stored.typed = .ok r

/-- The link is stored with an array for its spec. -/
def Store.Hides (s : Store) (link : ReleaseLink) : Prop :=
  ∃ x stored items, Assoc.get? x s.slots = some stored ∧ stored.typed = .ok link ∧
    stored.object.get? "spec" = some (.arr items)

/-! ## The path to the target -/

open Shape in
theorem ReleaseLink.spec_of_decode {v : Json} {link : ReleaseLink} (hv : v.isObject)
    (h : decode v = .ok link) :
    ∃ w, v.get? "spec" = some w ∧ ReleaseLinkSpec.decode w = .ok link.spec := by
  obtain ⟨f, spec, hf, hspec, rfl⟩ := of_build_seq (build_of_decode hv h)
  obtain ⟨metadata, -, rfl⟩ := of_build_map hf
  exact build_required.mp hspec

open Shape in
theorem ReleaseLinkSpec.target_of_decode {w : Json} {spec : ReleaseLinkSpec}
    (h : decode w = .ok spec) :
    (∃ items, w = .arr items) ∨ w.get? "target" = some (.str spec.target) := by
  cases w with
  | arr items => exact .inl ⟨items, rfl⟩
  | obj members =>
      right
      obtain ⟨f, strategy, hf, -, rfl⟩ := of_build_seq (build_of_decode rfl h)
      obtain ⟨g, application, hg, -, rfl⟩ := of_build_seq hf
      obtain ⟨k, target, hk, htarget, rfl⟩ := of_build_seq hg
      obtain ⟨name, -, rfl⟩ := of_build_map hk
      obtain ⟨v, hv, hstring⟩ := build_required.mp htarget
      rw [hv]
      cases v with
      | str text => exact congrArg (fun t => some (Json.str t)) (Except.ok.inj hstring)
      | _ => cases hstring
  | _ => cases h

theorem pathNames_targetField : pathNames ReleaseLink.targetField = ["spec", "target"] := by
  decide +kernel

theorem fieldValues_of_array {object : Json} {items : List Json}
    (h : object.get? "spec" = some (.arr items)) :
    object.fieldValues ReleaseLink.targetField = [] := by
  have hnone : (Json.arr items).get? "target" = none := rfl
  have hat : object.at? ["spec", "target"] = none := by simp [Json.at?, h, hnone]
  unfold Json.fieldValues
  rw [pathNames_targetField, hat]

/-- The index goes by the target of the link, or its spec is an array. -/
theorem fieldValues_target {x kind : String} {stored : StoredRecord} {m : Metadata}
    {link : ReleaseLink} (hstored : stored.Accounted x kind m) (hlink : stored.typed = .ok link) :
    (∃ items, stored.object.get? "spec" = some (.arr items)) ∨
      stored.object.fieldValues ReleaseLink.targetField = [link.spec.target] := by
  have hdecode := ((StoredRecord.typed_eq_ok hstored.objectKind).mp hlink).2
  obtain ⟨w, hspec, hw⟩ :=
    ReleaseLink.spec_of_decode (Json.isObject_of_recordMetadata hstored.objectMetadata) hdecode
  rcases ReleaseLinkSpec.target_of_decode hw with ⟨items, rfl⟩ | htarget
  · exact .inl ⟨items, hspec⟩
  · right
    have hat : stored.object.at? ["spec", "target"] = some (.str link.spec.target) := by
      simp [Json.at?, hspec, htarget]
    unfold Json.fieldValues
    rw [pathNames_targetField, hat]

/-! ## The links that are looked at -/

theorem StoredRecord.mem_of_mapM_typed {ρ : Type} [Record ρ] {stored : List StoredRecord}
    {found : List ρ} (h : stored.mapM (@typed ρ _) = .ok found) {a : StoredRecord}
    (ha : a ∈ stored) {r : ρ} (hr : a.typed = .ok r) : r ∈ found := by
  induction stored generalizing found with
  | nil => cases ha
  | cons b rest ih =>
      rw [List.mapM_cons] at h
      obtain ⟨c, hc, h⟩ := exists_of_bind_ok h
      obtain ⟨others, hothers, h⟩ := exists_of_bind_ok h
      cases h
      rcases List.mem_cons.mp ha with rfl | ha
      · rw [hr] at hc
        exact Except.ok.inj hc ▸ List.mem_cons_self
      · exact List.mem_cons_of_mem _ (ih hothers ha)

/-- A list with a selector succeeds only if there is an index for it. -/
theorem Store.contains_of_list {s : Store} {kind : String} {q : Query} {sel : FieldSelector}
    {rs : List StoredRecord} (hq : q.selector = some sel) (h : s.list kind q = .ok rs) :
    s.indexes.contains kind sel.field := by
  obtain ⟨found, hfound, -⟩ := exists_of_bind_ok h
  unfold candidates at hfound
  rw [hq] at hfound
  by_contra hnone
  simp only [hnone, if_false] at hfound
  cases hfound

namespace Chain

variable {s : Store} {policy : AmbiguityPolicy} {link target : ReleaseLink}

/-- What the search for a counterpart comes to, if it comes to one. -/
theorem of_findTarget (h : (findTarget policy link).on s = .ok target) :
    ∃ stored found, s.list ReleaseLink.kind (counterpartQuery link) = .ok stored ∧
      stored.mapM StoredRecord.typed = .ok found ∧
      choose policy link (counterparts link found) = .ok target := by
  rw [findTarget_on] at h
  obtain ⟨found, hfound, hchoose⟩ := exists_of_bind_ok h
  obtain ⟨stored, hlist, htyped⟩ := exists_of_bind_ok (eq_ok_of_mapError hfound)
  exact ⟨stored, found, hlist, htyped, hchoose⟩

theorem mem_counterparts_iff {found : List ReleaseLink} :
    target ∈ counterparts link found ↔ target ∈ found ∧ link.pairsWith target := by
  unfold counterparts
  rw [List.mem_mergeSort, List.mem_filter]

/-- Every stored link that pairs is a counterpart, unless its spec is an array. -/
theorem mem_counterparts {indexes : FieldIndexes} {requests : List Request}
    (hkinds : ∀ q ∈ requests, '/' ∉ q.call.kind.toList) {stored : List StoredRecord}
    {found : List ReleaseLink}
    (hlist : (after indexes requests).list ReleaseLink.kind (counterpartQuery link) = .ok stored)
    (htyped : stored.mapM StoredRecord.typed = .ok found) {other : ReleaseLink}
    (hother : (after indexes requests).Has other) (hpairs : link.pairsWith other) :
    other ∈ counterparts link found ∨ (after indexes requests).Hides other := by
  have hs := (reachable_after indexes requests).sound
  obtain ⟨x, p, hp, hread⟩ := hother
  have hacc := hs.accounted_link hp hread
  have hkind : p.kind = ReleaseLink.kind := by
    obtain ⟨m, hplaced⟩ := placed_of_stored hkinds hp
    exact Except.ok.inj (hplaced.accounted.objectKind.symm.trans hacc.objectKind)
  rcases fieldValues_target hacc hread with ⟨items, harray⟩ | hvalues
  · exact .inr ⟨x, p, items, hp, hread, harray⟩
  · left
    have hpairing := hpairs
    simp only [ReleaseLink.pairsWith, Bool.and_eq_true, beq_iff_eq] at hpairing
    obtain ⟨⟨hspace, hback⟩, -⟩ := hpairing
    have hselector : (counterpartQuery link).selector =
        some ⟨ReleaseLink.targetField, link.metadata.workspace⟩ := rfl
    obtain ⟨rs, hrs, -, hmem⟩ := exists_list_selected hs (indexed_after hkinds) hselector
      (contains_of_list hselector hlist)
    obtain rfl : stored = rs := Except.ok.inj (hlist.symm.trans hrs)
    have hfits : (counterpartQuery link).Fits other.metadata := by
      constructor
      · rintro w ⟨⟩
        exact hspace
      · rintro name value hlabel
        cases hlabel
    have hfound : p ∈ stored := by
      refine (hmem p).mpr ⟨⟨⟨x, hp⟩, hkind, ?_⟩, other.metadata, hacc.objectMetadata, hfits⟩
      show link.metadata.workspace ∈ p.object.fieldValues ReleaseLink.targetField
      rw [hvalues, hback]
      exact List.mem_singleton_self _
    exact mem_counterparts_iff.mpr ⟨StoredRecord.mem_of_mapM_typed htyped hfound hread, hpairs⟩

/-- The strict policy settles for an only counterpart. -/
theorem eq_singleton_of_choose {found : List ReleaseLink}
    (h : choose .strict link found = .ok target) : found = [target] := by
  unfold choose at h
  split at h
  · cases h
  · cases h
    rfl
  · cases h

/-- The link that is chosen is stored and pairs. -/
theorem has_of_findTarget (hs : s.Sound) (h : (findTarget policy link).on s = .ok target) :
    s.Has target ∧ link.pairsWith target := by
  obtain ⟨stored, found, hlist, htyped, hchoose⟩ := of_findTarget h
  obtain ⟨hfound, hpairs⟩ := mem_counterparts_iff.mp (mem_of_choose hchoose)
  obtain ⟨a, ha, hread⟩ := StoredRecord.exists_of_mem_mapM_typed htyped hfound
  obtain ⟨x, hx⟩ := hs.exists_slot_of_list hlist ha
  exact ⟨⟨x, a, hx, hread⟩, hpairs⟩

/-- A record that has to be there is the one at its key. -/
theorem read?_of_require {ρ : Type} [Record ρ] {key : RecordKey} {r : ρ}
    (h : (require ρ key).on s = .ok r) : s.read? ρ key = some r := by
  rw [require_on] at h
  split at h
  · cases h
  · next stored hget =>
      exact read?_eq_some.mpr ⟨stored, hget, eq_ok_of_mapError h⟩

/-- The strategy of a counterpart is in its workspace, under the name that it gives. -/
theorem of_findStrategy {strategy : ReleaseStrategy}
    (h : (findStrategy target).on s = .ok strategy) :
    ∃ name, target.spec.releaseStrategy = some name ∧ name ≠ "" ∧
      s.read? ReleaseStrategy ⟨target.metadata.workspace, name⟩ = some strategy := by
  unfold findStrategy at h
  cases hkey : target.strategyKey? with
  | none =>
      rw [hkey] at h
      cases h
  | some key =>
      rw [hkey] at h
      obtain ⟨name, hname, rfl⟩ := Option.map_eq_some_iff.mp hkey
      obtain ⟨hname, hnonempty⟩ := Option.filter_eq_some_iff.mp hname
      refine ⟨name, hname, ?_, read?_of_require h⟩
      rintro rfl
      cases hnonempty

end Chain

end ReleaseControl
