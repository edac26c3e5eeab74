import ReleaseControl.Json.Printer
import ReleaseControl.Proofs.Reconcile.Alike
import ReleaseControl.Proofs.Store.Answering
import ReleaseControl.Seed.Basic

/-! # Seeding

A record of a manifest is refused, skipped or created, and whether it is refused does not depend on
what is stored (`Seed.target`). So the records before the first refused one are applied, or all of
them (`Seed.Applies`); what is in a slot afterwards is what was there before or comes from the first
record for it (`Seed.Seeded`). Applying the same records once more finds every slot taken, and after
a failure it goes on where the first try has stopped. -/

namespace ReleaseControl

open Store

namespace Manifest

/-- What the manifest holds, if it can be read. -/
def value? (manifest : Manifest) : Option Json := manifest.text.bind Json.read?

def records (manifest : Manifest) : List Json := manifest.value?.elim [] Seed.records

end Manifest

/-- The records of all manifests, in order. -/
def Seed.allRecords (manifests : List Manifest) : List Json := manifests.flatMap (·.records)

/-- The record without uid, version and time of creation. -/
def StoredRecord.unassigned (q : StoredRecord) : StoredRecord :=
  { q with
    uid := ""
    resourceVersion := ""
    object := match q.object.recordMetadata with
      | .ok m => q.object.set "metadata" m.unassigned.toJson
      | .error _ => q.object }

namespace Seed

/-! ## What a record asks for -/

/-- The kind and the metadata with which a record is created if its slot is free. -/
def target (record : Json) : Except StoreError (String × Metadata) := do
  let kind ← record.recordKind
  let m ← record.recordMetadata
  (Name.check m.name).mapError fun e => .invalidObject e.message
  return (kind, m)

/-- The slot that a record is for, unless it is refused. -/
def slot? (record : Json) : Option String :=
  (target record).toOption.map fun t => slot t.1 t.2.key

section Target

variable {record : Json} {kind : String} {m : Metadata} {e : StoreError}

theorem target_eq_ok : target record = .ok (kind, m) ↔
    record.recordKind = .ok kind ∧ record.recordMetadata = .ok m ∧ Name.check m.name = .ok () := by
  constructor
  · intro h
    obtain ⟨found, hkind, h⟩ := exists_of_bind_ok h
    obtain ⟨m', hmeta, h⟩ := exists_of_bind_ok h
    obtain ⟨u, hname, h⟩ := exists_of_bind_ok h
    cases h
    exact ⟨hkind, hmeta, eq_ok_of_mapError hname⟩
  · rintro ⟨hkind, hmeta, hname⟩
    simp only [target, hkind, hmeta, hname, bind, Except.bind, mapError_ok]
    rfl

theorem slot?_of_target (h : target record = .ok (kind, m)) :
    slot? record = some (slot kind m.key) := by
  rw [slot?, h]
  rfl

/-- A record that is refused breaks a rule for objects; that its slot is taken is no reason. -/
theorem target_error (h : target record = .error e) : ∃ message, e = .invalidObject message := by
  rcases bind_error_cases h with h | ⟨kind, -, h⟩
  · unfold Json.recordKind at h
    split at h <;> cases h
    exact ⟨_, rfl⟩
  rcases bind_error_cases h with h | ⟨m, -, h⟩
  · unfold Json.recordMetadata at h
    repeat' split at h
    all_goals cases h
    all_goals exact ⟨_, rfl⟩
  rcases bind_error_cases h with h | ⟨-, -, h⟩
  · obtain ⟨e', -, rfl⟩ := mapError_eq_error h
    exact ⟨_, rfl⟩
  · cases h

/-- Every store refuses it with the same words. -/
theorem checkNew_of_target (hkind : record.recordKind = .ok kind) (h : target record = .error e)
    (s : Store) : s.checkNew kind record = .error e := by
  simp only [target, hkind, bind, Except.bind] at h
  simp only [checkNew, checkKind_eq_ok.mpr hkind, bind, Except.bind]
  cases hmeta : record.recordMetadata with
  | error e' =>
      simp only [hmeta] at h
      cases h
      rfl
  | ok m =>
      simp only [hmeta] at h ⊢
      cases hname : Name.check m.name with
      | error e' =>
          simp only [hname] at h
          cases h
          rfl
      | ok u =>
          simp only [hname] at h
          cases h

end Target

/-! ## One record -/

/-- What becomes of a record. -/
inductive Applied (record : Json) (s : Store) : Except StoreError Bool → Store → Prop where
  | refused {e : StoreError} (h : target record = .error e) : Applied record s (.error e) s
  | skipped {kind : String} {m : Metadata} (h : target record = .ok (kind, m))
      (htaken : (Assoc.get? (slot kind m.key) s.slots).isSome) : Applied record s (.ok false) s
  | created {kind : String} {m : Metadata} (h : target record = .ok (kind, m))
      (hfree : Assoc.get? (slot kind m.key) s.slots = none) (uid now : String) :
      Applied record s (.ok true)
        (s.accept (.created uid now (toString s.nextVersion) kind record m))

/-- Whether a record was new, by the answer to its creation. -/
def added : Except StoreError StoredRecord → Except StoreError Bool
  | .ok _ => .ok true
  | .error (.alreadyExists ..) => .ok false
  | .error e => .error e

theorem apply_eq (record : Json) : apply record = match record.recordKind with
    | .error e => .done (.error e)
    | .ok kind => .call (.create kind record) fun answer => .done (added answer) := by
  unfold apply
  cases record.recordKind with
  | error e => rfl
  | ok kind =>
      refine congrArg (Program.call _) (funext fun answer => ?_)
      rcases answer with e | stored
      · cases e <;> rfl
      · rfl

variable {σ : Type} {f : FailingStore σ}

theorem run_apply (hf : f.Answers) (record : Json) (w : σ) :
    ∃ answer w', (apply record).run f.handler w = (.returned answer, w') ∧
      Applied record (f.store w) answer (f.store w') := by
  rw [apply_eq]
  cases hkind : record.recordKind with
  | error e =>
      refine ⟨_, w, rfl, .refused ?_⟩
      rw [target, hkind]
      rfl
  | ok kind =>
      obtain ⟨uid, now, w', hstore, hrun⟩ :=
        hf.run_call (.create kind record) (fun answer => .done (added answer)) w
      refine ⟨_, w', hrun, ?_⟩
      rw [hstore]
      show Applied record (f.store w) (added ((f.store w).create uid now kind record).1)
        ((f.store w).create uid now kind record).2
      cases htarget : target record with
      | error e =>
          rw [create_of_error (checkNew_of_target hkind htarget _)]
          obtain ⟨message, rfl⟩ := target_error htarget
          exact .refused htarget
      | ok t =>
          obtain ⟨found, m⟩ := t
          obtain ⟨hfound, hmeta, hname⟩ := target_eq_ok.mp htarget
          obtain rfl := Except.ok.inj (hkind.symm.trans hfound)
          cases hget : (f.store w).get? kind m.key with
          | some r =>
              have htaken : ((f.store w).get? kind m.key).isSome := by rw [hget]; rfl
              rw [create_of_error (checkNew_of_taken hkind hmeta hname htaken)]
              exact .skipped htarget htaken
          | none =>
              rw [create_of_checkNew (checkNew_eq_ok.mpr ⟨hkind, hmeta, hname, hget⟩)]
              exact .created htarget hget uid now

/-! ## Records in order -/

/-- The records are applied one after the other, and none is refused; so many are created and so
many skipped. -/
inductive Applies : List Json → Store → Nat → Nat → Store → Prop where
  | nil (s : Store) : Applies [] s 0 0 s
  | created {record : Json} {rest : List Json} {s s₁ s' : Store} {created skipped : Nat}
      (h : Applied record s (.ok true) s₁) (hrest : Applies rest s₁ created skipped s') :
      Applies (record :: rest) s (created + 1) skipped s'
  | skipped {record : Json} {rest : List Json} {s s₁ s' : Store} {created skipped : Nat}
      (h : Applied record s (.ok false) s₁) (hrest : Applies rest s₁ created skipped s') :
      Applies (record :: rest) s created (skipped + 1) s'

/-- The records before one that is refused are applied, and no more. -/
inductive Halts (s s' : Store) (bad : Json) (e : StoreError) : List Json → Prop where
  | intro {before after : List Json} {created skipped : Nat}
      (happlies : Applies before s created skipped s') (hbad : target bad = .error e) :
      Halts s s' bad e (before ++ bad :: after)

section Applies

variable {s s₁ s' : Store} {record bad : Json} {records before rest : List Json}
  {created skipped created' skipped' : Nat} {new : Bool} {e : StoreError}

theorem Applied.of_error (h : Applied record s (.error e) s') :
    target record = .error e ∧ s' = s := by
  cases h with
  | refused h => exact ⟨h, rfl⟩

theorem Applied.exists_target (h : Applied record s (.ok new) s') :
    ∃ t, target record = .ok t := by
  cases h with
  | skipped h | created h => exact ⟨_, h⟩

theorem Applies.append (h : Applies before s created skipped s₁)
    (hrest : Applies rest s₁ created' skipped' s') :
    Applies (before ++ rest) s (created + created') (skipped + skipped') s' := by
  induction h with
  | nil s => simpa using hrest
  | created h _ ih => rw [Nat.add_right_comm]; exact .created h (ih hrest)
  | skipped h _ ih => rw [Nat.add_right_comm]; exact .skipped h (ih hrest)

theorem Halts.prepend (h : Applies before s created skipped s₁) (hrest : Halts s₁ s' bad e rest) :
    Halts s s' bad e (before ++ rest) := by
  obtain ⟨happlies, hbad⟩ := hrest
  rw [← List.append_assoc]
  exact .intro (h.append happlies) hbad

theorem Halts.append (h : Halts s s' bad e records) (rest : List Json) :
    Halts s s' bad e (records ++ rest) := by
  obtain ⟨happlies, hbad⟩ := h
  rw [List.append_assoc]
  exact .intro happlies hbad

theorem Applies.total (h : Applies records s created skipped s') :
    created + skipped = records.length := by
  induction h with
  | nil => rfl
  | created _ _ ih | skipped _ _ ih => rw [List.length_cons]; omega

theorem Applies.exists_target (h : Applies records s created skipped s') :
    ∀ record ∈ records, ∃ t, target record = .ok t := by
  induction h with
  | nil => exact fun record hrecord => nomatch hrecord
  | created h _ ih | skipped h _ ih => exact List.forall_mem_cons.mpr ⟨h.exists_target, ih⟩

theorem Halts.not_forall (h : Halts s s' bad e records) :
    ¬ ∀ record ∈ records, ∃ t, target record = .ok t := by
  obtain ⟨-, hbad⟩ := h
  intro hall
  obtain ⟨t, ht⟩ := hall bad (by simp)
  cases hbad.symm.trans ht

end Applies

/-! ## What is stored afterwards -/

/-- The first of the records for a slot. -/
def first? (records : List Json) (x : String) : Option Json :=
  records.find? fun record => slot? record = some x

/-- What comes into a slot that was free, by the first record for it. -/
inductive Filled : Option Json → Option StoredRecord → Prop where
  | free : Filled none none
  | used {record : Json} {kind : String} {m : Metadata} (h : target record = .ok (kind, m))
      (uid now version : String) :
      Filled (some record) (some (.created uid now version kind record m))

/-- Every stored record is kept, and each slot that was free has what the first record for it
says, or it is still free because there is no such record. -/
structure Seeded (records : List Json) (s s' : Store) : Prop where
  kept : ∀ x r, Assoc.get? x s.slots = some r → Assoc.get? x s'.slots = some r
  filled : ∀ x, Assoc.get? x s.slots = none → Filled (first? records x) (Assoc.get? x s'.slots)

/-- The free slots that there are records for, each once. -/
def freshSlots (s : Store) (records : List Json) : List String :=
  ((records.filterMap slot?).filter fun x => (Assoc.get? x s.slots).isNone).eraseDups

section Seeded

variable {s s₁ s₂ s' : Store} {record : Json} {records before rest : List Json}
  {created skipped created' skipped' : Nat} {new : Bool} {x : String}

theorem first?_append (records rest : List Json) (x : String) :
    first? (records ++ rest) x = (first? records x).or (first? rest x) :=
  List.find?_append

theorem first?_singleton (record : Json) (x : String) :
    first? [record] x = if slot? record = some x then some record else none := by
  by_cases h : slot? record = some x <;> simp [first?, h]

theorem Seeded.refl (s : Store) : Seeded [] s s := by
  refine ⟨fun _ _ h => h, fun x hfree => ?_⟩
  rw [hfree]
  exact .free

theorem Seeded.append (h : Seeded before s s₁) (hrest : Seeded rest s₁ s') :
    Seeded (before ++ rest) s s' := by
  refine ⟨fun x r hr => hrest.kept x r (h.kept x r hr), fun x hfree => ?_⟩
  have hfilled := h.filled x hfree
  rw [first?_append]
  generalize hstored : Assoc.get? x s₁.slots = stored at hfilled
  generalize first? before x = found at hfilled ⊢
  cases hfilled with
  | free => exact hrest.filled x hstored
  | used htarget uid now version =>
      rw [hrest.kept x _ hstored]
      exact .used htarget uid now version

theorem get?_slots_created (uid now kind : String) (record : Json) (m : Metadata) (s : Store)
    (x : String) :
    Assoc.get? x (s.accept (.created uid now (toString s.nextVersion) kind record m)).slots =
      if x = slot kind m.key then some (.created uid now (toString s.nextVersion) kind record m)
      else Assoc.get? x s.slots := by
  rw [slots_accept, Assoc.get?_put]
  rfl

theorem Applied.seeded (h : Applied record s (.ok new) s') : Seeded [record] s s' := by
  cases h with
  | @skipped kind m htarget htaken =>
      refine ⟨fun _ _ h => h, fun x hfree => ?_⟩
      rw [first?_singleton, slot?_of_target htarget, if_neg, hfree]
      · exact .free
      · rintro ⟨⟩
        rw [hfree] at htaken
        cases htaken
  | @created kind m htarget hfree uid now =>
      constructor
      · intro x r hr
        rw [get?_slots_created, if_neg]
        · exact hr
        · rintro rfl
          cases hr.symm.trans hfree
      · intro x hx
        rw [first?_singleton, slot?_of_target htarget, get?_slots_created]
        by_cases hslot : x = slot kind m.key
        · rw [if_pos hslot, if_pos (congrArg some hslot.symm)]
          exact .used htarget uid now _
        · rw [if_neg hslot, if_neg fun h => hslot (Option.some.inj h).symm, hx]
          exact .free

theorem Applies.seeded (h : Applies records s created skipped s') : Seeded records s s' := by
  induction h with
  | nil s => exact .refl s
  | created h _ ih | skipped h _ ih => exact h.seeded.append ih

/-- Where records have been applied already, they add nothing to those that come after. -/
theorem Seeded.resume (h : Seeded before s s₁) (hrest : Seeded (before ++ rest) s₁ s') :
    Seeded (before ++ rest) s s' := by
  have htwice := h.append hrest
  refine ⟨htwice.kept, fun x hfree => ?_⟩
  have hfilled := htwice.filled x hfree
  rwa [first?_append, first?_append, ← Option.or_assoc, Option.or_self, ← first?_append] at hfilled

/-- A slot that there is a record for is taken afterwards. -/
theorem Seeded.taken (h : Seeded records s s') (hrecord : record ∈ records)
    (hslot : slot? record = some x) : (Assoc.get? x s'.slots).isSome := by
  cases hs : Assoc.get? x s.slots with
  | some r => rw [h.kept x r hs]; rfl
  | none =>
      have hfound : (first? records x).isSome :=
        List.find?_isSome.mpr ⟨record, hrecord, decide_eq_true hslot⟩
      have hfilled := h.filled x hs
      generalize first? records x = found at hfound hfilled
      generalize Assoc.get? x s'.slots = stored at hfilled ⊢
      cases hfilled with
      | free => cases hfound
      | used => rfl

/-! ### How many are created -/

theorem Applied.freshSlots_of_skipped (h : Applied record s (.ok false) s') (rest : List Json) :
    s' = s ∧ freshSlots s (record :: rest) = freshSlots s rest := by
  cases h with
  | @skipped kind m htarget htaken =>
      refine ⟨rfl, ?_⟩
      rw [freshSlots, List.filterMap_cons_some (slot?_of_target htarget), List.filter_cons_of_neg]
      · rfl
      · rw [Option.isNone_iff_eq_none]
        intro hfree
        rw [hfree] at htaken
        cases htaken

theorem Applied.freshSlots_of_created (h : Applied record s (.ok true) s') (rest : List Json) :
    ∃ x, freshSlots s (record :: rest) = x :: freshSlots s' rest := by
  cases h with
  | @created kind m htarget hfree uid now =>
      refine ⟨slot kind m.key, ?_⟩
      rw [freshSlots, List.filterMap_cons_some (slot?_of_target htarget),
        List.filter_cons_of_pos (by rw [hfree]; rfl), List.eraseDups_cons, List.filter_filter]
      -- the slots that are free afterwards are those that were, but for this one
      refine congrArg (fun slots => _ :: List.eraseDups slots) (List.filter_congr fun x _ => ?_)
      rw [get?_slots_created]
      by_cases hx : x = slot kind m.key <;> simp [hx]

theorem Applies.created_eq (h : Applies records s created skipped s') :
    created = (freshSlots s records).length := by
  induction h with
  | nil => rfl
  | @created record rest s s₁ s' created skipped h _ ih =>
      obtain ⟨x, hx⟩ := h.freshSlots_of_created rest
      rw [hx, List.length_cons, ih]
  | @skipped record rest s s₁ s' created skipped h _ ih =>
      obtain ⟨rfl, hx⟩ := h.freshSlots_of_skipped rest
      rw [hx, ih]

/-- Where every slot is taken, nothing happens. -/
theorem Applies.of_taken (h : Applies records s created skipped s')
    (htaken : ∀ record ∈ records, ∀ x, slot? record = some x → (Assoc.get? x s.slots).isSome) :
    created = 0 ∧ s' = s := by
  induction h with
  | nil => exact ⟨rfl, rfl⟩
  | created h _ ih =>
      cases h with
      | created htarget hfree =>
          have hslot := (List.forall_mem_cons.mp htaken).1 _ (slot?_of_target htarget)
          rw [hfree] at hslot
          cases hslot
  | skipped h _ ih =>
      cases h with
      | skipped => exact ih (List.forall_mem_cons.mp htaken).2

/-! ### Up to what the store assigns -/

theorem unassigned_created {kind : String} {m : Metadata} (h : target record = .ok (kind, m))
    (uid now version uid' now' version' : String) :
    (StoredRecord.created uid now version kind record m).unassigned =
      (StoredRecord.created uid' now' version' kind record m).unassigned := by
  obtain ⟨-, hmeta, -⟩ := target_eq_ok.mp h
  obtain ⟨-, hspace, hname⟩ := Json.recordMetadata_eq_ok.mp hmeta
  have hobject : (record.remove "status").isObject := by
    rw [Json.isObject_remove]
    exact Json.isObject_of_recordMetadata hmeta
  have hread (uid now version : String) :
      (StoredRecord.created uid now version kind record m).object.recordMetadata =
        .ok (StoredRecord.createdMetadata uid now version m) :=
    Json.recordMetadata_set hobject hspace hname
  simp only [StoredRecord.unassigned, hread]
  simp only [StoredRecord.created, Json.set_set]
  rfl

/-- The same records from the same store come to the same, but for what the store assigns. -/
theorem Seeded.unassigned_eq (h₁ : Seeded records s s₁) (h₂ : Seeded records s s₂) (x : String) :
    (Assoc.get? x s₁.slots).map StoredRecord.unassigned =
      (Assoc.get? x s₂.slots).map StoredRecord.unassigned := by
  cases hs : Assoc.get? x s.slots with
  | some r => rw [h₁.kept x r hs, h₂.kept x r hs]
  | none =>
      have hfilled₁ := h₁.filled x hs
      have hfilled₂ := h₂.filled x hs
      generalize first? records x = found at hfilled₁ hfilled₂
      generalize Assoc.get? x s₁.slots = stored₁ at hfilled₁ ⊢
      generalize Assoc.get? x s₂.slots = stored₂ at hfilled₂ ⊢
      cases hfilled₁ with
      | free => cases hfilled₂; rfl
      | used htarget =>
          cases hfilled₂ with
          | used htarget' =>
              cases htarget.symm.trans htarget'
              exact congrArg some (unassigned_created htarget ..)

end Seeded

/-! ## A whole seeding -/

theorem applyAll_cons (stats : SeedStats) (record : Json) (rest : List Json) :
    applyAll stats (record :: rest) = (apply record).bind fun
      | .error e => .done (.error e)
      | .ok true => applyAll { stats with created := stats.created + 1 } rest
      | .ok false => applyAll { stats with skipped := stats.skipped + 1 } rest := rfl

theorem loadAll_cons {manifest : Manifest} (h : manifest.value?.isSome) (stats : SeedStats)
    (rest : List Manifest) :
    loadAll stats (manifest :: rest) = (applyAll stats manifest.records).bind fun
      | .error e => .done (.error (.refused manifest.path e))
      | .ok stats => loadAll { stats with files := stats.files + 1 } rest := by
  obtain ⟨v, hv⟩ := Option.isSome_iff_exists.mp h
  obtain ⟨text, htext, hread⟩ := Option.bind_eq_some_iff.mp hv
  simp only [loadAll, htext, hread, Manifest.records, hv]
  rfl

theorem run_applyAll (hf : f.Answers) (records : List Json) (stats : SeedStats) (w : σ) :
    (∃ created skipped w', (applyAll stats records).run f.handler w =
        (.returned (.ok ⟨stats.files, stats.created + created, stats.skipped + skipped⟩), w') ∧
        Applies records (f.store w) created skipped (f.store w')) ∨
      ∃ bad ∈ records, ∃ e w', (applyAll stats records).run f.handler w =
        (.returned (.error e), w') ∧ Halts (f.store w) (f.store w') bad e records := by
  induction records generalizing stats w with
  | nil => exact .inl ⟨0, 0, w, rfl, .nil _⟩
  | cons record rest ih =>
      obtain ⟨answer, w₁, hrun, happlied⟩ := run_apply hf record w
      rw [applyAll_cons, Program.run_bind, hrun]
      rcases answer with e | (- | -)
      · obtain ⟨hbad, hstore⟩ := happlied.of_error
        refine .inr ⟨record, List.mem_cons_self, e, w₁, rfl, ?_⟩
        rw [hstore]
        exact .intro (.nil _) hbad
      · rcases ih { stats with skipped := stats.skipped + 1 } w₁ with
          ⟨created, skipped, w', hrest, happlies⟩ | ⟨bad, hbad, e, w', hrest, hhalts⟩
        · refine .inl ⟨created, skipped + 1, w', ?_, .skipped happlied happlies⟩
          rw [Nat.add_comm skipped, ← Nat.add_assoc]
          exact hrest
        · exact .inr ⟨bad, List.mem_cons_of_mem _ hbad, e, w', hrest,
            .prepend (.skipped happlied (.nil _)) hhalts⟩
      · rcases ih { stats with created := stats.created + 1 } w₁ with
          ⟨created, skipped, w', hrest, happlies⟩ | ⟨bad, hbad, e, w', hrest, hhalts⟩
        · refine .inl ⟨created + 1, skipped, w', ?_, .created happlied happlies⟩
          rw [Nat.add_comm created, ← Nat.add_assoc]
          exact hrest
        · exact .inr ⟨bad, List.mem_cons_of_mem _ hbad, e, w', hrest,
            .prepend (.created happlied (.nil _)) hhalts⟩

theorem run_loadAll (hf : f.Answers) {manifests : List Manifest}
    (hread : ∀ manifest ∈ manifests, manifest.value?.isSome) (stats : SeedStats) (w : σ) :
    (∃ created skipped w', (loadAll stats manifests).run f.handler w =
        (.returned (.ok ⟨stats.files + manifests.length, stats.created + created,
          stats.skipped + skipped⟩), w') ∧
        Applies (allRecords manifests) (f.store w) created skipped (f.store w')) ∨
      ∃ manifest ∈ manifests, ∃ bad ∈ manifest.records, ∃ e w',
        (loadAll stats manifests).run f.handler w =
          (.returned (.error (.refused manifest.path e)), w') ∧
        Halts (f.store w) (f.store w') bad e (allRecords manifests) := by
  induction manifests generalizing stats w with
  | nil => exact .inl ⟨0, 0, w, rfl, .nil _⟩
  | cons manifest manifests ih =>
      obtain ⟨hvalue, hread⟩ := List.forall_mem_cons.mp hread
      rw [loadAll_cons hvalue, Program.run_bind, allRecords, List.flatMap_cons]
      rcases run_applyAll hf manifest.records stats w with
        ⟨created, skipped, w₁, hrun, happlies⟩ | ⟨bad, hbad, e, w', hrun, hhalts⟩
      · rw [hrun]
        rcases ih hread ⟨stats.files + 1, stats.created + created, stats.skipped + skipped⟩ w₁ with
          ⟨created', skipped', w', hrest, happlies'⟩ |
          ⟨manifest', hmanifest, bad, hbad, e, w', hrest, hhalts⟩
        · refine .inl ⟨created + created', skipped + skipped', w', ?_, happlies.append happlies'⟩
          rw [List.length_cons, Nat.add_comm manifests.length, ← Nat.add_assoc, ← Nat.add_assoc,
            ← Nat.add_assoc]
          exact hrest
        · exact .inr ⟨manifest', List.mem_cons_of_mem _ hmanifest, bad, hbad, e, w', hrest,
            hhalts.prepend happlies⟩
      · rw [hrun]
        exact .inr ⟨manifest, List.mem_cons_self, bad, hbad, e, w', rfl, hhalts.append _⟩

theorem exists_run_load (hf : f.Answers) (folder : String) {manifests : List Manifest}
    (hread : ∀ manifest ∈ manifests, manifest.value?.isSome) (w : σ) :
    ∃ answer w', (load folder (some manifests)).run f.handler w = (.returned answer, w') := by
  rcases run_loadAll hf hread ⟨0, 0, 0⟩ w with ⟨_, _, w', hrun, -⟩ | ⟨_, _, _, _, _, w', hrun, -⟩
  · exact ⟨_, w', hrun⟩
  · exact ⟨_, w', hrun⟩

/-- What a seeding of a store that answers can come to. -/
def Leads (folder : String) (manifests : List Manifest) (s : Store)
    (answer : Except SeedError SeedStats) (s' : Store) : Prop :=
  ∃ (σ : Type) (f : FailingStore σ) (w w' : σ), f.Answers ∧ f.store w = s ∧ f.store w' = s' ∧
    (load folder (some manifests)).run f.handler w = (.returned answer, w')

section Load

variable {folder : String} {manifests : List Manifest} {s s' : Store}
  {answer : Except SeedError SeedStats}

theorem Leads.cases (hread : ∀ manifest ∈ manifests, manifest.value?.isSome)
    (h : Leads folder manifests s answer s') :
    (∃ created skipped, answer = .ok ⟨manifests.length, created, skipped⟩ ∧
        Applies (allRecords manifests) s created skipped s') ∨
      ∃ manifest ∈ manifests, ∃ bad ∈ manifest.records, ∃ e,
        answer = .error (.refused manifest.path e) ∧
          Halts s s' bad e (allRecords manifests) := by
  obtain ⟨σ, f, w, w', hf, rfl, rfl, hrun⟩ := h
  rcases run_loadAll hf hread ⟨0, 0, 0⟩ w with ⟨created, skipped, w'', hend, happlies⟩ |
    ⟨manifest, hmanifest, bad, hbad, e, w'', hend, hhalts⟩
  · cases hend.symm.trans hrun
    simp only [Nat.zero_add]
    exact .inl ⟨created, skipped, rfl, happlies⟩
  · cases hend.symm.trans hrun
    exact .inr ⟨manifest, hmanifest, bad, hbad, e, rfl, hhalts⟩

/-- If no record is refused, all are applied. -/
theorem Leads.applies (hread : ∀ manifest ∈ manifests, manifest.value?.isSome)
    (h : Leads folder manifests s answer s')
    (hall : ∀ record ∈ allRecords manifests, ∃ t, target record = .ok t) :
    ∃ created skipped, answer = .ok ⟨manifests.length, created, skipped⟩ ∧
      Applies (allRecords manifests) s created skipped s' := by
  rcases h.cases hread with hdone | ⟨_, _, _, _, _, _, hhalts⟩
  · exact hdone
  · exact absurd hall hhalts.not_forall

theorem exists_leads (folder : String) (hread : ∀ manifest ∈ manifests, manifest.value?.isSome)
    (s : Store) : ∃ answer s', Leads folder manifests s answer s' := by
  obtain ⟨answer, w', hrun⟩ :=
    exists_run_load FailingStore.answers_plain folder hread ⟨s, [], 0, ""⟩
  exact ⟨answer, w'.store, _, _, _, w', FailingStore.answers_plain, rfl, rfl, hrun⟩

/-- A seeding from any manifests that begin with the records goes on where they have led: if it
succeeds there, a single one on the original store succeeds too and comes to the same, but for what
the store assigns. -/
def Resumes (folder : String) (before : List Json) (s s' : Store) : Prop :=
  ∀ manifests rest, (∀ manifest ∈ manifests, (Manifest.value? manifest).isSome) →
    allRecords manifests = before ++ rest →
    ∀ stats s₁, Leads folder manifests s' (.ok stats) s₁ →
      ∀ answer s₂, Leads folder manifests s answer s₂ →
        (∃ stats', answer = .ok stats') ∧
          ∀ x, (Assoc.get? x s₁.slots).map StoredRecord.unassigned =
            (Assoc.get? x s₂.slots).map StoredRecord.unassigned

theorem Seeded.resumes {before : List Json} (h : Seeded before s s') :
    Resumes folder before s s' := by
  intro manifests rest hread hrecords stats s₁ hresumed answer s₂ hsingle
  rcases hresumed.cases hread with ⟨_, _, -, hresumes⟩ | ⟨_, _, _, _, _, hfails, _⟩
  · obtain ⟨_, _, rfl, hsingles⟩ := hsingle.applies hread hresumes.exists_target
    rw [hrecords] at hresumes hsingles
    exact ⟨⟨_, rfl⟩, (h.resume hresumes.seeded).unassigned_eq hsingles.seeded⟩
  · cases hfails

/-- Of a store that answers, and of manifests that can be read: a seeding comes to its end, and it
keeps every record that was stored. If it succeeds, it has created as many records as there were
free slots to fill, each filled by the first record for it, and skipped the others; a second one
skips all and changes nothing. If it fails, the records before the one that was refused have been
applied, and no more; when that record is left out or mended, with whatever comes after it, a
seeding goes on from there. -/
theorem seeding_repeatable (folder : String) (manifests : List Manifest)
    (hread : ∀ manifest ∈ manifests, manifest.value?.isSome) (s : Store) :
    (∀ {σ : Type} (f : FailingStore σ), f.Answers → ∀ w, ∃ answer w',
        (load folder (some manifests)).run f.handler w = (.returned answer, w')) ∧
      ∀ answer s', Leads folder manifests s answer s' →
        (∀ x r, Assoc.get? x s.slots = some r → Assoc.get? x s'.slots = some r) ∧
        (∀ stats, answer = .ok stats →
          stats.files = manifests.length ∧
          stats.created + stats.skipped = (allRecords manifests).length ∧
          stats.created = (freshSlots s (allRecords manifests)).length ∧
          (∀ record ∈ allRecords manifests, ∃ t, target record = .ok t) ∧
          Seeded (allRecords manifests) s s' ∧
          ∀ answer' s'', Leads folder manifests s' answer' s'' →
            answer' = .ok ⟨manifests.length, 0, (allRecords manifests).length⟩ ∧ s'' = s') ∧
        (∀ e, answer = .error e →
          ∃ before bad after cause, allRecords manifests = before ++ bad :: after ∧
            (∃ manifest ∈ manifests, bad ∈ manifest.records ∧
              e = .refused manifest.path cause) ∧
            target bad = .error cause ∧ (∀ record ∈ before, ∃ t, target record = .ok t) ∧
            Seeded before s s' ∧ Resumes folder before s s') := by
  refine ⟨fun f hf w => exists_run_load hf folder hread w, ?_⟩
  intro answer s' hleads
  rcases hleads.cases hread with ⟨created, skipped, rfl, happlies⟩ |
    ⟨manifest, hmanifest, bad, hbad, cause, rfl, hhalts⟩
  · -- all records are applied
    refine ⟨happlies.seeded.kept, ?_, fun e he => nomatch he⟩
    rintro stats ⟨⟩
    refine ⟨rfl, happlies.total, happlies.created_eq, happlies.exists_target,
      happlies.seeded, ?_⟩
    intro answer' s'' hagain
    obtain ⟨created', skipped', rfl, happlies'⟩ := hagain.applies hread happlies.exists_target
    obtain ⟨rfl, rfl⟩ := happlies'.of_taken fun record hrecord x hslot =>
      happlies.seeded.taken hrecord hslot
    rw [← happlies'.total, Nat.zero_add]
    exact ⟨rfl, rfl⟩
  · -- those before a refused one are
    generalize hrecords : allRecords manifests = all at hhalts
    obtain @⟨before, after, created, skipped, happlies, htarget⟩ := hhalts
    refine ⟨happlies.seeded.kept, fun stats hstats => (nomatch hstats), ?_⟩
    rintro e ⟨⟩
    exact ⟨before, bad, after, cause, rfl, ⟨manifest, hmanifest, hbad, rfl⟩, htarget,
      happlies.exists_target, happlies.seeded, happlies.seeded.resumes⟩

end Load

def note (name text : String) : Json := .ofFields [
  ("kind", some (.str "Note")), ("metadata", some (Metadata.new ⟨"w", name⟩ .empty).toJson),
  ("spec", some (.str text))]

/-- Three records for two slots. -/
def notes : List Manifest := [
  ⟨"1.json", some (Json.arr [note "a" "1", note "a" "2"]).text⟩,
  ⟨"2.json", some (note "b" "3").text⟩]

/-- A manifest with something that is no record. -/
def torn : List Manifest := [⟨"1.json", some (Json.arr [note "a" "1", .null]).text⟩]

/-- The first seeding creates two records and skips the second one for its slot, the next skips all;
where something is no record, a seeding fails. -/
theorem seeding_repeatable_notes :
    (∃ s', Leads "seeds" notes (.empty .none) (.ok ⟨2, 2, 1⟩) s' ∧
        Leads "seeds" notes s' (.ok ⟨2, 0, 3⟩) s') ∧
      ∃ cause s', Leads "seeds" torn (.empty .none) (.error (.refused "1.json" cause)) s' := by
  constructor
  · obtain ⟨hread, hall, hlength, hfresh⟩ : (∀ manifest ∈ notes, manifest.value?.isSome) ∧
        (∀ record ∈ allRecords notes, (target record).isOk) ∧ (allRecords notes).length = 3 ∧
        (freshSlots (.empty .none) (allRecords notes)).length = 2 := by decide +kernel
    obtain ⟨answer, s', hfirst⟩ := exists_leads "seeds" hread (.empty .none)
    obtain ⟨-, hleads⟩ := seeding_repeatable "seeds" notes hread (.empty .none)
    obtain ⟨-, hok, herror⟩ := hleads answer s' hfirst
    cases answer with
    | error e =>
        obtain ⟨before, bad, after, cause, hrecords, -, hbad, -⟩ := herror e rfl
        have hgood := hall bad (by rw [hrecords]; simp)
        rw [hbad] at hgood
        cases hgood
    | ok stats =>
        obtain ⟨hfiles, htotal, hcreated, -, -, hagain⟩ := hok stats rfl
        obtain ⟨answer', s'', hsecond⟩ := exists_leads "seeds" hread s'
        obtain ⟨rfl, rfl⟩ := hagain answer' s'' hsecond
        rw [hlength] at hsecond
        rw [hlength] at htotal
        obtain ⟨files, created, skipped⟩ := stats
        obtain rfl : files = 2 := hfiles
        obtain rfl : created = 2 := hcreated.trans hfresh
        obtain rfl : skipped = 1 := Nat.add_left_cancel htotal
        exact ⟨_, hfirst, hsecond⟩
  · obtain ⟨hread, hrefused⟩ : (∀ manifest ∈ torn, manifest.value?.isSome) ∧
        ∃ record ∈ allRecords torn, (target record).isOk = false := by decide +kernel
    obtain ⟨answer, s', hfirst⟩ := exists_leads "seeds" hread (.empty .none)
    obtain ⟨-, hleads⟩ := seeding_repeatable "seeds" torn hread (.empty .none)
    obtain ⟨-, hok, herror⟩ := hleads answer s' hfirst
    cases answer with
    | error e =>
        obtain ⟨-, -, -, cause, -, ⟨manifest, hmanifest, -, rfl⟩, -⟩ := herror e rfl
        obtain rfl := List.mem_singleton.mp hmanifest
        exact ⟨cause, s', hfirst⟩
    | ok stats =>
        obtain ⟨-, -, -, hall, -⟩ := hok stats rfl
        obtain ⟨record, hrecord, hfails⟩ := hrefused
        obtain ⟨t, ht⟩ := hall record hrecord
        rw [ht] at hfails
        cases hfails

end Seed

end ReleaseControl
