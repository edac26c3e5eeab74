import ReleaseControl.Proofs.Reconcile.Consent

/-! # Which counterpart is found

A policy decides about a set of counterparts, not about the list that the store happens to return:
none, an only one, several that are named, the one whose name comes first (`Selects`). The lookup
decides in this way about the counterparts that the index can list (`selects_findTarget`), after
every run of calls on kinds without a slash, unless a record under the same entry cannot be read.

A link with an array for a spec is left out of the set. That shows in the result, except under the
policy that takes the first name, where a counterpart with a smaller name hides it
(`target_decided`, `unseen_counterpart`). -/

namespace ReleaseControl

open Reconcile Store

/-! ## Sets of counterparts -/

/-- A stored link that pairs with the given one. -/
def Store.Counterpart (s : Store) (link c : ReleaseLink) : Prop := s.Has c ∧ link.pairsWith c

/-- A counterpart that the index can list. -/
def Store.Shows (s : Store) (link c : ReleaseLink) : Prop := s.Counterpart link c ∧ ¬ s.Hides c

theorem Store.Counterpart.not_shows_iff {s : Store} {link c : ReleaseLink}
    (h : s.Counterpart link c) : ¬ s.Shows link c ↔ s.Hides c := by
  constructor
  · intro hleft
    by_contra hlisted
    exact hleft ⟨h, hlisted⟩
  · rintro hhidden ⟨-, hlisted⟩
    exact hlisted hhidden

/-- A record that is looked at when the counterparts of a link are asked for. -/
structure Store.Queried (s : Store) (link : ReleaseLink) (r : StoredRecord) : Prop where
  stored : ∃ x, Assoc.get? x s.slots = some r
  kind : r.kind = ReleaseLink.kind
  workspace : ∃ m, r.object.recordMetadata = .ok m ∧ m.workspace = link.spec.target
  entry : link.metadata.workspace ∈ r.object.fieldValues ReleaseLink.targetField

/-- One of the records that are looked at cannot be read. -/
def Store.Garbles (s : Store) (link : ReleaseLink) : Prop :=
  ∃ r, s.Queried link r ∧ ∀ c : ReleaseLink, r.typed ≠ .ok c

/-- Every record that is stored as a link can be read. -/
def Store.LinksReadable (s : Store) : Prop :=
  ∀ p ∈ s.slots, p.2.kind = ReleaseLink.kind → (p.2.typed : Except StoreError ReleaseLink).isOk

instance (s : Store) : Decidable s.LinksReadable :=
  inferInstanceAs (Decidable (∀ p ∈ s.slots, _ → _))

theorem Store.LinksReadable.not_garbles {s : Store} (h : s.LinksReadable) (link : ReleaseLink) :
    ¬ s.Garbles link := by
  rintro ⟨r, hr, hunread⟩
  obtain ⟨x, hx⟩ := hr.stored
  have hread := h _ (Assoc.mem_of_get? hx) hr.kind
  cases htyped : (r.typed : Except StoreError ReleaseLink) with
  | error e =>
      rw [htyped] at hread
      cases hread
  | ok c => exact hunread c htyped

namespace Chain

/-- What a policy makes of a set of counterparts. -/
inductive Selects (policy : AmbiguityPolicy) (link : ReleaseLink) (C : ReleaseLink → Prop) :
    Except ReconcileError ReleaseLink → Prop where
  | none (hnone : ∀ c, ¬ C c) : Selects policy link C
      (.error (.noMatchingTarget link.spec.target link.metadata.workspace link.spec.application))
  | only {c : ReleaseLink} (honly : ∀ d, C d ↔ d = c) : Selects policy link C (.ok c)
  /-- The names of several, each once. -/
  | ambiguous {names : List String} (hstrict : policy = .strict)
      (hseveral : ∃ c d, C c ∧ C d ∧ c ≠ d) (hsorted : names.Pairwise (· < ·))
      (hnames : ∀ n, n ∈ names ↔ ∃ c, C c ∧ c.metadata.name = n) : Selects policy link C
      (.error (.ambiguousTarget link.spec.target link.spec.application names))
  /-- The first of several. -/
  | first {c : ReleaseLink} (hfirst : policy = .firstByName) (hmem : C c)
      (hseveral : ∃ d, C d ∧ d ≠ c) (hleast : ∀ d, C d → c.metadata.name ≤ d.metadata.name) :
      Selects policy link C (.ok c)

/-- Names tell the links of the set apart. -/
def NamesApart (C : ReleaseLink → Prop) : Prop :=
  ∀ c d, C c → C d → c.metadata.name = d.metadata.name → c = d

section Selection

variable {policy : AmbiguityPolicy} {link c : ReleaseLink} {C V : ReleaseLink → Prop}
  {result : Except ReconcileError ReleaseLink}

theorem Selects.of_ok (h : Selects policy link C (.ok c)) :
    C c ∧ ∀ d, C d → c.metadata.name ≤ d.metadata.name := by
  cases h with
  | only honly =>
      refine ⟨(honly c).mpr rfl, fun d hd => ?_⟩
      rw [(honly d).mp hd]
  | first _ hmem _ hleast => exact ⟨hmem, hleast⟩

theorem Selects.of_ambiguous {target application : String} {names : List String}
    (h : Selects policy link C (.error (.ambiguousTarget target application names))) :
    (∃ c d, C c ∧ C d ∧ c ≠ d) ∧ ∀ n, n ∈ names ↔ ∃ c, C c ∧ c.metadata.name = n := by
  cases h with
  | ambiguous _ hseveral _ hnames => exact ⟨hseveral, hnames⟩

theorem Selects.exists_ok (h : Selects .firstByName link C result) (hc : C c) :
    ∃ d, result = .ok d := by
  cases h with
  | none hnone => exact absurd hc (hnone c)
  | ambiguous hstrict => cases hstrict
  | only | first => exact ⟨_, rfl⟩

theorem Selects.congr (h : Selects policy link V result) (hsame : ∀ c, V c ↔ C c) :
    Selects policy link C result := by
  obtain rfl : V = C := funext fun c => propext (hsame c)
  exact h

/-- Links that were left out make no difference only if the first name is asked for and there is a
smaller one than theirs. -/
theorem Selects.superset_iff (h : Selects policy link V result) (hsub : ∀ c, V c → C c)
    (hapart : NamesApart C) : Selects policy link C result ↔
      ∀ c, C c → ¬ V c → policy = .firstByName ∧ ∃ d, V d ∧ d.metadata.name < c.metadata.name := by
  constructor
  · intro hC c hc hleft
    -- whoever is selected from both sets comes before `c`
    have hbefore {d : ReleaseLink} (hd : V d)
        (hleast : ∀ e, C e → d.metadata.name ≤ e.metadata.name) :
        ∃ d, V d ∧ d.metadata.name < c.metadata.name := by
      refine ⟨d, hd, lt_of_le_of_ne (hleast c hc) ?_⟩
      intro hname
      exact hleft (hapart d c (hsub d hd) hc hname ▸ hd)
    cases hC with
    | none hnone => exact absurd hc (hnone c)
    | only honly =>
        have hd := h.of_ok.1
        exact absurd (((honly c).mp hc).symm ▸ hd) hleft
    | ambiguous _ _ _ hnames =>
        cases h with
        | ambiguous _ _ _ hnames' =>
            obtain ⟨d, hd, hname⟩ := (hnames' _).mp ((hnames _).mpr ⟨c, hc, rfl⟩)
            exact absurd (hapart d c (hsub d hd) hc hname ▸ hd) hleft
    | first hfirst _ _ hleast => exact ⟨hfirst, hbefore h.of_ok.1 hleast⟩
  · intro hleft
    by_cases hall : ∀ c, C c → V c
    · exact h.congr fun c => ⟨hsub c, hall c⟩
    · obtain ⟨c, hc⟩ := not_forall.mp hall
      obtain ⟨hc, hout⟩ := Classical.not_imp.mp hc
      obtain ⟨rfl, d, hd, -⟩ := hleft c hc hout
      obtain ⟨e, rfl⟩ := h.exists_ok hd
      obtain ⟨he, hleast⟩ := h.of_ok
      refine .first rfl (hsub e he) ⟨c, hc, ?_⟩ fun f hf => ?_
      · rintro rfl
        exact hout he
      · by_cases hf' : V f
        · exact hleast f hf'
        · obtain ⟨-, g, hg, hless⟩ := hleft f hf hf'
          exact (hleast g hg).trans hless.le

/-- The set settles what is selected. -/
theorem Selects.unique {result' : Except ReconcileError ReleaseLink}
    (h : Selects policy link C result) (h' : Selects policy link C result')
    (hapart : NamesApart C) : result = result' := by
  cases h with
  | none hnone =>
      cases h' with
      | none => rfl
      | only honly => exact absurd ((honly _).mpr rfl) (hnone _)
      | ambiguous _ hseveral =>
          obtain ⟨c, -, hc, -⟩ := hseveral
          exact absurd hc (hnone c)
      | first _ hmem => exact absurd hmem (hnone _)
  | only honly =>
      cases h' with
      | none hnone => exact absurd ((honly _).mpr rfl) (hnone _)
      | only honly' => rw [(honly' _).mp ((honly _).mpr rfl)]
      | ambiguous _ hseveral =>
          obtain ⟨c, d, hc, hd, hne⟩ := hseveral
          exact absurd (((honly c).mp hc).trans ((honly d).mp hd).symm) hne
      | first _ hmem => rw [(honly _).mp hmem]
  | ambiguous hstrict hseveral hsorted hnames =>
      obtain ⟨c, d, hc, hd, hne⟩ := hseveral
      cases h' with
      | none hnone => exact absurd hc (hnone c)
      | only honly => exact absurd (((honly c).mp hc).trans ((honly d).mp hd).symm) hne
      | ambiguous _ _ hsorted' hnames' =>
          rw [List.Pairwise.eq_of_mem_iff hsorted hsorted'
            fun n => (hnames n).trans (hnames' n).symm]
      | first hfirst => cases hstrict.symm.trans hfirst
  | first hfirst hmem _ hleast =>
      cases h' with
      | none hnone => exact absurd hmem (hnone _)
      | only honly => rw [(honly _).mp hmem]
      | ambiguous hstrict => cases hstrict.symm.trans hfirst
      | first _ hmem' _ hleast' =>
          rw [hapart _ _ hmem hmem' (le_antisymm (hleast _ hmem') (hleast' _ hmem))]

/-- The choice among links in the order of their names is what the policy makes of their set. -/
theorem selects_choose (found : List ReleaseLink)
    (hsorted : found.Pairwise fun c d => c.metadata.name < d.metadata.name) :
    Selects policy link (· ∈ found) (choose policy link found) := by
  match found, hsorted with
  | [], _ => exact .none fun c => List.not_mem_nil
  | [c], _ => exact .only fun d => List.mem_singleton
  | c :: d :: rest, hsorted =>
      obtain ⟨hhead, -⟩ := List.pairwise_cons.mp hsorted
      have hd : d ∈ c :: d :: rest := List.mem_cons_of_mem _ List.mem_cons_self
      have hne : d ≠ c := by
        rintro rfl
        exact lt_irrefl _ (hhead d List.mem_cons_self)
      cases policy with
      | strict =>
          exact .ambiguous rfl ⟨d, c, hd, List.mem_cons_self, hne⟩ (List.pairwise_map.mpr hsorted)
            fun n => List.mem_map
      | firstByName =>
          refine .first rfl List.mem_cons_self ⟨d, hd, hne⟩ fun e he => ?_
          rcases List.mem_cons.mp he with rfl | he
          · exact le_rfl
          · exact (hhead e he).le

end Selection

/-! ## The links of a store -/

section Stored

variable {s : Store} {link c d : ReleaseLink}

/-- The slot of a link that was read is that of its key. -/
theorem eq_slot_of_typed (hs : s.Sound) {x : String} {stored : StoredRecord}
    (hx : Assoc.get? x s.slots = some stored) (hread : stored.typed = .ok c) :
    x = slot ReleaseLink.kind c.metadata.key := (hs.accounted_link hx hread).slot

theorem eq_of_key (hs : s.Sound) (hc : s.Has c) (hd : s.Has d)
    (hkey : c.metadata.key = d.metadata.key) : c = d := by
  obtain ⟨x, p, hp, hread⟩ := hc
  obtain ⟨y, q, hq, hread'⟩ := hd
  rw [eq_slot_of_typed hs hp hread, hkey] at hp
  rw [eq_slot_of_typed hs hq hread'] at hq
  obtain rfl : p = q := Option.some.inj (hp.symm.trans hq)
  exact Except.ok.inj (hread.symm.trans hread')

theorem workspace_of_pairsWith (h : link.pairsWith c) :
    c.metadata.workspace = link.spec.target := by
  simp only [ReleaseLink.pairsWith, Bool.and_eq_true, beq_iff_eq] at h
  exact h.1.1

theorem has_of_read? {key : RecordKey} (h : s.read? ReleaseLink key = some c) : s.Has c := by
  obtain ⟨stored, hget, hread⟩ := read?_eq_some.mp h
  exact ⟨_, stored, hget, hread⟩

/-- Counterparts of one link are in one workspace, where names tell them apart. -/
theorem namesApart_counterpart (hs : s.Sound) (link : ReleaseLink) :
    NamesApart (s.Counterpart link) := by
  rintro c d ⟨hc, hpairs⟩ ⟨hd, hpairs'⟩ hname
  refine eq_of_key hs hc hd ?_
  rw [Metadata.key, Metadata.key, hname, workspace_of_pairsWith hpairs,
    workspace_of_pairsWith hpairs']

theorem namesApart_shows (hs : s.Sound) (link : ReleaseLink) : NamesApart (s.Shows link) :=
  fun c d hc hd => namesApart_counterpart hs link c d hc.1 hd.1

end Stored

/-! ## What the index lists -/

section Query

variable {indexes : FieldIndexes} {requests : List Request}

/-- The records that the query of a link returns. -/
theorem exists_list_queried (hkinds : ∀ q ∈ requests, '/' ∉ q.call.kind.toList)
    (hindex : indexes.contains ReleaseLink.kind ReleaseLink.targetField) (link : ReleaseLink) :
    ∃ rs, (after indexes requests).list ReleaseLink.kind (counterpartQuery link) = .ok rs ∧
      rs.Pairwise StoredRecord.Before ∧ ∀ r, r ∈ rs ↔ (after indexes requests).Queried link r := by
  have hselector : (counterpartQuery link).selector =
      some ⟨ReleaseLink.targetField, link.metadata.workspace⟩ := rfl
  have hfits (m : Metadata) :
      (counterpartQuery link).Fits m ↔ m.workspace = link.spec.target := by
    refine ⟨fun h => h.workspace _ rfl, fun h => ⟨?_, ?_⟩⟩
    · rintro w ⟨⟩
      exact h
    · rintro name value hlabel
      cases hlabel
  obtain ⟨rs, hrs, hsorted, hmem⟩ := exists_list_selected (reachable_after indexes requests).sound
    (indexed_after hkinds) hselector (by rw [indexes_after]; exact hindex)
  refine ⟨rs, hrs, hsorted, fun r => (hmem r).trans ?_⟩
  simp only [hfits]
  constructor
  · rintro ⟨⟨hstored, hkind, hentry⟩, hspace⟩
    exact ⟨hstored, hkind, hspace, hentry⟩
  · intro h
    exact ⟨⟨h.stored, h.kind, h.entry⟩, h.workspace⟩

/-- Different records are read as links with different keys. -/
theorem pairwise_key_of_mapM_typed {s : Store} (hs : s.Sound) {rs : List StoredRecord}
    (hsorted : rs.Pairwise StoredRecord.Before)
    (hstored : ∀ r ∈ rs, ∃ x, Assoc.get? x s.slots = some r) {found : List ReleaseLink}
    (h : rs.mapM StoredRecord.typed = .ok found) :
    found.Pairwise fun c d => c.metadata.key ≠ d.metadata.key := by
  induction rs generalizing found with
  | nil =>
      cases h
      exact .nil
  | cons a rest ih =>
      rw [List.mapM_cons] at h
      obtain ⟨c, hc, h⟩ := exists_of_bind_ok h
      obtain ⟨others, hothers, h⟩ := exists_of_bind_ok h
      cases h
      obtain ⟨hfirst, hrest⟩ := List.pairwise_cons.mp hsorted
      obtain ⟨⟨x, hx⟩, hstored⟩ := List.forall_mem_cons.mp hstored
      refine List.pairwise_cons.mpr ⟨fun d hd hkey => ?_, ih hrest hstored hothers⟩
      -- two links of one key were read from one record, which does not come before itself
      obtain ⟨b, hb, hread⟩ := StoredRecord.exists_of_mem_mapM_typed hothers hd
      obtain ⟨y, hy⟩ := hstored b hb
      rw [eq_slot_of_typed hs hx hc, hkey] at hx
      rw [eq_slot_of_typed hs hy hread] at hy
      obtain rfl : a = b := Option.some.inj (hx.symm.trans hy)
      exact Std.Irrefl.irrefl a (hfirst a hb)

theorem sorted_counterparts {found : List ReleaseLink}
    (hkeys : found.Pairwise fun c d => c.metadata.key ≠ d.metadata.key) (link : ReleaseLink) :
    (counterparts link found).Pairwise fun c d => c.metadata.name < d.metadata.name := by
  have hnames : ((found.filter link.pairsWith).map (·.metadata.name)).Nodup := by
    rw [List.Nodup, List.pairwise_map]
    refine (hkeys.filter _).imp_of_mem ?_
    intro c d hc hd hkey hname
    refine hkey ?_
    rw [Metadata.key, Metadata.key, hname, workspace_of_pairsWith (List.mem_filter.mp hc).2,
      workspace_of_pairsWith (List.mem_filter.mp hd).2]
  have hascending : (counterparts link found).Pairwise
      fun c d => decide (c.metadata.name ≤ d.metadata.name) := by
    apply List.pairwise_mergeSort
    · intro a b c hab hbc
      exact decide_eq_true ((of_decide_eq_true hab).trans (of_decide_eq_true hbc))
    · intro a b
      simpa using le_total a.metadata.name b.metadata.name
  have hapart : (counterparts link found).Pairwise
      fun c d => c.metadata.name ≠ d.metadata.name := by
    rw [← List.pairwise_map]
    exact ((List.mergeSort_perm _ _).map _).nodup_iff.mpr hnames
  exact (hascending.and hapart).imp fun h => lt_of_le_of_ne (of_decide_eq_true h.1) h.2

/-- A counterpart with an array for a spec is not under the entry that is asked for. -/
theorem not_hides_of_queried {s : Store} (hs : s.Sound) {link c : ReleaseLink}
    {stored : StoredRecord} (hqueried : s.Queried link stored) (hread : stored.typed = .ok c) :
    ¬ s.Hides c := by
  rintro ⟨y, stored', items, hy, hread', harray⟩
  obtain ⟨x, hx⟩ := hqueried.stored
  rw [eq_slot_of_typed hs hx hread] at hx
  rw [eq_slot_of_typed hs hy hread'] at hy
  obtain rfl : stored' = stored := Option.some.inj (hy.symm.trans hx)
  have hentry := hqueried.entry
  rw [fieldValues_of_array harray] at hentry
  cases hentry

/-- If everything that is looked at can be read, the policy decides about the counterparts that the
index can list. -/
theorem selects_findTarget (hkinds : ∀ q ∈ requests, '/' ∉ q.call.kind.toList)
    (hindex : indexes.contains ReleaseLink.kind ReleaseLink.targetField)
    (policy : AmbiguityPolicy) {link : ReleaseLink}
    (hclear : ¬ (after indexes requests).Garbles link) :
    Selects policy link ((after indexes requests).Shows link)
      ((findTarget policy link).on (after indexes requests)) := by
  have hs := (reachable_after indexes requests).sound
  obtain ⟨rs, hlist, hsorted, hmem⟩ := exists_list_queried hkinds hindex link
  have hread : ∀ r ∈ rs, ∃ c : ReleaseLink, r.typed = .ok c := by
    intro r hr
    by_contra hnone
    exact hclear ⟨r, (hmem r).mp hr, not_exists.mp hnone⟩
  obtain ⟨found, hfound⟩ := StoredRecord.exists_mapM_typed hread
  have hkeys := pairwise_key_of_mapM_typed hs hsorted (fun r hr => ((hmem r).mp hr).stored) hfound
  have hchoice : (findTarget policy link).on (after indexes requests) =
      choose policy link (counterparts link found) := by
    rw [findTarget_on, hlist]
    show ((rs.mapM StoredRecord.typed).mapError _).bind _ = _
    rw [hfound]
    rfl
  rw [hchoice]
  refine (selects_choose _ (sorted_counterparts hkeys link)).congr fun c => ?_
  constructor
  · intro hc
    obtain ⟨hc, hpairs⟩ := mem_counterparts_iff.mp hc
    obtain ⟨r, hr, htyped⟩ := StoredRecord.exists_of_mem_mapM_typed hfound hc
    have hqueried := (hmem r).mp hr
    obtain ⟨x, hx⟩ := hqueried.stored
    exact ⟨⟨⟨x, r, hx, htyped⟩, hpairs⟩, not_hides_of_queried hs hqueried htyped⟩
  · rintro ⟨⟨hc, hpairs⟩, hshown⟩
    exact (mem_counterparts hkinds hlist hfound hc hpairs).resolve_right hshown

/-- If not, the lookup fails for good. -/
theorem findTarget_of_garbles (hkinds : ∀ q ∈ requests, '/' ∉ q.call.kind.toList)
    (hindex : indexes.contains ReleaseLink.kind ReleaseLink.targetField)
    (policy : AmbiguityPolicy) {link : ReleaseLink}
    (hgarbled : (after indexes requests).Garbles link) :
    ∃ message, (findTarget policy link).on (after indexes requests) =
      .error (.store (.invalidObject message)) := by
  obtain ⟨rs, hlist, -, hmem⟩ := exists_list_queried hkinds hindex link
  obtain ⟨r, hqueried, hunread⟩ := hgarbled
  rw [findTarget_on, hlist]
  show ∃ message, ((rs.mapM StoredRecord.typed).mapError _).bind _ = _
  cases hfound : (rs.mapM StoredRecord.typed : Except StoreError (List ReleaseLink)) with
  | ok found =>
      obtain ⟨c, hc⟩ := StoredRecord.exists_typed_of_mapM hfound ((hmem r).mpr hqueried)
      exact absurd hc (hunread c)
  | error e =>
      obtain ⟨a, -, ha⟩ := StoredRecord.exists_of_mapM_typed_error hfound
      obtain ⟨cause, -, rfl⟩ := mapError_eq_error ha
      exact ⟨cause.message, rfl⟩

end Query

/-! ## The result -/

/-- The lookup fails for good if a record that is looked at cannot be read. Otherwise the policy
decides about the counterparts that the index can list, whatever calls have led to them. It does not
decide about all counterparts, unless each that is left out comes after another and the first is
asked for. -/
theorem target_decided {indexes : FieldIndexes} {requests : List Request}
    (hkinds : ∀ q ∈ requests, '/' ∉ q.call.kind.toList)
    (hindex : indexes.contains ReleaseLink.kind ReleaseLink.targetField)
    (policy : AmbiguityPolicy) (link : ReleaseLink) :
    ((after indexes requests).Garbles link →
      ∃ message, (findTarget policy link).on (after indexes requests) =
        .error (.store (.invalidObject message))) ∧
    (¬ (after indexes requests).Garbles link →
      Selects policy link ((after indexes requests).Shows link)
        ((findTarget policy link).on (after indexes requests)) ∧
      (Selects policy link ((after indexes requests).Counterpart link)
          ((findTarget policy link).on (after indexes requests)) ↔
        ∀ hidden, (after indexes requests).Counterpart link hidden →
          (after indexes requests).Hides hidden → policy = .firstByName ∧
            ∃ c, (after indexes requests).Shows link c ∧
              c.metadata.name < hidden.metadata.name) ∧
      ∀ requests', (∀ q ∈ requests', '/' ∉ q.call.kind.toList) →
        ¬ (after indexes requests').Garbles link →
        (∀ c, (after indexes requests').Shows link c ↔ (after indexes requests).Shows link c) →
        (findTarget policy link).on (after indexes requests') =
          (findTarget policy link).on (after indexes requests)) := by
  have hs := (reachable_after indexes requests).sound
  refine ⟨findTarget_of_garbles hkinds hindex policy, fun hclear => ?_⟩
  have hselects := selects_findTarget hkinds hindex policy hclear
  refine ⟨hselects, ?_, ?_⟩
  · rw [hselects.superset_iff (fun c hc => hc.1) (namesApart_counterpart hs link)]
    exact forall₂_congr fun c hc => imp_congr_left hc.not_shows_iff
  · intro requests' hkinds' hclear' hsame
    have hselects' := (selects_findTarget hkinds' hindex policy hclear').congr hsame
    exact hselects'.unique hselects (namesApart_shows hs link)

theorem eq_ok_of_toOption {ε α : Type} {result : Except ε α} {a : α}
    (h : result.toOption = some a) : result = .ok a := by
  cases result with
  | error e => cases h
  | ok b => exact congrArg Except.ok (Option.some.inj h)

/-- A link of workspace `a` that asks for its counterpart. -/
def asking : ReleaseLink := .new ⟨"a", "l"⟩ "b" "app" none

/-- A link that points back and leaves out the application. -/
def vague : List Request := [⟨"1", "", .create ReleaseLink.kind (.ofFields [
  ("kind", some (.str ReleaseLink.kind)),
  ("metadata", some (Metadata.new ⟨"b", "m"⟩ .empty).toJson),
  ("spec", some (.ofFields [("target", some (.str "a"))]))])⟩]

theorem garbles_vague : (after indexes vague).Garbles asking := by
  have hstored : ((after indexes vague).get? ReleaseLink.kind ⟨"b", "m"⟩).any fun r =>
      decide (r.kind = ReleaseLink.kind ∧
        r.object.recordMetadata.toOption.map (·.workspace) = some "b" ∧
        "a" ∈ r.object.fieldValues ReleaseLink.targetField ∧
        (r.typed : Except StoreError ReleaseLink).toOption = none) := by
    decide +kernel
  obtain ⟨r, hget, hfacts⟩ := (Option.any_eq_true _ _).mp hstored
  obtain ⟨hkind, hspace, hentry, hunread⟩ := of_decide_eq_true hfacts
  obtain ⟨m, hm, hspace⟩ := Option.map_eq_some_iff.mp hspace
  refine ⟨r, ⟨⟨_, hget⟩, hkind, ⟨m, eq_ok_of_toOption hm, hspace⟩, hentry⟩, fun c hread => ?_⟩
  rw [hread] at hunread
  cases hunread

theorem target_decided_contested :
    (∀ q ∈ vague, '/' ∉ q.call.kind.toList) ∧
    (∀ q ∈ contested, '/' ∉ q.call.kind.toList) ∧
    indexes.contains ReleaseLink.kind ReleaseLink.targetField ∧
    (∃ message, (findTarget .strict asking).on (after indexes vague) =
      .error (.store (.invalidObject message))) ∧
    ¬ (after indexes contested).Garbles asking ∧
    Selects .strict asking ((after indexes contested).Shows asking)
      ((findTarget .strict asking).on (after indexes contested)) ∧
    ((findTarget .strict asking).on (after indexes contested)).toOption.any
      (·.metadata.name == "m") := by
  have hvague : ∀ q ∈ vague, '/' ∉ q.call.kind.toList := by decide
  have hkinds : ∀ q ∈ contested, '/' ∉ q.call.kind.toList := by decide
  have hindex : indexes.contains ReleaseLink.kind ReleaseLink.targetField := by decide
  have hreadable : (after indexes contested).LinksReadable := by decide +kernel
  have hclear := hreadable.not_garbles asking
  have hfails := (target_decided hvague hindex .strict asking).1 garbles_vague
  obtain ⟨hselects, -, -⟩ := (target_decided hkinds hindex .strict asking).2 hclear
  exact ⟨hvague, hkinds, hindex, hfails, hclear, hselects, by decide +kernel⟩

/-- A link and its only counterpart, which the index cannot list. -/
def unseen : List Request := [
  requestFor "1" (ReleaseLink.new ⟨"a", "l"⟩ "b" "app" none),
  ⟨"2", "", .create ReleaseLink.kind listedLink⟩]

/-- There was no counterpart. -/
def isNothing : Except ReconcileError ReleaseLink → Bool
  | .error (.noMatchingTarget ..) => true
  | _ => false

theorem exists_of_isNothing {result : Except ReconcileError ReleaseLink}
    (h : isNothing result) : ∃ target workspace application,
      result = .error (.noMatchingTarget target workspace application) := by
  unfold isNothing at h
  split at h
  · exact ⟨_, _, _, rfl⟩
  · cases h

/-- There is a counterpart, everything that is looked at can be read, and no policy finds it. -/
theorem unseen_counterpart :
    (∀ q ∈ unseen, '/' ∉ q.call.kind.toList) ∧
    indexes.contains ReleaseLink.kind ReleaseLink.targetField ∧
    ¬ (after indexes unseen).Garbles asking ∧
    (∃ c, (after indexes unseen).read? ReleaseLink ⟨"b", "n"⟩ = some c ∧
      (after indexes unseen).Counterpart asking c) ∧
    ∀ policy, (∃ target workspace application,
        (findTarget policy asking).on (after indexes unseen) =
          .error (.noMatchingTarget target workspace application)) ∧
      ¬ Selects policy asking ((after indexes unseen).Counterpart asking)
        ((findTarget policy asking).on (after indexes unseen)) := by
  have hreadable : (after indexes unseen).LinksReadable := by decide +kernel
  have hstored : ((after indexes unseen).read? ReleaseLink ⟨"b", "n"⟩).any asking.pairsWith := by
    decide +kernel
  obtain ⟨c, hread, hpairs⟩ := (Option.any_eq_true _ _).mp hstored
  have hcounterpart : (after indexes unseen).Counterpart asking c := ⟨has_of_read? hread, hpairs⟩
  refine ⟨by decide, by decide, hreadable.not_garbles asking, ⟨c, hread, hcounterpart⟩, ?_⟩
  intro policy
  have hnothing : isNothing ((findTarget policy asking).on (after indexes unseen)) := by
    cases policy <;> decide +kernel
  obtain ⟨target, workspace, application, hresult⟩ := exists_of_isNothing hnothing
  refine ⟨⟨target, workspace, application, hresult⟩, fun hall => ?_⟩
  rw [hresult] at hall
  cases hall with
  | none hnone => exact hnone c hcounterpart

end Chain

end ReleaseControl
