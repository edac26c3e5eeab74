import ReleaseControl.Proofs.Reconcile.Alike
import ReleaseControl.Proofs.Reconcile.Consent
import ReleaseControl.Proofs.Service.Draining
import ReleaseControl.Proofs.Service.NoLostRelease
import ReleaseControl.Proofs.Store.Listing

/-! # A resync is worked off, in any order

The Releases of a store are a batch when their uids are told apart by the characters that the names
of runs take over (`exists_batch`): names of runs end in them, so attempts on two Releases never
write to one slot. A resync queues the batch, and whoever works on it in which order, each Release
gets one attempt, the service comes to rest, and it leaves the same but for uids, versions and
times (`resync_drains`). -/

namespace ReleaseControl

/-! ## The Releases of a store -/

namespace Store

open Reconcile

variable {s : Store} {q p : StoredRecord}

/-- The record is stored and was last written as a Release. -/
def HoldsRelease (s : Store) (q : StoredRecord) : Prop :=
  q.kind = Release.kind ∧ ∃ x, Assoc.get? x s.slots = some q

/-- The uid starts as those that a store draws: with lower case letters and digits. -/
def Drawn (uid : String) : Prop :=
  PipelineRun.uidLength ≤ uid.toList.length ∧
    (uid.toList.take PipelineRun.uidLength).all Name.isEdge

instance : DecidablePred Drawn := fun _ => inferInstanceAs (Decidable (_ ∧ _))

/-- The uids of the Releases are drawn and differ in their first characters. -/
structure DistinctUids (s : Store) : Prop where
  drawn : ∀ q, s.HoldsRelease q → Drawn q.uid
  distinct : ∀ q p, s.HoldsRelease q → s.HoldsRelease p → q ≠ p →
    q.uid.toList.take PipelineRun.uidLength ≠ p.uid.toList.take PipelineRun.uidLength

theorem HoldsRelease.get? (h : s.HoldsRelease q) (hs : s.Sound) :
    s.get? Release.kind q.key = some q := by
  obtain ⟨hkind, x, hx⟩ := h
  obtain ⟨_, _, hacc⟩ := hs.accounted hx
  have hplace := hacc.place
  rw [hkind] at hplace
  unfold Store.get?
  rw [← hplace]
  exact hx

/-- Runs for two of the Releases have different names. -/
theorem DistinctUids.nameFor_ne (h : s.DistinctUids) (hs : s.Sound) (hq : s.HoldsRelease q)
    (hp : s.HoldsRelease p) (hne : q ≠ p) {r r' : Release} (hr : q.typed = .ok r)
    (hr' : p.typed = .ok r') : PipelineRun.nameFor r ≠ PipelineRun.nameFor r' := by
  have hsuffix {q : StoredRecord} {r : Release} (hq : s.HoldsRelease q) (hr : q.typed = .ok r) :
      PipelineRun.uidSuffix (r.metadata.uid.getD "").toList =
        q.uid.toList.take PipelineRun.uidLength := by
    rw [(hs.accounted_release (hq.get? hs) hr).uid]
    obtain ⟨hlength, hedges⟩ := h.drawn q hq
    exact PipelineRun.uidSuffix_eq_take hlength (List.all_eq_true.mp hedges)
  have hlength : (PipelineRun.uidSuffix (r.metadata.uid.getD "").toList).length =
      (PipelineRun.uidSuffix (r'.metadata.uid.getD "").toList).length := by
    rw [hsuffix hq hr, hsuffix hp hr', List.length_take_of_le (h.drawn q hq).1,
      List.length_take_of_le (h.drawn p hp).1]
  intro hname
  have hsame := PipelineRun.uidSuffix_eq_of_nameFor hlength hname
  rw [hsuffix hq hr, hsuffix hp hr'] at hsame
  exact h.distinct q p hq hp hne hsame

/-- So attempts on two of them have no slot in common. -/
theorem DistinctUids.owns_apart (h : s.DistinctUids) (hs : s.Sound) (hq : s.HoldsRelease q)
    (hp : s.HoldsRelease p) (hne : q ≠ p) {r r' : Release} (hr : q.typed = .ok r)
    (hr' : p.typed = .ok r') {x : String} (hx : Owns q.key r x) : ¬ Owns p.key r' x := by
  have hkinds {j k : RecordKey} : slot Release.kind j ≠ slot PipelineRun.kind k :=
    fun hslot => absurd (slot_inj slash_notMem_release slash_notMem_run hslot).1 (by decide)
  rcases hx with rfl | ⟨workspace, rfl⟩
  · rintro (hslot | ⟨workspace', hslot⟩)
    · -- two records under one key are one
      have hget := hq.get? hs
      rw [Store.get?, hslot] at hget
      exact hne (Option.some.inj (hget.symm.trans (hp.get? hs)))
    · exact hkinds hslot
  · rintro (hslot | ⟨workspace', hslot⟩)
    · exact hkinds hslot.symm
    · exact h.nameFor_ne hs hq hp hne hr hr' (slot_run_eq_iff.mp hslot).2

end Store

namespace Service

open Program Store Reconcile

/-- The Releases that a resync lists are a batch. -/
theorem exists_batch {s : Store} (hs : s.Sound)
    (htyped : ∀ q, s.HoldsRelease q → ∃ r : Release, q.typed = .ok r) (huids : s.DistinctUids) :
    ∃ (rs : List StoredRecord) (b : Batch s), s.list Release.kind .all = .ok rs ∧
      b.keys = rs.map (fun q => q.key) ∧ ∀ k, k ∈ b.keys ↔ ∃ q, s.HoldsRelease q ∧ q.key = k := by
  obtain ⟨rs, hlist, hsorted, hall⟩ := exists_list_all hs Release.kind (q := .all) rfl
  have hholds (q : StoredRecord) : q ∈ rs ↔ s.HoldsRelease q := by
    rw [hall]
    constructor
    · rintro ⟨hx, hkind, -⟩
      exact ⟨hkind, hx⟩
    · rintro ⟨hkind, x, hx⟩
      obtain ⟨_, m, hacc⟩ := hs.accounted hx
      exact ⟨⟨x, hx⟩, hkind, m, hacc.objectMetadata, Query.fits_all m⟩
  have hmem (k : RecordKey) : k ∈ rs.map (fun q => q.key) ↔ ∃ q, s.HoldsRelease q ∧ q.key = k := by
    simp only [List.mem_map, hholds]
  have hnodup : (rs.map fun q => q.key).Nodup := by
    refine List.pairwise_map.mpr (hsorted.imp ?_)
    intro q p hbefore hkey
    have hlt : q.key.rank < p.key.rank := RecordKey.before_iff.mp hbefore
    rw [hkey] at hlt
    exact lt_irrefl _ hlt
  -- the Release under the key of a record is the one that the record is read as
  have hread {q : StoredRecord} (hq : s.HoldsRelease q) : ∃ r : Release, q.typed = .ok r ∧
      (s.read? Release q.key).getD (.new q.key "") = r ∧ s.read? Release q.key = some r := by
    obtain ⟨r, hr⟩ := htyped q hq
    have hread : s.read? Release q.key = some r := read?_eq_some.mpr ⟨q, hq.get? hs, hr⟩
    exact ⟨r, hr, by rw [hread]; rfl, hread⟩
  refine ⟨rs, ⟨rs.map fun q => q.key, hnodup, fun k => (s.read? Release k).getD (.new k ""),
    ?_, ?_⟩, hlist, rfl, hmem⟩
  · intro k hk
    obtain ⟨q, hq, rfl⟩ := (hmem k).mp hk
    obtain ⟨r, -, hr, hread⟩ := hread hq
    rw [hr, hread]
  · intro k hk j hj hne x hx
    obtain ⟨q, hq, rfl⟩ := (hmem k).mp hk
    obtain ⟨p, hp, rfl⟩ := (hmem j).mp hj
    obtain ⟨r, hr, hsame, -⟩ := hread hq
    obtain ⟨r', hr', hsame', -⟩ := hread hp
    rw [hsame'] at hx
    rw [hsame]
    exact huids.owns_apart hs hp hq (fun heq => hne (congrArg StoredRecord.key heq)) hr' hr hx

/-! ## Two ways to the same end -/

/-- Services that are through with a batch hold the same, in gist. -/
theorem Draining.alike {policy : AmbiguityPolicy} {s₀ : Store} (hs : s₀.Sound) {b : Batch s₀}
    {left left' : RecordKey → Nat} {v v' : Service} (h : Draining policy b left v)
    (h' : Draining policy b left' v') (hidle : v.Idle) (hidle' : v'.Idle) :
    v.store.Alike v'.store := by
  intro x
  by_cases hx : ∃ k ∈ b.keys, Owns k (b.release k) x
  · obtain ⟨k, hk, howns⟩ := hx
    exact (h.leaves hidle hk).alike hs (b.read k hk) (h'.leaves hidle' hk) howns
  · have hnot : ∀ k ∈ b.keys, ¬ Owns k (b.release k) x := fun k hk howns => hx ⟨k, hk, howns⟩
    rw [h.elsewhere x hnot, h'.elsewhere x hnot]

/-- The Releases of a store are worked off after a resync, whatever the order of the keys, the
number of workers and the order of their moves: after a bounded number of moves nothing is left to
do and the service is idle, each key was handed out once, and the stores that two services end with
are alike. -/
theorem resync_drains {v : Service} (hs : Reachable v.store) (hidle : v.Idle)
    (htyped : ∀ q, v.store.HoldsRelease q → ∃ r : Release, q.typed = .ok r)
    (huids : v.store.DistinctUids) :
    ∃ keys : List RecordKey, v.step .resync = v.queueing keys ∧ keys.Nodup ∧
      (∀ k, k ∈ keys ↔ ∃ q, v.store.HoldsRelease q ∧ q.key = k) ∧
      (∀ (order : List RecordKey) (workers : Nat) (moves : List Move), order.Perm keys →
        0 < workers → Works workers (v.queueing order) moves →
          moves.length ≤ keys.length * movesPerKey ∧
          (((v.queueing order).run moves).Idle ↔
            ∀ m, ¬ Applies workers ((v.queueing order).run moves) m) ∧
          (((v.queueing order).run moves).Idle → (v.queueing order).begun moves = order)) ∧
      ∀ (order order' : List RecordKey) (workers workers' : Nat) (moves moves' : List Move),
        order.Perm keys → order'.Perm keys → Works workers (v.queueing order) moves →
        Works workers' (v.queueing order') moves' → ((v.queueing order).run moves).Idle →
        ((v.queueing order').run moves').Idle →
          ((v.queueing order).run moves).store.Alike ((v.queueing order').run moves').store := by
  obtain ⟨rs, b, hlist, hkeys, hmem⟩ := exists_batch hs.sound htyped huids
  refine ⟨b.keys, ?_, b.nodup, hmem, ?_, ?_⟩
  · rw [hkeys]
    exact relist_answered hlist
  · intro order workers moves horder hworkers hworks
    obtain ⟨hstart, hready⟩ := Draining.queueing hs.sound hidle b horder
    obtain ⟨⟨left, hend, hmoves⟩, hline⟩ := hstart.run hworks
    refine ⟨?_, hend.idle_iff hworkers, ?_⟩
    · rw [List.map_const', List.sum_replicate_nat] at hmoves
      omega
    · intro hend
      rw [hend.ready, List.append_nil, hready] at hline
      exact hline
  · intro order order' workers workers' moves moves' horder horder' hworks hworks' hend hend'
    obtain ⟨⟨left, h, -⟩, -⟩ := (Draining.queueing hs.sound hidle b horder).1.run hworks
    obtain ⟨⟨left', h', -⟩, -⟩ := (Draining.queueing hs.sound hidle b horder').1.run hworks'
    exact h.alike hs.sound h' hend hend'

/-- Two Releases on one link; the links and the strategy are in order. -/
def shared : List Request := agreed.take 3 ++ [
  requestFor "3f2a9c1e-5b7d-4e2f-8a6b-1c2d3e4f5a6b" (Release.new ⟨"a", "r"⟩ "l"),
  requestFor "b81e07d4-0c39-4d1a-9f52-7e6a5b4c3d2e" (Release.new ⟨"a", "t"⟩ "l")]

/-- A service that has not been told of them yet. -/
def resting : Service :=
  { launch .strict .default narrow with store := after Chain.indexes shared }

/-- The keys of the two Releases. -/
def both : List RecordKey := [⟨"a", "r"⟩, ⟨"a", "t"⟩]

/-- One worker sees to the Releases one after the other. -/
def inTurn : List Move := both.flatMap fun k =>
  .take "" :: (List.range 6).map (fun i => .call k s!"1-{i}" "" .answered) ++ [.conclude k]

/-- Two workers make their calls in turn, at a later time. -/
def sideBySide : List Move := [.take "later", .take "later"] ++
  (List.range 6).flatMap (fun i => both.map fun k => .call k s!"2-{i}" "later" .answered) ++
  both.map .conclude

theorem typed_resting : ∀ q, resting.store.HoldsRelease q → ∃ r : Release, q.typed = .ok r := by
  rintro q ⟨hkind, x, hx⟩
  have hall : resting.store.slots.all fun e => e.2.kind != Release.kind ||
      (e.2.typed : Except StoreError Release).toBool := by decide +kernel
  have hq := List.all_eq_true.mp hall _ (Assoc.mem_of_get? hx)
  rw [hkind, bne_self_eq_false, Bool.false_or] at hq
  cases hr : (q.typed : Except StoreError Release) with
  | ok r => exact ⟨r, rfl⟩
  | error e =>
      rw [hr] at hq
      cases hq

/-- Slots, keys and uids of the Releases. -/
theorem releases_resting :
    ((resting.store.slots.filter fun e => e.2.kind == Release.kind).map fun e =>
        (e.1, e.2.key, e.2.uid)) =
      [(slot Release.kind ⟨"a", "r"⟩, ⟨"a", "r"⟩, "3f2a9c1e-5b7d-4e2f-8a6b-1c2d3e4f5a6b"),
        (slot Release.kind ⟨"a", "t"⟩, ⟨"a", "t"⟩, "b81e07d4-0c39-4d1a-9f52-7e6a5b4c3d2e")] := by
  decide +kernel

theorem mem_releases_resting {q : StoredRecord} {x : String} (hkind : q.kind = Release.kind)
    (hx : Assoc.get? x resting.store.slots = some q) :
    (x = slot Release.kind ⟨"a", "r"⟩ ∧ q.key = ⟨"a", "r"⟩ ∧
        q.uid = "3f2a9c1e-5b7d-4e2f-8a6b-1c2d3e4f5a6b") ∨
      x = slot Release.kind ⟨"a", "t"⟩ ∧ q.key = ⟨"a", "t"⟩ ∧
        q.uid = "b81e07d4-0c39-4d1a-9f52-7e6a5b4c3d2e" := by
  have hmem : (x, q) ∈ resting.store.slots.filter fun e => e.2.kind == Release.kind :=
    List.mem_filter.mpr ⟨Assoc.mem_of_get? hx, beq_iff_eq.mpr hkind⟩
  have hlisted := List.mem_map_of_mem
    (f := fun e : String × StoredRecord => (e.1, e.2.key, e.2.uid)) hmem
  rw [releases_resting, List.mem_cons, List.mem_singleton] at hlisted
  simpa only [Prod.mk.injEq] using hlisted

theorem mem_both {k : RecordKey} : k ∈ both ↔ ∃ q, resting.store.HoldsRelease q ∧ q.key = k := by
  constructor
  · intro hk
    have hall : ∀ k ∈ both, (resting.store.get? Release.kind k).any fun q =>
        q.kind == Release.kind && q.key == k := by decide +kernel
    obtain ⟨q, hq, hfacts⟩ := (Option.any_eq_true _ _).mp (hall k hk)
    rw [Bool.and_eq_true, beq_iff_eq, beq_iff_eq] at hfacts
    exact ⟨q, ⟨hfacts.1, _, hq⟩, hfacts.2⟩
  · rintro ⟨q, ⟨hkind, x, hx⟩, rfl⟩
    rcases mem_releases_resting hkind hx with ⟨-, hkey, -⟩ | ⟨-, hkey, -⟩ <;>
    · rw [hkey]
      decide

theorem distinctUids_resting : resting.store.DistinctUids where
  drawn := by
    rintro q ⟨hkind, x, hx⟩
    rcases mem_releases_resting hkind hx with ⟨-, -, huid⟩ | ⟨-, -, huid⟩ <;>
    · rw [huid]
      decide
  distinct := by
    rintro q p ⟨hq, x, hx⟩ ⟨hp, y, hy⟩ hne
    have hslots : x ≠ y := by
      rintro rfl
      exact hne (Option.some.inj (hx.symm.trans hy))
    rcases mem_releases_resting hq hx with ⟨hx, -, hq⟩ | ⟨hx, -, hq⟩ <;>
      rcases mem_releases_resting hp hy with ⟨hy, -, hp⟩ | ⟨hy, -, hp⟩
    · exact absurd (hx.trans hy.symm) hslots
    · rw [hq, hp]
      decide
    · rw [hq, hp]
      decide
    · exact absurd (hx.trans hy.symm) hslots

/-- The workers can make the moves, and leave nothing to do and a run for either Release. -/
def RunsBoth (workers : Nat) (order : List RecordKey) (moves : List Move) : Prop :=
  let v := (resting.queueing order).run moves
  Works workers (resting.queueing order) moves ∧ v.Idle ∧
    (v.store.get? PipelineRun.kind ⟨"b", "release-a-r-3f2a9c1e"⟩).isSome ∧
    (v.store.get? PipelineRun.kind ⟨"b", "release-a-t-b81e07d4"⟩).isSome

instance (workers : Nat) (order : List RecordKey) (moves : List Move) :
    Decidable (RunsBoth workers order moves) := inferInstanceAs (Decidable (_ ∧ _))

/-- One worker or two, and from either end: both Releases get their runs, and the stores are
alike. -/
theorem resync_drains_shared :
    Reachable resting.store ∧ resting.Idle ∧ resting.store.DistinctUids ∧
      (∀ q, resting.store.HoldsRelease q → ∃ r : Release, q.typed = .ok r) ∧
      ∃ keys : List RecordKey, resting.step .resync = resting.queueing keys ∧ both.Perm keys ∧
        RunsBoth 1 both inTurn ∧ RunsBoth 2 both.reverse sideBySide ∧
        (resting.queueing both).begun inTurn = both ∧
        (resting.queueing both.reverse).begun sideBySide = both.reverse ∧
        ((resting.queueing both).run inTurn).store.Alike
          ((resting.queueing both.reverse).run sideBySide).store := by
  have hreachable : Reachable resting.store := reachable_after Chain.indexes shared
  have hidle : resting.Idle := ⟨rfl, rfl, rfl, rfl, rfl⟩
  have hturn : RunsBoth 1 both inTurn := by decide +kernel
  have hside : RunsBoth 2 both.reverse sideBySide := by decide +kernel
  obtain ⟨keys, hresync, hnodup, hmem, hdrains, halike⟩ :=
    resync_drains hreachable hidle typed_resting distinctUids_resting
  have hboth : both.Perm keys :=
    (List.perm_ext_iff_of_nodup (by decide) hnodup).mpr fun k => mem_both.trans (hmem k).symm
  have hreverse : both.reverse.Perm keys := both.reverse_perm.trans hboth
  exact ⟨hreachable, hidle, distinctUids_resting, typed_resting, keys, hresync, hboth, hturn, hside,
    (hdrains both 1 inTurn hboth (by decide) hturn.1).2.2 hturn.2.1,
    (hdrains both.reverse 2 sideBySide hreverse (by decide) hside.1).2.2 hside.2.1,
    halike both both.reverse 1 2 inTurn sideBySide hboth hreverse hturn.1 hside.1 hturn.2.1
      hside.2.1⟩

end Service

end ReleaseControl
