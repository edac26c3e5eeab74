import ReleaseControl.Proofs.Reconcile.Markers

/-! # Statuses do not go back

An attempt decides on what it has read, and other attempts may have finished the Release since. Its
write is refused then: a status is written over an open Release or not at all (`Arises`). So a
settled Release stays settled until its spec is changed, and a run that is named stays named
(`status_monotone`). A change of the spec moves the generation. Generations are words of 64 bits,
like versions, and one comes back only after as many writes as there are words. -/

namespace ReleaseControl

open Store

/-- The status is settled for the generation. -/
def StoredRecord.isSettledFor (generation : Int64) (q : StoredRecord) : Bool :=
  q.readStatus?.any (·.isSettledFor generation)

namespace Reconcile

/-! ## One record over time -/

/-- What has become of the record of a Release after its generation moved a number of times. -/
structure Follows (n : Nat) (q p : StoredRecord) : Prop where
  generation : p.generation = q.generation + Int64.ofNat n
  settled : n = 0 → q.isSettledFor q.generation → p.isSettledFor q.generation
  marker : ∀ text, q.marker? = some text → p.marker? = some text

namespace Follows

variable {n : Nat} {q q' p : StoredRecord}

theorem refl (q : StoredRecord) : Follows 0 q q where
  generation := (Int64.add_zero q.generation).symm
  settled _ h := h
  marker _ h := h

/-- A client wrote the spec. -/
theorem updated (h : Follows n q q') (hstatus : p.readStatus? = q'.readStatus?)
    (hgeneration : p.generation = q'.generation ∨ p.generation = q'.generation + 1) :
    Follows n q p ∨ Follows (n + 1) q p := by
  have hmarker (text : String) (htext : q.marker? = some text) : p.marker? = some text := by
    have hsame : p.marker? = q'.marker? := by
      rw [StoredRecord.marker?, StoredRecord.marker?, hstatus]
    rw [hsame]
    exact h.marker text htext
  rcases hgeneration with hsame | hnext
  · refine .inl ⟨hsame.trans h.generation, ?_, hmarker⟩
    intro hn hsettled
    rw [StoredRecord.isSettledFor, hstatus]
    exact h.settled hn hsettled
  · refine .inr ⟨?_, fun hn => absurd hn (Nat.succ_ne_zero n), hmarker⟩
    rw [hnext, h.generation, Int64.ofNat_add, ← Int64.add_assoc]
    rfl

/-- An attempt wrote the status; the Release was open, so there was nothing to keep. -/
theorem noted (h : Follows n q q') {x : String} {r : Release}
    (hacc : q'.Accounted x Release.kind r.metadata) (hr : q'.typed = .ok r)
    (hopen : r.isFinished = false) (hgeneration : p.generation = q'.generation) :
    Follows n q p where
  generation := hgeneration.trans h.generation
  settled hn hsettled := by
    have hkept := h.settled hn hsettled
    have hsame : q.generation = r.metadata.currentGeneration := by
      rw [Metadata.currentGeneration, hacc.generation, Option.getD_some, h.generation, hn]
      exact (Int64.add_zero q.generation).symm
    rw [StoredRecord.isSettledFor, StoredRecord.readStatus?_of_typed hacc hr, Option.any_some,
      hsame, Aftermath.isSettledFor_of_unfinished hopen] at hkept
    cases hkept
  marker text htext := by
    have hkept := h.marker text htext
    rw [StoredRecord.marker?, StoredRecord.readStatus?_of_typed hacc hr, Option.bind_some,
      pipelineRun_of_open hopen] at hkept
    cases hkept

/-- A generation comes back only after it has gone through all words. -/
theorem eq_zero (h : Follows n q p) (hsame : p.generation = q.generation) (hn : n < UInt64.size) :
    n = 0 := by
  have hzero : Int64.ofNat n = 0 := by
    have hadd := h.generation
    rw [hsame] at hadd
    exact (Int64.add_eq_left).mp hadd.symm
  have hmod : n % UInt64.size = 0 := by
    simpa using congrArg (fun i : Int64 => i.toBitVec.toNat) hzero
  rwa [Nat.mod_eq_of_lt hn] at hmod

end Follows

/-! ## Uids in a scene -/

/-- The uids of the records are those that the moves drew. -/
theorem identified_scene {moves : List Move} (huids : (moves.filterMap Move.uid?).Nodup) :
    Identified (moves.filterMap Move.uid?) (scene moves).store := by
  induction moves using List.reverseRecOn with
  | nil => exact identified_empty _
  | append_singleton moves m ih =>
      rw [List.filterMap_append] at huids ⊢
      have hbefore := ih (List.nodup_append.mp huids).1
      rw [scene_concat]
      rcases (scene moves).step_effect m with hsame | ⟨uid, now, c, huid, heffect⟩
      · rw [hsame]
        exact hbefore.mono (List.subset_append_left _ _)
      · have hmem : uid ∈ [m].filterMap Move.uid? :=
          List.mem_filterMap.mpr ⟨m, List.mem_cons_self, huid⟩
        refine hbefore.effect heffect ⟨List.subset_append_left _ _, fun _ _ _ => ⟨?_, ?_⟩⟩
        · exact fun hold => (List.nodup_append.mp huids).2.2 _ hold _ hmem rfl
        · exact List.mem_append_right _ hmem

/-- A move that writes a record draws a version. -/
theorem Scene.nextVersion_step (σ : Scene) (m : Move) :
    σ.store.nextVersion ≤ (σ.step m).store.nextVersion ∧
      ∀ {x : String} {p : StoredRecord}, Assoc.get? x (σ.step m).store.slots = some p →
        Assoc.get? x σ.store.slots ≠ some p →
          σ.store.nextVersion < (σ.step m).store.nextVersion := by
  rcases σ.step_effect m with hsame | ⟨uid, now, c, -, heffect⟩
  · rw [hsame]
    exact ⟨Nat.le_refl _, fun hp hne => absurd hp hne⟩
  · exact ⟨heffect.nextVersion_le, heffect.nextVersion_lt⟩

/-! ## Whole interleavings -/

/-- The record that has the uid of a Release later on is what has become of it. -/
theorem follows_of_later {early later : List Move}
    (hlater : ∀ m ∈ later, m.Within StoreCall.SparesStatus)
    (huids : ((early ++ later).filterMap Move.uid?).Nodup) {j k : RecordKey} {q p : StoredRecord}
    (hq : (scene early).store.get? Release.kind j = some q)
    (hp : (scene (early ++ later)).store.get? Release.kind k = some p) (huid : p.uid = q.uid) :
    ∃ n, n + (scene early).store.nextVersion ≤ (scene (early ++ later)).store.nextVersion ∧
      Follows n q p := by
  induction later using List.reverseRecOn generalizing p with
  | nil =>
      rw [List.append_nil] at hp huids ⊢
      have hslot := (identified_scene huids).distinct hp hq huid
      have hsame : some p = some q := by
        rw [← hp, ← hq, Store.get?, Store.get?, hslot]
      rw [Option.some.inj hsame]
      exact ⟨0, Nat.le_of_eq (Nat.zero_add _), .refl q⟩
  | append_singleton later m ih =>
      obtain ⟨hlater, hm⟩ := List.forall_mem_append.mp hlater
      rw [← List.append_assoc] at hp huids ⊢
      rw [List.filterMap_append] at huids
      rw [scene_concat] at hp ⊢
      have hold {p : StoredRecord}
          (hp : (scene (early ++ later)).store.get? Release.kind k = some p) :=
        ih hlater (List.nodup_append.mp huids).1 hp
      obtain ⟨hle, hlt⟩ := (scene (early ++ later)).nextVersion_step m
      by_cases hkept : (scene (early ++ later)).store.get? Release.kind k = some p
      · obtain ⟨n, hn, hfollows⟩ := hold hkept huid
        exact ⟨n, hn.trans hle, hfollows⟩
      have hlt := hlt hp hkept
      have horderly := orderly_scene (early ++ later)
      cases horderly.arises (hm m List.mem_cons_self) hp with
      | kept hp => exact absurd hp hkept
      | created hdrawn =>
          -- the uid was drawn when the Release was created, and no uid is drawn twice
          have hearly : q.uid ∈ (early ++ later).filterMap Move.uid? := by
            rw [List.filterMap_append] at huids ⊢
            exact List.mem_append_left _
              ((identified_scene (List.nodup_append.mp (List.nodup_append.mp huids).1).1).uids hq)
          have hlast : p.uid ∈ [m].filterMap Move.uid? :=
            List.mem_filterMap.mpr ⟨m, List.mem_cons_self, hdrawn⟩
          exact absurd huid.symm ((List.nodup_append.mp huids).2.2 _ hearly _ hlast)
      | updated hq' huid' hstatus hgeneration =>
          obtain ⟨n, hn, hfollows⟩ := hold hq' (huid'.symm.trans huid)
          rcases hfollows.updated hstatus hgeneration with hfollows | hfollows
          · exact ⟨n, hn.trans hle, hfollows⟩
          · exact ⟨n + 1, by omega, hfollows⟩
      | noted hq' hr hopen huid' hgeneration =>
          obtain ⟨n, hn, hfollows⟩ := hold hq' (huid'.symm.trans huid)
          exact ⟨n, hn.trans hle,
            hfollows.noted (horderly.sound.accounted_release hq' hr) hr hopen hgeneration⟩

/-- However attempts on one key or several are interleaved with each other and with clients that
write no status of a Release, and whatever calls of theirs fail: a Release that is settled for its
generation is so whenever its record has that generation, and a run that its status names is named
from then on. Versions are words of 64 bits, so fewer than `UInt64.size` of them are drawn before
they repeat; a generation does not come back within as many writes. -/
theorem status_monotone {early later : List Move}
    (hlater : ∀ m ∈ later, m.Within StoreCall.SparesStatus)
    (huids : ((early ++ later).filterMap Move.uid?).Nodup) {j k : RecordKey} {q p : StoredRecord}
    (hq : (scene early).store.get? Release.kind j = some q)
    (hp : (scene (early ++ later)).store.get? Release.kind k = some p) (huid : p.uid = q.uid) :
    (∀ generation, q.generation = generation → q.isSettledFor generation →
        p.generation = generation →
        (scene (early ++ later)).store.nextVersion < (scene early).store.nextVersion + UInt64.size →
          p.isSettledFor generation) ∧
      ∀ text, q.marker? = some text → p.marker? = some text := by
  obtain ⟨n, hn, hfollows⟩ := follows_of_later hlater huids hq hp huid
  refine ⟨?_, hfollows.marker⟩
  rintro generation rfl hsettled hsame hversions
  exact hfollows.settled (hfollows.eq_zero hsame (by omega)) hsettled

/-- Two attempts read one open Release that names a link that is not there. The first settles it as
failed. -/
def raced : List Move := [
  .create "1" (Release.new ⟨"a", "r"⟩ "l"),
  .start .strict "" ⟨"a", "r"⟩,
  .start .strict "" ⟨"a", "r"⟩,
  .advance 0 "2" "" .answered,
  .advance 1 "3" "" .answered,
  .advance 0 "4" "" .answered,
  .advance 0 "5" "" .answered]

/-- The read of the link fails for the second, which then tries to note that it will be retried. -/
def overtaken : List Move := [
  .advance 1 "6" "" (.failed ⟨.connection "refused", trivial⟩),
  .advance 1 "7" "" .answered]

theorem status_monotone_overtaken :
    (∀ m ∈ overtaken, m.Within StoreCall.SparesStatus) ∧
      ((raced ++ overtaken).filterMap Move.uid?).Nodup ∧
      ∃ q p, (scene raced).store.get? Release.kind ⟨"a", "r"⟩ = some q ∧
        (scene (raced ++ overtaken)).store.get? Release.kind ⟨"a", "r"⟩ = some p ∧
        p.uid = q.uid ∧ q.generation = 1 ∧ q.isSettledFor 1 ∧ p.isSettledFor 1 := by
  have hlater : ∀ m ∈ overtaken, m.Within StoreCall.SparesStatus := by decide +kernel
  have huids : ((raced ++ overtaken).filterMap Move.uid?).Nodup := by decide +kernel
  have hearly : ((scene raced).store.get? Release.kind ⟨"a", "r"⟩).map
      (fun q => (q.uid, q.generation, q.isSettledFor 1)) = some ("1", 1, true) := by
    decide +kernel
  have hlate : ((scene (raced ++ overtaken)).store.get? Release.kind ⟨"a", "r"⟩).map
      (fun p => (p.uid, p.generation)) = some ("1", 1) := by decide +kernel
  have hversions : (scene (raced ++ overtaken)).store.nextVersion <
      (scene raced).store.nextVersion + UInt64.size := by decide +kernel
  obtain ⟨q, hq, hqfacts⟩ := Option.map_eq_some_iff.mp hearly
  obtain ⟨p, hp, hpfacts⟩ := Option.map_eq_some_iff.mp hlate
  rw [Prod.mk.injEq] at hpfacts
  rw [Prod.mk.injEq, Prod.mk.injEq] at hqfacts
  obtain ⟨hquid, hqgeneration, hsettled⟩ := hqfacts
  obtain ⟨hpuid, hpgeneration⟩ := hpfacts
  have huid : p.uid = q.uid := hpuid.trans hquid.symm
  exact ⟨hlater, huids, q, p, hq, hp, huid, hqgeneration, hsettled,
    (status_monotone hlater huids hq hp huid).1 1 hqgeneration hsettled hpgeneration hversions⟩

end Reconcile

end ReleaseControl
