import ReleaseControl.Proofs.Reconcile.History
import ReleaseControl.Proofs.Store.Update

/-! # Failures and runs

A Release whose status holds a settled failure should have no run: nobody retries it, so the run
would go on unnoticed. The verdict of an attempt is formed from the chain alone until a run is to be
created, so an attempt that finds the chain broken does not see the run that an earlier attempt
left behind, and settles the failure beside it (`Attempt.Strands`). The other way to a failure with
a run is an update that brings the generation back to one for which a failure was noted
(`Relapses`); generations wrap around, so this is no matter of principle. A history keeps failures
and runs apart exactly when neither happens in it. -/

namespace ReleaseControl

open Store

/-! ## Failed records -/

namespace StoredRecord

/-- The status that the object of a record holds. -/
def status? (q : StoredRecord) : Option ReleaseStatus :=
  (q.object.get? "status").bind fun status => (ReleaseStatus.decode status).toOption

/-- The record is a Release whose status holds a settled failure for the generation of the
record. -/
def isFailed (q : StoredRecord) : Bool :=
  q.object.recordKind.toOption == some Release.kind &&
    q.status?.any fun status => status.isFailedFor q.generation

/-- For a Release that is read this is what its status says. -/
theorem Accounted.isFailed_eq {x : String} {q : StoredRecord} {r : Release}
    (h : q.Accounted x Release.kind r.metadata) (hr : q.typed = .ok r) :
    q.isFailed = r.isFailed := by
  have hobject := Json.isObject_of_recordMetadata h.objectMetadata
  have hgeneration : r.metadata.currentGeneration = q.generation := by
    unfold Metadata.currentGeneration
    rw [h.generation]
    rfl
  obtain ⟨-, -, hstatus⟩ :=
    Release.members_of_decode hobject ((typed_eq_ok h.objectKind).mp hr).2
  unfold isFailed Release.isFailed
  rw [hgeneration, h.objectKind]
  rcases hstatus with ⟨hnone, hstatus⟩ | ⟨w, hw, hdecode⟩
  · unfold status?
    rw [hnone, ← hstatus]
    rfl
  · unfold status?
    rw [hw, Option.bind_some, hdecode]
    rfl

theorem Accounted.isFailed_eq_false {x kind : String} {q : StoredRecord} {m : Metadata}
    (h : q.Accounted x kind m) (hkind : kind ≠ Release.kind) : q.isFailed = false := by
  unfold isFailed
  rw [h.objectKind, Bool.and_eq_false_iff]
  left
  exact beq_eq_false_iff_ne.mpr fun hsome => hkind (Option.some.inj hsome)

/-- A new record has no status. -/
theorem isFailed_created {s : Store} {uid now version kind : String} {object : Json}
    {m : Metadata} (h : s.checkNew kind object = .ok m) :
    (created uid now version kind object m).isFailed = false := by
  obtain ⟨-, hmeta, -⟩ := checkNew_eq_ok.mp h
  have hobject := Json.isObject_of_recordMetadata hmeta
  have hnone : (created uid now version kind object m).status? = none := by
    unfold status? created
    rw [Json.get?_set_ne (by simp), Json.get?_remove_self]
    rfl
  unfold isFailed
  rw [hnone]
  exact Bool.and_false _

/-- An update that counts no generation leaves a failure as it was. -/
theorem isFailed_revised {existing : StoredRecord} {version kind : String}
    {incoming kept : Metadata} {object : Json}
    (hsame : specChanges existing.object object = false) :
    (existing.revised .spec version kind incoming kept object).isFailed = existing.isFailed := by
  have hkind : (existing.revised .spec version kind incoming kept object).object.recordKind =
      existing.object.recordKind :=
    (Json.recordKind_set (by simp) _ _).trans (recordKind_replacePart .spec _ _)
  have hstatus : (existing.revised .spec version kind incoming kept object).status? =
      existing.status? := by
    rw [status?, revised, Json.get?_set_ne (by simp), replacePart, Json.get?_set_ne (by simp)]
    rfl
  rw [isFailed, hkind, hstatus, generation_revised_eq hsame]
  rfl

end StoredRecord

/-- What an update returns is stored. -/
theorem Store.exists_slot_of_update {s : Store} {kind : String} {object : Json} {q : StoredRecord}
    (h : (s.update kind object).1 = .ok q) :
    ∃ x, Assoc.get? x (s.update kind object).2.slots = some q := by
  unfold update at h ⊢
  cases hrevise : s.revise kind object with
  | error e =>
      rw [write_of_error hrevise] at h
      cases h
  | ok pair =>
      obtain ⟨existing, incoming⟩ := pair
      cases hkept : existing.object.recordMetadata with
      | error e =>
          simp only [write, hrevise, hkept] at h
          cases h
      | ok kept =>
          rw [write_of_revise hrevise hkept] at h ⊢
          cases h
          exact ⟨_, by rw [slots_supersede, Assoc.get?_put, if_pos rfl]⟩

namespace Reconcile

/-! ## Agreement -/

/-- Failed Releases have no runs. -/
def Agreement (s : Store) : Prop :=
  ∀ x q, Assoc.get? x s.slots = some q → q.isFailed → s.runsOf q.uid = []

/-- The attempt settles a failure of a Release while its run is stored in some workspace. -/
structure Attempt.Strands (a : Attempt) (s : Store) (r : Release) (e : ReconcileError) : Prop
    extends a.Settles s r e where
  left : ∃ u w q, r.metadata.uid = some u ∧
    s.Carried u (slot PipelineRun.kind ⟨w, PipelineRun.nameFor r⟩) q

/-- The call is an update that moves the generation of a Release with a run to one for which its
status holds a failure. -/
def Relapses (s : Store) : StoreCall → Prop
  | .update kind object => ∃ q, (s.update kind object).1 = .ok q ∧ q.generationChanged ∧
      q.isFailed ∧ s.runsOf q.uid ≠ []
  | _ => False

namespace Agreement

variable {drawn : List String} {s s' : Store} {key : RecordKey} {r : Release}

theorem runsOf_of_agrees {u : String} (h : s.runsOf u = []) (hs : s.Sound) (hs' : s'.Sound)
    (hagrees : Agrees PipelineRun.kind s s') : s'.runsOf u = [] := by
  rw [runsOf_eq_nil_iff hs] at h
  exact (runsOf_eq_nil_iff hs').mpr fun x q hq => h x q (hq.of_agrees hs' hagrees)

/-- Writing a status that is no failure, or one of a Release without runs. -/
theorem withStatus (h : Agreement s) (hs : s.Sound) (hr : s.read? Release key = some r)
    {status : ReleaseStatus} (hstatus : status.isFailedFor r.metadata.currentGeneration →
      ∀ u, r.metadata.uid = some u → s.runsOf u = []) :
    Agreement (s.withStatus r status) := by
  have hs' := (effect_withStatus "" "" s r status).sound hs
  have hagrees := agrees_withStatus slash_notMem_run (by decide) s r status
  obtain ⟨stored, hget, htyped⟩ := read?_eq_some.mp hr
  have hacc := hs.accounted_release hget htyped
  intro x q hx hfailed
  refine runsOf_of_agrees ?_ hs hs' hagrees
  have hcases := hs.get?_withStatus hget htyped status x
  rw [hx] at hcases
  split at hcases
  · cases hcases
    have hread := hacc.typed_withStatus htyped (toString s.nextVersion) status
    rw [(hs'.accounted_release hx hread).isFailed_eq hread] at hfailed
    exact hstatus hfailed stored.uid hacc.uid
  · exact h x q hcases.symm hfailed

/-- Creating the run of a Release that is not finished. -/
theorem withRun (h : Agreement s) (hl : Lineage drawn s) {a : Attempt} {chain : Chain}
    (hr : a.Launches s r chain) : Agreement (s.withRun a.uid a.now chain r) := by
  obtain ⟨stored, hget, htyped⟩ := read?_eq_some.mp hr.read
  have hacc := hl.sound.accounted_release hget htyped
  have hrun := accounted_runRecord a.uid a.now hr.hasTarget hr.free
  intro x q hx hfailed
  rw [get?_withRun] at hx
  split at hx
  · cases hx
    rw [hrun.isFailed_eq_false (by decide)] at hfailed
    cases hfailed
  · rw [runsOf_eq_nil_iff (hr.read_withRun hl.sound).1]
    intro y p hp
    rcases hp.cases_withRun with hold | ⟨rfl, rfl⟩
    · exact (runsOf_eq_nil_iff hl.sound).mp (h x q hx hfailed) y p hold
    · -- the new run carries the uid of a Release that is open, and so of no other
      have hlabel := (hrun.carries_iff.mp hp.carries).2
      have huid : stored.uid = q.uid :=
        Option.some.inj ((PipelineRun.get?_labelsFor_uid hacc.uid).symm.trans hlabel)
      obtain rfl := hl.distinct hget hx huid
      cases hget.symm.trans hx
      rw [hacc.isFailed_eq htyped] at hfailed
      have hfinished := Release.isFinished_of_isFailed hfailed
      rw [hr.unfinished] at hfinished
      cases hfinished

/-- A run that is there when a failure is settled is left behind. -/
theorem strands_of_carried (hl : Lineage drawn s) {a : Attempt} {e : ReconcileError}
    (hr : a.Settles s r e) {u x : String} {q : StoredRecord} (hu : r.metadata.uid = some u)
    (hq : s.Carried u x q) : a.Strands s r e := by
  obtain ⟨w, rfl⟩ := hl.exists_workspace hr.read hu hq
  exact ⟨hr, u, w, q, hu, hq⟩

theorem attempt (h : Agreement s) (hl : Lineage drawn s) {a : Attempt}
    (hstrands : ∀ r e, ¬ a.Strands s r e) : Agreement (a.run s).2 := by
  have hafter := a.aftermath hl.sound
  generalize a.run s = result at hafter ⊢
  obtain ⟨o, s'⟩ := result
  have absurdly {p : Prop} {b : Bool} (hfalse : b = false) (htrue : b = true) : p := by
    rw [hfalse] at htrue
    cases htrue
  cases hafter with
  | interrupted | unreadable | idle => exact h
  | retried hr =>
      exact h.withStatus hl.sound hr.read
        (absurdly (ReleaseStatus.isFailedFor_setRetrying _ _ _ _))
  | @settled r e o hr =>
      apply h.withStatus hl.sound hr.read
      intro _ u hu
      exact (runsOf_eq_nil_iff hl.sound).mpr fun x q hq =>
        hstrands r e (strands_of_carried hl hr hu hq)
  | launched hr => exact h.withRun hl hr
  | mislaid hr =>
      obtain ⟨hs', hread⟩ := hr.read_withRun hl.sound
      exact (h.withRun hl hr).withStatus hs' hread
        (absurdly (ReleaseStatus.isFailedFor_setRetrying _ _ _ _))
  | triggered hr hstatus =>
      obtain ⟨hs', hread⟩ := hr.read_withRun hl.sound
      exact (h.withRun hl hr).withStatus hs' hread (absurdly
        (ReleaseStatus.isFailedFor_of_triggered (ReleaseStatus.triggered_of_mark hstatus)))
  | adopted hr hstatus =>
      exact h.withStatus hl.sound hr.read (absurdly
        (ReleaseStatus.isFailedFor_of_triggered (ReleaseStatus.triggered_of_mark hstatus)))

theorem call (h : Agreement s) (hs : s.Sound) {c : StoreCall} (hc : c.IsEdit)
    (hrelapses : ¬ Relapses s c) (uid now : String) : Agreement (s.perform uid now c).2 := by
  rcases hc.cases with hread | hkind
  · rw [perform_snd_of_isRead hread]
    exact h
  · have heffect := perform_effect uid now s c
    obtain ⟨hslash, hne⟩ := clientKinds_spec hkind
    intro x q hx hfailed
    refine runsOf_of_agrees ?_ hs (heffect.sound hs) (heffect.agrees slash_notMem_run hslash hne)
    rcases heffect.get?_cases hx with hold | hnew
    · exact h x q hold hfailed
    · cases hnew with
      | created hnew =>
          rw [StoredRecord.isFailed_created hnew] at hfailed
          cases hfailed
      | @updated kind object existing incoming kept hrevise hkept =>
          obtain ⟨-, -, hget, -⟩ := revise_eq_ok.mp hrevise
          cases hchange : specChanges existing.object object with
          | false =>
              rw [StoredRecord.isFailed_revised hchange] at hfailed
              exact h _ existing hget hfailed
          | true =>
              -- the generation moved to a failed one: a relapse if there is a run
              by_contra hruns
              refine hrelapses ⟨_, ?_, ?_, hfailed, hruns⟩
              · unfold update
                rw [write_of_revise hrevise hkept]
              · exact StoredRecord.generationChanged_revised hchange
      | statusUpdated =>
          -- clients write the status of other records only, which are not read as Releases
          obtain ⟨kind, m, hacc⟩ := (heffect.sound hs).accounted hx
          have hother : kind ≠ Release.kind := by
            rintro rfl
            exact hc.2 (slot_inj hslash slash_notMem_release hacc.slot).1
          rw [hacc.isFailed_eq_false hother] at hfailed
          cases hfailed

end Agreement

/-- A stranding attempt leaves a failure with a run. -/
theorem Attempt.Strands.not_agreement {a : Attempt} {s : Store} {r : Release} {e : ReconcileError}
    (h : a.Strands s r e) (hs : s.Sound) : ¬ Agreement (a.run s).2 := by
  obtain ⟨u, w, q, hu, hq⟩ := h.left
  intro hagreement
  rw [h.toSettles.run_snd hs] at hagreement
  generalize hstatus : r.status.setError a.now e.message r.metadata.currentGeneration = status
    at hagreement
  have hs' := (effect_withStatus "" "" s r status).sound hs
  obtain ⟨stored, hget, htyped⟩ := read?_eq_some.mp (hs.read?_withStatus h.read status)
  have hacc := hs'.accounted_release hget htyped
  have hfailed : stored.isFailed := by
    rw [hacc.isFailed_eq htyped, Release.isFailed, Release.status_noted,
      Release.currentGeneration_noted, ← hstatus]
    exact ReleaseStatus.isFailedFor_setError _ _ _ _
  -- the failure stands in the record of the Release, under its uid
  have huid : stored.uid = u := by
    have hstored := hacc.uid
    rw [Release.uid_noted, hu] at hstored
    exact (Option.some.inj hstored).symm
  have hnone := (runsOf_eq_nil_iff hs').mp (hagreement _ stored hget hfailed)
  rw [huid] at hnone
  have hagrees := agrees_withStatus slash_notMem_run (by decide) s r status
  exact hnone _ q (hq.to_agrees hs hagrees)

/-- So does a relapse. -/
theorem Relapses.not_agreement {s : Store} {c : StoreCall} (h : Relapses s c) (hs : s.Sound)
    (hc : c.IsEdit) (uid now : String) : ¬ Agreement (s.perform uid now c).2 := by
  cases c with
  | create | get | list | updateStatus | delete => exact h.elim
  | update kind object =>
      obtain ⟨q, hreply, -, hfailed, hruns⟩ := h
      obtain ⟨hslash, hne⟩ := clientKinds_spec hc
      have heffect := perform_effect uid now s (.update kind object)
      have hagrees := heffect.agrees slash_notMem_run hslash hne
      obtain ⟨x, hx⟩ := exists_slot_of_update hreply
      intro hagreement
      have hnone := (runsOf_eq_nil_iff (heffect.sound hs)).mp (hagreement x q hx hfailed)
      exact hruns ((runsOf_eq_nil_iff hs).mpr fun y p hp => hnone y p (hp.to_agrees hs hagrees))

/-- In every state of a history failed Releases are without runs if and only if no attempt of the
history strands a run and no update in it relapses. -/
theorem agreement_iff {acts : List Act} (h : History acts) :
    (∀ before, before <+: acts → Agreement (replay before)) ↔
      (∀ before a after, acts = before ++ .attempt a :: after →
        ∀ r e, ¬ a.Strands (replay before) r e) ∧
      ∀ before uid now c after, acts = before ++ .call uid now c :: after →
        ¬ Relapses (replay before) c := by
  have hsound {before after : List Act} {act : Act} (hacts : acts = before ++ act :: after) :
      (replay before).Sound := (h.initial ⟨act :: after, hacts.symm⟩).lineage.sound
  constructor
  · intro hagreement
    have hnext {before after : List Act} {act : Act} (hacts : acts = before ++ act :: after) :
        Agreement (act.apply (replay before)) := by
      rw [← replay_concat]
      exact hagreement _ ⟨after, by rw [hacts]; simp⟩
    constructor
    · intro before a after hacts r e hstrands
      exact hstrands.not_agreement (hsound hacts) (hnext hacts)
    · intro before uid now c after hacts hrelapses
      have hedit : c.IsEdit := h.allowed (.call uid now c) (by rw [hacts]; simp)
      exact hrelapses.not_agreement (hsound hacts) hedit uid now (hnext hacts)
  · rintro ⟨hstrands, hrelapses⟩
    refine h.induct (fun x q hx => by cases hx) ?_
    intro before act after hacts hbefore hallowed hagreement
    cases act with
    | attempt a => exact hagreement.attempt hbefore.lineage (hstrands before a after hacts)
    | call uid now c =>
        exact hagreement.call hbefore.lineage.sound hallowed
          (hrelapses before uid now c after hacts) uid now

/-- The run is created but the status write fails; the link is deleted; the retry settles that the
link is not found. -/
def stranded : List Act := stage ++ [
  .attempt (.halfDone "5"),
  .call "6" "" (.delete ReleaseLink.kind ⟨"a", "l"⟩),
  .attempt (.staged "7" (List.replicate 3 .answered))]

theorem history_stranded : History stranded := ⟨by decide, by decide⟩

theorem agreement_iff_stranded :
    History stranded ∧ ((∀ before, before <+: stranded → Agreement (replay before)) ↔
      (∀ before a after, stranded = before ++ .attempt a :: after →
        ∀ r e, ¬ a.Strands (replay before) r e) ∧
      ∀ before uid now c after, stranded = before ++ .call uid now c :: after →
        ¬ Relapses (replay before) c) :=
  ⟨history_stranded, agreement_iff history_stranded⟩

/-- A history that leaves a failed Release with a run. -/
theorem failed_with_run_of_stranded : History stranded ∧
    ∃ q, (replay stranded).get? Release.kind ⟨"a", "r"⟩ = some q ∧ q.isFailed ∧
      ((replay stranded).runsOf q.uid).length = 1 := by
  refine ⟨history_stranded, ?_⟩
  have hstored : ((replay stranded).get? Release.kind ⟨"a", "r"⟩).any fun q =>
      q.isFailed && ((replay stranded).runsOf q.uid).length == 1 := by decide +kernel
  obtain ⟨q, hq, hfailed⟩ := (Option.any_eq_true _ _).mp hstored
  rw [Bool.and_eq_true, beq_iff_eq] at hfailed
  exact ⟨q, hq, hfailed.1, hfailed.2⟩

end Reconcile

end ReleaseControl
