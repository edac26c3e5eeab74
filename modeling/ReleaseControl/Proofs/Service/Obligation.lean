import ReleaseControl.Proofs.Reconcile.Course
import ReleaseControl.Proofs.Service.Basic

/-! # What an attempt owes

An attempt that found a Release open does not let go of it: whatever answers it gets, it goes on
until it has noted a status that finishes the Release, or it ends with an error that is retried
(`Owes`). The write of the status names the version that was read, so it gets through only if the
Release is still the one the attempt found (`Snapshot`); a Release that changed meanwhile answers
with a conflict, which is retried. Attempts do not touch other Releases. -/

namespace ReleaseControl

open Program Store

/-- The attempt goes on, or its key will come back after it. -/
def Progress.holdsOn (p : Progress) : Bool := p.outcome?.all Worker.retries

namespace Reconcile

/-! ## What is left to do -/

/-- What is left of an attempt that found the Release open. -/
inductive Owes (r : Release) : Program (Except ReconcileError Unit) → Prop where
  | ask {c : StoreCall} {next : Except StoreError c.Reply → Program (Except ReconcileError Unit)}
      (hc : c.isRead ∨ ∃ run : PipelineRun, c = .create PipelineRun.kind run.toJson)
      (hnext : ∀ reply, Owes r (next reply)) : Owes r (.call c next)
  | note {status : ReleaseStatus} {next : Except StoreError
        (StoreCall.updateStatus Release.kind { r with status }.toJson).Reply →
          Program (Except ReconcileError Unit)} (hfinished : { r with status }.isFinished)
      (hfailed : ∀ e, next (.error e) = .done (.error (.store e)))
      (hwritten : ∀ (stored : StoredRecord) (r' : Release), stored.typed = .ok r' →
        next (.ok stored) = .done (.ok ())) :
      Owes r (.call (.updateStatus Release.kind { r with status }.toJson) next)
  | noteRetry {status : ReleaseStatus} {e : ReconcileError} {next : Except StoreError
        (StoreCall.updateStatus Release.kind { r with status }.toJson).Reply →
          Program (Except ReconcileError Unit)} (he : e.isRetryable)
      (hnext : ∀ reply, next reply = .done (.error e)) :
      Owes r (.call (.updateStatus Release.kind { r with status }.toJson) next)
  | failed {e : ReconcileError} (he : e.isRetryable) : Owes r (.done (.error e))

variable {r : Release} {policy : AmbiguityPolicy} {now : String}

theorem Owes.holdsOn {rest : Program (Except ReconcileError Unit)} (h : Owes r rest) :
    (Progress.going rest).holdsOn := by
  cases h with
  | ask | note | noteRetry => rfl
  | failed he => exact he

/-- Noting a status that finishes the Release. -/
theorem owes_note {status : ReleaseStatus} (hfinished : { r with status }.isFinished) :
    Owes r ((updateRecordStatus { r with status }).bind Aftermath.closing) := by
  rw [updateRecordStatus_eq]
  refine .note hfinished (fun e => rfl) ?_
  intro stored r' hr'
  show Aftermath.closing stored.typed = _
  rw [hr']
  rfl

/-- A Release with a run is finished. -/
theorem isFinished_of_mark {run : RecordKey} {status : ReleaseStatus}
    (h : r.status.markTriggered now run r.metadata.currentGeneration = (true, status)) :
    { r with status }.isFinished := by
  rw [Release.isFinished, Bool.or_eq_true, ReleaseStatus.isTriggered,
    (ReleaseStatus.triggered_of_mark h).pipelineRun]
  exact .inl rfl

/-- So is one with a settled error. -/
theorem isFinished_of_setError (now message : String) : { r with
    status := r.status.setError now message r.metadata.currentGeneration }.isFinished := by
  unfold Release.isFinished
  rw [Bool.or_eq_true]
  exact .inr (ReleaseStatus.isSettledFor_setError _ _ _ _)

theorem owes_report (hopen : r.isFinished = false) (v : Except ReconcileError RecordKey) :
    Owes r (report now r v) := by
  cases v with
  | ok run =>
      obtain ⟨status, hstatus⟩ := Aftermath.exists_marked hopen now run
      rw [report, Aftermath.finish_eq hstatus]
      exact owes_note (isFinished_of_mark hstatus)
  | error e =>
      rw [report]
      cases hretry : e.isRetryable with
      | false =>
          rw [Aftermath.fail_eq_of_settled hretry]
          exact owes_note (isFinished_of_setError now e.message)
      | true =>
          cases e with
          | store cause =>
              rw [Aftermath.fail_eq_of_transient ⟨cause, hretry⟩, updateRecordStatus_eq]
              exact .noteRetry hretry fun reply => rfl
          -- only failures of the store are retried
          | _ => cases hretry

theorem Course.owes {mayCreate : Bool} {rest : Program (Except ReconcileError Unit)}
    (h : Course now r mayCreate rest) (hopen : r.isFinished = false) : Owes r rest := by
  -- a failure for now is reported, with any other answer the attempt goes on
  have hcall {c : StoreCall}
      {next : Except StoreError c.Reply → Program (Except ReconcileError Unit)}
      (hfails : ∀ e : TransientError, next (.error e.1) = report now r (.error (.store e.1)))
      (ih : ∀ reply, IsAnswer reply → Owes r (next reply)) (reply : Except StoreError c.Reply) :
      Owes r (next reply) := by
    rcases transient_or_answer reply with ⟨e, rfl⟩ | hreply
    · rw [hfails]
      exact owes_report hopen _
    · exact ih reply hreply
  induction h with
  | read hread hfails hnext ih => exact .ask (.inl hread) (hcall hfails ih)
  | create hfails hnext ih => exact .ask (.inr ⟨_, rfl⟩) (hcall hfails ih)
  | reports v => exact owes_report hopen v

theorem owes_verdict (hopen : r.isFinished = false) :
    Owes r ((verdict policy r).bind (report now r)) :=
  (course_verdict policy now r).owes hopen

/-! ## What was read -/

/-- The Release was read under the key; a record there with its version is still read as it. -/
structure Snapshot (s : Store) (k : RecordKey) (r : Release) : Prop where
  key : r.key.text = k.text
  workspace : r.metadata.workspace ≠ ""
  name : r.metadata.name ≠ ""
  version : ∃ n < s.nextVersion, r.metadata.resourceVersion = some (toString n)
  current : ∀ {q : StoredRecord}, s.get? Release.kind k = some q →
    r.metadata.resourceVersion = some q.resourceVersion → q.typed = .ok r

namespace Snapshot

variable {s s' : Store} {k : RecordKey} {uid : String} {c : StoreCall}

theorem of_read (hs : s.Sound) (hr : s.read? Release k = some r) : Snapshot s k r := by
  obtain ⟨stored, hget, htyped⟩ := read?_eq_some.mp hr
  have hacc := hs.accounted_release hget htyped
  obtain ⟨-, hspace, hname⟩ := Json.recordMetadata_eq_ok.mp hacc.objectMetadata
  obtain ⟨n, hn, hversion⟩ := hs.versions hget
  refine ⟨(slot_eq_iff.mp hacc.slot).symm, hspace, hname, ⟨n, hn, ?_⟩, ?_⟩
  · rw [hacc.version, hversion]
  · intro q hq _
    cases hget.symm.trans hq
    exact htyped

/-- No later write brings the version back. -/
theorem effect (h : Snapshot s k r) (heffect : Effect uid now s c s') : Snapshot s' k r := by
  obtain ⟨n, hn, hversion⟩ := h.version
  refine ⟨h.key, h.workspace, h.name, ⟨n, Nat.lt_of_lt_of_le hn heffect.nextVersion_le, hversion⟩,
    ?_⟩
  intro q hq hsame
  rcases heffect.get?_cases hq with hold | hnew
  · exact h.current hold hsame
  · rw [hversion, hnew.version_eq] at hsame
    exact absurd (version_inj (Option.some.inj hsame)) (Nat.ne_of_lt hn)

/-- The write of a status finds the Release as it was read, or nothing, or a conflict. -/
theorem updateStatus_cases (h : Snapshot s k r) (status : ReleaseStatus) :
    s.read? Release k = some r ∨
      ∃ e, s.updateStatus Release.kind { r with status }.toJson = (.error e, s) ∧
        (s.get? Release.kind k = none ∨ e.isTransient) := by
  have hkind : { r with status }.toJson.recordKind = .ok Release.kind :=
    Release.recordKind_toJson _
  have hmeta : { r with status }.toJson.recordMetadata = .ok r.metadata :=
    @Release.recordMetadata_toJson { r with status } h.workspace h.name
  have hslot : s.get? Release.kind r.metadata.key = s.get? Release.kind k := by
    have hkey : r.metadata.key.text = k.text := h.key
    rw [Store.get?, Store.get?, slot_eq_iff.mpr hkey]
  obtain ⟨n, -, hversion⟩ := h.version
  cases hget : s.get? Release.kind k with
  | none =>
      have hrevise := revise_of_none hkind hmeta (hslot.trans hget)
      exact .inr ⟨_, write_of_error hrevise, .inl rfl⟩
  | some existing =>
      -- the write names the version that was read; another one is a conflict
      by_cases hsame : toString n = existing.resourceVersion
      · refine .inl (read?_eq_some.mpr ⟨existing, hget, h.current hget ?_⟩)
        rw [hversion, hsame]
      · have hrevise := revise_of_conflict hkind hmeta (hslot.trans hget) hversion hsame
        exact .inr ⟨_, write_of_error hrevise, .inr rfl⟩

/-- It is seen at the one key only. -/
theorem read?_updateStatus (h : Snapshot s k r) (hs : s.Sound) (status : ReleaseStatus)
    {key : RecordKey} (hkey : key.text ≠ k.text) :
    (s.withStatus r status).read? Release key = s.read? Release key := by
  rcases h.updateStatus_cases status with hr | ⟨e, hupdate, -⟩
  · obtain ⟨stored, hget, htyped⟩ := read?_eq_some.mp hr
    have hslot : slot Release.kind key ≠ slot Release.kind k :=
      fun heq => hkey (slot_eq_iff.mp heq)
    have hsame : (s.withStatus r status).get? Release.kind key = s.get? Release.kind key := by
      rw [Store.get?, hs.get?_withStatus hget htyped, if_neg hslot]
      rfl
    show ((s.withStatus r status).get? Release.kind key).bind _ = _
    rw [hsame]
    rfl
  · unfold withStatus
    rw [hupdate]

end Snapshot

/-! ## Making a call -/

section Call

variable {s : Store} {k key : RecordKey} {uid : String} {c : StoreCall}
  {next : Except StoreError c.Reply → Program (Except ReconcileError Unit)}

open Service (answer called)

/-- An attempt is seen by readers of its own Release only. -/
theorem Owes.read?_called (h : Owes r (.call c next)) (hs : s.Sound) (hr : Snapshot s k r)
    (fate : Fate) (hkey : key.text ≠ k.text) :
    (called uid now c fate s).read? Release key = s.read? Release key := by
  have hstatus (status : ReleaseStatus) :
      (called uid now (.updateStatus Release.kind { r with status }.toJson) fate s).read? Release
        key = s.read? Release key := by
    unfold called
    split
    · exact hr.read?_updateStatus hs status hkey
    · rfl
  cases h with
  | note => exact hstatus _
  | noteRetry => exact hstatus _
  | ask hc =>
      unfold called
      split
      · rcases hc with hread | ⟨run, rfl⟩
        · rw [perform_snd_of_isRead hread]
        · have heffect := perform_effect uid now s (.create PipelineRun.kind run.toJson)
          exact (heffect.agrees slash_notMem_release slash_notMem_run
            (show PipelineRun.kind ≠ Release.kind by decide)).read? key
      · rfl

/-- What it brings has its members in order. -/
theorem Owes.ordered (h : Owes r (.call c next)) : c.Ordered := by
  cases h with
  | note | noteRetry => exact Release.ordered_toJson _
  | ask hc =>
      rcases hc with hread | ⟨run, rfl⟩
      · cases c with
        | get | list => trivial
        | create | update | updateStatus | delete => cases hread
      · exact run.ordered_toJson

/-- The attempt goes on owing, or it ends and has left no open Release behind. -/
theorem Owes.answer (h : Owes r (.call c next)) (hs : s.Sound) (hr : Snapshot s k r)
    (fate : Fate) :
    Owes r (next (answer uid now c fate s)) ∨
      (∃ v, next (answer uid now c fate s) = .done v) ∧
        ∀ r', (called uid now c fate s).read? Release k = some r' → r'.isFinished := by
  cases h with
  | ask hc hnext => exact .inl (hnext _)
  | noteRetry he hnext => exact .inl (hnext (answer uid now _ fate s) ▸ .failed he)
  | @note status next hfinished hfailed hwritten =>
      have hretry (e : TransientError) : Owes r (next (.error e.1)) := hfailed e.1 ▸ .failed e.2
      cases fate with
      | failed e => exact .inl (hretry e)
      | lost e => exact .inl (hretry e)
      | answered =>
          show Owes r (next (s.updateStatus Release.kind { r with status }.toJson).1) ∨
            (∃ v, next (s.updateStatus Release.kind { r with status }.toJson).1 = .done v) ∧
            ∀ r', (s.withStatus r status).read? Release k = some r' → r'.isFinished
          -- the status is written, the Release is gone, or it has changed and is tried again
          rcases hr.updateStatus_cases status with hread | ⟨e, hupdate, hnone | htransient⟩
          · right
            obtain ⟨stored, hget, htyped⟩ := read?_eq_some.mp hread
            have htyped' := (hs.accounted_release hget htyped).typed_withStatus htyped
              (toString s.nextVersion) status
            rw [hs.updateStatus_release hget htyped]
            refine ⟨⟨.ok (), hwritten _ _ htyped'⟩, ?_⟩
            intro r' hr'
            rw [hs.read?_withStatus hread, Option.some.injEq] at hr'
            rw [← hr']
            exact hfinished
          · right
            unfold withStatus
            rw [hupdate]
            refine ⟨⟨_, hfailed e⟩, ?_⟩
            intro r' hr'
            obtain ⟨stored, hget, -⟩ := read?_eq_some.mp hr'
            cases hnone.symm.trans hget
          · left
            rw [hupdate]
            exact hretry ⟨e, htransient⟩

end Call

end Reconcile

end ReleaseControl
