import ReleaseControl.Proofs.Reconcile.Course
import ReleaseControl.Proofs.Reconcile.History

/-! # Failures for now

Calls of an attempt may fail for now and without effect, as a plan says (`injected`). The attempt
returns such a failure if and only if one of its calls had one: no branch of it swallows a failure,
and it finds no failures for now of its own (`Surfaces`). What it leaves then is the Release as it
was, or one whose status tells of the failure and that it will be retried. -/

namespace ReleaseControl

open Program Store

namespace Program

variable {α : Type} {plan : Nat → Option TransientError} {uid time : String} {n : Nat}
  {s : Store} {c : StoreCall} {next : Except StoreError c.Reply → Program α}

/-- Answers calls from a store, but for those that fail for now by the plan. The calls are
counted. -/
def injected (plan : Nat → Option TransientError) (uid time : String) : Handler (Nat × Store) :=
  fun c (n, s) =>
    match plan n with
    | some e => (.returned (.error e.1), n + 1, s)
    | none =>
      let (answer, s) := s.perform uid time c
      (.returned answer, n + 1, s)

theorem run_injected_failed {e : TransientError} (hplan : plan n = some e) :
    (call c next).run (injected plan uid time) (n, s) =
      (next (.error e.1)).run (injected plan uid time) (n + 1, s) := by
  simp only [run, injected, hplan]

theorem run_injected_answered (hplan : plan n = none) :
    (call c next).run (injected plan uid time) (n, s) =
      (next (s.perform uid time c).1).run (injected plan uid time)
        (n + 1, (s.perform uid time c).2) := by
  simp only [run, injected, hplan]

end Program

namespace Reconcile

variable {plan : Nat → Option TransientError} {uid time now : String} {key : RecordKey}
  {r : Release} {n : Nat} {s : Store}

/-! ## How an attempt ends -/

/-- From call `n` on no call failed and the attempt ended well, or the attempt returned the failure
of one of these calls. -/
inductive Surfaces (plan : Nat → Option TransientError) (now : String) (key : RecordKey)
    (r : Release) (n : Nat) : Except ReconcileError Unit → Nat → Store → Prop where
  | well {n' : Nat} {s' : Store} (hplan : ∀ i, n ≤ i → i < n' → plan i = none) :
      Surfaces plan now key r n (.ok ()) n' s'
  | failed {i n' : Nat} {s' : Store} {e : TransientError} {r' : Release} (hfrom : n ≤ i)
      (hto : i < n') (hplan : plan i = some e) (hread : s'.read? Release key = some r')
      (hstatus : r'.status = r.status ∨ r'.status = r.status.setRetrying now
        (ReconcileError.store e.1).message r.metadata.currentGeneration) :
      Surfaces plan now key r n (.error (.store e.1)) n' s'

/-- A call that is answered may come before. -/
theorem Surfaces.answered {result : Except ReconcileError Unit} {n' : Nat} {s' : Store}
    (h : Surfaces plan now key r (n + 1) result n' s') (hplan : plan n = none) :
    Surfaces plan now key r n result n' s' := by
  cases h with
  | well hnone =>
      refine .well ?_
      intro i hfrom hto
      by_cases hfirst : i = n
      · rw [hfirst]
        exact hplan
      · exact hnone i (by omega) hto
  | failed hfrom hto hfails hread hstatus =>
      exact .failed (by omega) hto hfails hread hstatus

/-! ## The report -/

/-- Writing the status of a Release that was read, and going on. -/
theorem run_note_injected {α : Type} (hs : s.Sound) (hr : s.read? Release key = some r)
    (status : ReleaseStatus) (f : Except StoreError Release → Program α) (n : Nat) :
    ((updateRecordStatus { r with status }).bind f).run (injected plan uid time) (n, s) =
      match plan n with
      | some e => (f (.error e.1)).run (injected plan uid time) (n + 1, s)
      | none => (f (.ok (r.noted (toString s.nextVersion) status))).run (injected plan uid time)
          (n + 1, s.withStatus r status) := by
  rw [updateRecordStatus_eq]
  cases hplan : plan n with
  | some e => exact run_injected_failed hplan
  | none =>
      obtain ⟨stored, hget, htyped⟩ := read?_eq_some.mp hr
      have hupdate := hs.updateStatus_release hget htyped status
      have hwritten := (hs.accounted_release hget htyped).typed_withStatus htyped
        (toString s.nextVersion) status
      refine (run_injected_answered hplan).trans ?_
      show (f ((s.updateStatus Release.kind { r with status }.toJson).1.bind
        StoredRecord.typed)).run _ (n + 1, s.withStatus r status) = _
      rw [hupdate]
      exact congrArg (fun reply => (f reply).run _ _) hwritten

/-- What was settled is reported: the write fails and this is returned, or all is well. -/
theorem surfaces_report (hs : s.Sound) (hr : s.read? Release key = some r)
    (hopen : r.isFinished = false) {v : Except ReconcileError RecordKey} (hv : IsSettled v)
    (n : Nat) :
    ∃ result n' s', (report now r v).run (injected plan uid time) (n, s) =
      (.returned result, n', s') ∧ Surfaces plan now key r n result n' s' := by
  have hconclusion (written : Except StoreError Release) :
      conclusion v written = (written.map fun _ => ()).mapError .store := by
    cases v with
    | ok run => rfl
    | error e => simp [conclusion, hv e rfl]
  rw [report_eq hopen, run_note_injected hs hr]
  cases hplan : plan n with
  | some e =>
      refine ⟨_, _, _, rfl, ?_⟩
      rw [hconclusion]
      exact .failed (Nat.le_refl n) (Nat.lt_succ_self n) hplan hr (.inl rfl)
  | none =>
      refine ⟨_, _, _, rfl, ?_⟩
      rw [hconclusion]
      refine .well ?_
      intro i hfrom hto
      obtain rfl : i = n := by omega
      exact hplan

/-- A failure for now is returned, whether or not it could be reported. -/
theorem surfaces_report_failed (hs : s.Sound) (hr : s.read? Release key = some r)
    (hopen : r.isFinished = false) {e : TransientError} (hplan : plan n = some e) :
    ∃ result n' s', (report now r (.error (.store e.1))).run (injected plan uid time) (n + 1, s) =
      (.returned result, n', s') ∧ Surfaces plan now key r n result n' s' := by
  have hretry : (ReconcileError.store e.1).isRetryable := e.2
  have hconclusion (written : Except StoreError Release) :
      conclusion (.error (.store e.1)) written = .error (.store e.1) := by
    simp [conclusion, hretry]
  rw [report_eq hopen, run_note_injected hs hr]
  cases plan (n + 1) with
  | some e' =>
      refine ⟨_, _, _, rfl, ?_⟩
      rw [hconclusion]
      exact .failed (Nat.le_refl n) (by omega) hplan hr (.inl rfl)
  | none =>
      refine ⟨_, _, _, rfl, ?_⟩
      rw [hconclusion]
      refine .failed (Nat.le_refl n) (by omega) hplan (hs.read?_withStatus hr _) (.inr ?_)
      simp only [Release.status_noted, reported, hretry, if_true]

/-! ## The way to it -/

theorem Course.surfaces {mayCreate : Bool} {rest : Program (Except ReconcileError Unit)}
    (h : Course now r mayCreate rest) (hopen : r.isFinished = false) (hs : s.Sound)
    (hr : s.read? Release key = some r) (n : Nat) :
    ∃ result n' s', rest.run (injected plan uid time) (n, s) = (.returned result, n', s') ∧
      Surfaces plan now key r n result n' s' := by
  induction h generalizing s n with
  | reports v hv => exact surfaces_report hs hr hopen hv n
  | @read mayCreate c next hread hfails hnext ih =>
      cases hplan : plan n with
      | some e =>
          rw [run_injected_failed hplan, hfails]
          exact surfaces_report_failed hs hr hopen hplan
      | none =>
          have hanswer : IsAnswer (s.perform uid time c).1 := fun e => isTransient_of_isRead hread
          obtain ⟨result, n', s', hrun, hsurfaces⟩ := ih _ hanswer hs hr (n + 1)
          refine ⟨result, n', s', ?_, hsurfaces.answered hplan⟩
          rw [run_injected_answered hplan, perform_snd_of_isRead hread]
          exact hrun
  | @create chain next hfails hnext ih =>
      cases hplan : plan n with
      | some e =>
          rw [run_injected_failed hplan, hfails]
          exact surfaces_report_failed hs hr hopen hplan
      | none =>
          -- with the run created, the Release is what it was
          have heffect := perform_effect uid time s
            (.create PipelineRun.kind (runFor chain r).toJson)
          have hagrees := heffect.agrees slash_notMem_release slash_notMem_run
            (show PipelineRun.kind ≠ Release.kind by decide)
          obtain ⟨result, n', s', hrun, hsurfaces⟩ := ih _ (fun e => isTransient_of_create)
            (heffect.sound hs) ((hagrees.read? key).trans hr) (n + 1)
          refine ⟨result, n', s', ?_, hsurfaces.answered hplan⟩
          rw [run_injected_answered hplan]
          exact hrun

/-- An attempt on a Release that can be read. -/
theorem surfaces_attempt (hs : s.Sound) (hr : s.read? Release key = some r)
    (policy : AmbiguityPolicy) (now : String) :
    ∃ result n s', (attempt policy now key).run (injected plan uid time) (0, s) =
      (.returned result, n, s') ∧ Surfaces plan now key r 0 result n s' := by
  obtain ⟨next, hattempt, hfails, -, -, htyped⟩ := attempt_call policy now key
  rw [hattempt]
  cases hplan : plan 0 with
  | some e =>
      rw [run_injected_failed hplan, hfails]
      exact ⟨_, _, _, rfl, .failed (Nat.le_refl 0) Nat.one_pos hplan hr (.inl rfl)⟩
  | none =>
      obtain ⟨stored, hget, hread⟩ := read?_eq_some.mp hr
      have hanswer : (s.perform uid time (.get Release.kind key)).1 = .ok (some stored) :=
        congrArg Except.ok hget
      rw [run_injected_answered hplan, perform_snd_of_isRead rfl, hanswer, htyped stored r hread]
      cases hopen : r.isFinished with
      | true =>
          refine ⟨_, _, _, rfl, .well ?_⟩
          intro i _ hto
          obtain rfl : i = 0 := by omega
          exact hplan
      | false =>
          obtain ⟨result, n, s', hrun, hsurfaces⟩ :=
            (course_verdict policy now r).surfaces hopen hs hr 1
          exact ⟨result, n, s', hrun, hsurfaces.answered hplan⟩

/-- Whichever calls of an attempt fail for now and without effect, it returns an error that is
worth a retry if and only if one of its calls failed. The status of the Release is then what it was
or tells of this error in its `Succeeded` condition, as a failure that will be retried; it is
neither newly settled nor marked as triggered. -/
theorem transient_failures_surface (hs : Reachable s) (hr : s.read? Release key = some r)
    (policy : AmbiguityPolicy) (now uid time : String) (plan : Nat → Option TransientError) :
    ∃ result n s', (attempt policy now key).run (injected plan uid time) (0, s) =
        (.returned result, n, s') ∧
      ((∃ e, result = .error e ∧ e.isRetryable) ↔ ∃ i < n, (plan i).isSome) ∧
      ∀ e, result = .error e → e.isRetryable →
        ∃ r' : Release, s'.read? Release key = some r' ∧
          (r'.status = r.status ∨
            r.status.Retries e.message r.metadata.currentGeneration r'.status) ∧
          (r'.status.isSettledFor r.metadata.currentGeneration →
            r.status.isSettledFor r.metadata.currentGeneration) ∧
          (r'.status.isTriggered → r.status.isTriggered) := by
  obtain ⟨result, n, s', hrun, hsurfaces⟩ := surfaces_attempt hs.sound hr policy now
  refine ⟨result, n, s', hrun, ?_⟩
  cases hsurfaces with
  | well hplan =>
      constructor
      · constructor
        · rintro ⟨e, he, -⟩
          cases he
        · rintro ⟨i, hi, hfails⟩
          rw [hplan i (Nat.zero_le i) hi] at hfails
          cases hfails
      · intro e he
        cases he
  | @failed i n' s' cause r' hfrom hto hplan hread hstatus =>
      constructor
      · constructor
        · intro _
          exact ⟨i, hto, Option.isSome_of_eq_some hplan⟩
        · intro _
          exact ⟨_, rfl, cause.2⟩
      · rintro e ⟨⟩ -
        refine ⟨r', hread, ?_⟩
        rcases hstatus with hsame | hretrying
        · rw [hsame]
          exact ⟨.inl rfl, id, id⟩
        · rw [hretrying]
          refine ⟨.inr (ReleaseStatus.retries_setRetrying ..), ?_, id⟩
          intro hsettled
          rw [ReleaseStatus.isSettledFor_setRetrying] at hsettled
          cases hsettled

/-- The fifth call, which creates the run, fails. -/
def creationFails (n : Nat) : Option TransientError :=
  if n = 4 then some ⟨.connection "reset by peer", rfl⟩ else none

theorem transient_failures_surface_stage :
    ∃ (r : Release) (e : ReconcileError) (s' : Store),
      (attempt .strict "t" ⟨"a", "r"⟩).run (injected creationFails "5" "t") (0, replay stage) =
        (.returned (.error e), 6, s') ∧ e.isRetryable ∧
      (replay stage).read? Release ⟨"a", "r"⟩ = some r ∧
      ∃ r' : Release, s'.read? Release ⟨"a", "r"⟩ = some r' ∧
        (r'.status = r.status ∨
          r.status.Retries e.message r.metadata.currentGeneration r'.status) ∧
        Reachable (replay stage) := by
  have hreachable : Reachable (replay stage) :=
    .step (.step (.step (.step (.empty _) _ _ _) _ _ _) _ _ _) _ _ _
  have hfound : ((replay stage).read? Release ⟨"a", "r"⟩).isSome := by decide +kernel
  have hcalls : ((attempt .strict "t" ⟨"a", "r"⟩).run (injected creationFails "5" "t")
      (0, replay stage)).2.1 = 6 := by decide +kernel
  obtain ⟨r, hr⟩ := Option.isSome_iff_exists.mp hfound
  obtain ⟨result, n, s', hrun, hretried, hstatus⟩ :=
    transient_failures_surface hreachable hr .strict "t" "5" "t" creationFails
  rw [hrun] at hcalls
  obtain rfl : n = 6 := hcalls
  obtain ⟨e, rfl, hretry⟩ := hretried.mpr ⟨4, by decide, rfl⟩
  obtain ⟨r', hr', hretries, -⟩ := hstatus e rfl hretry
  exact ⟨r, e, s', hrun, hretry, hr, r', hr', hretries, hreachable⟩

end Reconcile

end ReleaseControl
