import ReleaseControl.Proofs.Record.Status
import ReleaseControl.Proofs.Reconcile.Aftermath

/-! # The course of an attempt

What is left of an attempt that found its Release open is a tree of calls (`Course`). It reads,
creates the run of the Release at most once, and ends with a report, which is one write of the
status (`report_eq`). A call that fails for now is what the attempt reports; all other errors that
it comes to are settled. -/

namespace ReleaseControl

open Program Store

namespace Reconcile

variable {now : String} {r : Release} {policy : AmbiguityPolicy} {chain : Chain}

/-! ## The report -/

/-- The status that is written to report. -/
def reported (now : String) (r : Release) : Except ReconcileError RecordKey → ReleaseStatus
  | .error e =>
    if e.isRetryable then r.status.setRetrying now e.message r.metadata.currentGeneration
    else r.status.setError now e.message r.metadata.currentGeneration
  | .ok run => (r.status.markTriggered now run r.metadata.currentGeneration).2

/-- What an attempt returns once it has reported. A failure to write is returned instead, unless
the attempt had failed for now before. -/
def conclusion (v : Except ReconcileError RecordKey) (written : Except StoreError Release) :
    Except ReconcileError Unit :=
  match v with
  | .error e => if e.isRetryable then .error e else (written.map fun _ => ()).mapError .store
  | .ok _ => (written.map fun _ => ()).mapError .store

/-- The report of an open Release is one write of its status. -/
theorem report_eq (hopen : r.isFinished = false) (v : Except ReconcileError RecordKey) :
    report now r v = (updateRecordStatus { r with status := reported now r v }).bind fun written =>
      .done (conclusion v written) := by
  have hclosing (written : Except StoreError Release) : Aftermath.closing written =
      .done ((written.map fun _ => ()).mapError .store) := by
    cases written <;> rfl
  cases v with
  | ok run =>
      obtain ⟨status, hstatus⟩ := Aftermath.exists_marked hopen now run
      rw [report, Aftermath.finish_eq hstatus, reported, hstatus]
      exact congrArg _ (funext hclosing)
  | error e =>
      cases hretry : e.isRetryable with
      | true =>
          simp only [report, fail, reported, conclusion, hretry, if_true]
          rfl
      | false =>
          rw [report, Aftermath.fail_eq_of_settled hretry]
          simp only [reported, conclusion, hretry, Bool.false_eq_true, if_false]
          exact congrArg _ (funext hclosing)

theorem report_call (hopen : r.isFinished = false) (v : Except ReconcileError RecordKey) :
    report now r v =
      .call (.updateStatus Release.kind { r with status := reported now r v }.toJson) fun reply =>
        .done (conclusion v (reply.bind StoredRecord.typed)) := by
  rw [report_eq hopen, updateRecordStatus_eq]
  rfl

/-! ## The way to it -/

/-- The result is no error that is worth a retry. -/
def IsSettled {α : Type} (v : Except ReconcileError α) : Prop :=
  ∀ e, v = .error e → e.isRetryable = false

theorem isSettled_ok {α : Type} (a : α) : IsSettled (.ok a : Except ReconcileError α) := by
  intro e he
  cases he

theorem isSettled_error {α : Type} {e : ReconcileError} (h : e.isRetryable = false) :
    IsSettled (.error e : Except ReconcileError α) := by
  rintro e' ⟨⟩
  exact h

/-- The answer is no failure for now. -/
def IsAnswer {α : Type} (reply : Except StoreError α) : Prop :=
  ∀ e, reply = .error e → e.isTransient = false

theorem transient_or_answer {α : Type} (reply : Except StoreError α) :
    (∃ e : TransientError, reply = .error e.1) ∨ IsAnswer reply := by
  cases reply with
  | ok a => exact .inr fun e he => by cases he
  | error e =>
      cases he : e.isTransient with
      | true => exact .inl ⟨⟨e, he⟩, rfl⟩
      | false =>
          refine .inr ?_
          rintro e' ⟨⟩
          exact he

/-- What is left of an attempt that found the Release open; `mayCreate` tells whether it has yet to
create the run. -/
inductive Course (now : String) (r : Release) :
    Bool → Program (Except ReconcileError Unit) → Prop where
  | read {mayCreate : Bool} {c : StoreCall}
      {next : Except StoreError c.Reply → Program (Except ReconcileError Unit)} (hread : c.isRead)
      (hfails : ∀ e : TransientError, next (.error e.1) = report now r (.error (.store e.1)))
      (hnext : ∀ reply, IsAnswer reply → Course now r mayCreate (next reply)) :
      Course now r mayCreate (.call c next)
  | create {chain : Chain}
      {next : Except StoreError (StoreCall.create PipelineRun.kind (runFor chain r).toJson).Reply →
        Program (Except ReconcileError Unit)}
      (hfails : ∀ e : TransientError, next (.error e.1) = report now r (.error (.store e.1)))
      (hnext : ∀ reply, IsAnswer reply → Course now r false (next reply)) :
      Course now r true (.call (.create PipelineRun.kind (runFor chain r).toJson) next)
  | reports {mayCreate : Bool} (v : Except ReconcileError RecordKey) (hv : IsSettled v) :
      Course now r mayCreate (report now r v)

/-- Reading first changes nothing about it. -/
theorem course_bind {α : Type} {mayCreate : Bool} {p : Program (Except ReconcileError α)}
    (hp : GivesUp p) {f : Except ReconcileError α → Program (Except ReconcileError Unit)}
    (hfails : ∀ e : TransientError, f (.error (.store e.1)) = report now r (.error (.store e.1)))
    (hf : ∀ v, IsSettled v → Course now r mayCreate (f v)) :
    Course now r mayCreate (p.bind f) := by
  induction hp with
  | done v hv => exact hf v hv
  | @call c next hread hgives hnext ih =>
      refine .read hread ?_ ?_
      · intro e
        rw [hgives]
        exact hfails e
      · intro reply hreply
        cases reply with
        | ok reply => exact ih reply
        | error e =>
            rw [hgives]
            exact hf _ (isSettled_error (hreply e rfl))

/-- An attempt that found its Release open. -/
theorem course_verdict (policy : AmbiguityPolicy) (now : String) (r : Release) :
    Course now r true ((verdict policy r).bind (report now r)) := by
  unfold verdict
  rw [bind_eq, bind_bind]
  refine course_bind (Chain.givesUp_resolve policy r) (fun e => rfl) ?_
  intro resolved hresolved
  cases resolved with
  | error e => exact .reports (.error e) (isSettled_error (hresolved e rfl))
  | ok chain =>
      show Course now r true ((startOrAdopt chain r).bind (report now r))
      rw [startOrAdopt_eq, createRecord_eq, bind_bind]
      refine .create ?_ ?_
      · intro e
        show (afterCreation chain r (.error e.1)).bind (report now r) = _
        rw [afterCreation_transient]
        rfl
      · intro reply hreply
        -- a run that cannot be read back is an error for good, too
        have hcreated : IsAnswer (reply.bind fun stored =>
            (stored.typed : Except StoreError PipelineRun)) := by
          intro e he
          rcases bind_error_cases he with herror | ⟨stored, -, htyped⟩
          · exact hreply e herror
          · exact StoredRecord.isTransient_of_typed htyped
        exact course_bind (givesUp_afterCreation hcreated) (fun e => rfl) fun v hv => .reports v hv

/-- The first call of an attempt, and what it does with the answer. -/
theorem attempt_call (policy : AmbiguityPolicy) (now : String) (key : RecordKey) :
    ∃ next : Except StoreError (StoreCall.get Release.kind key).Reply →
        Program (Except ReconcileError Unit),
      attempt policy now key = .call (.get Release.kind key) next ∧
      (∀ e, next (.error e) = .done (.error (.store e))) ∧
      next (.ok none) = .done (.ok ()) ∧
      (∀ (stored : StoredRecord) e, (stored.typed : Except StoreError Release) = .error e →
        next (.ok (some stored)) = .done (.error (.store e))) ∧
      ∀ (stored : StoredRecord) (r : Release), stored.typed = .ok r →
        next (.ok (some stored)) =
          if r.isFinished then .done (.ok ()) else (verdict policy r).bind (report now r) := by
  rw [attempt_eq, Chain.getRecord_eq]
  refine ⟨_, rfl, fun e => rfl, rfl, ?_, ?_⟩
  · intro stored e he
    simp only [Except.bind, Option.elim, he, Except.map, bind_done]
  · intro stored r hr
    simp only [Except.bind, Option.elim, hr, Except.map, bind_done]

end Reconcile

end ReleaseControl
