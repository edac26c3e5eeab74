import ReleaseControl.Proofs.Reconcile.Verdict

/-! # What an attempt leaves behind

`Aftermath` lists how an attempt can end and what store it can leave, whatever its script makes of
its calls: nothing was written, or a failure was noted, or a run was created, or the status tells
that a run was started. `Attempt.aftermath` shows that nothing else happens; `Launches.run_snd` and
`Settles.run_snd` tell when the cases that matter most do happen. -/

namespace ReleaseControl

open Program Store

/-! ## Kinds -/

theorem slash_notMem_release : '/' ∉ Release.kind.toList := by decide

theorem slash_notMem_link : '/' ∉ ReleaseLink.kind.toList := by decide

theorem slash_notMem_strategy : '/' ∉ ReleaseStrategy.kind.toList := by decide

theorem slash_notMem_run : '/' ∉ PipelineRun.kind.toList := by decide

namespace Store

theorem Agrees.read? {ρ : Type} [Record ρ] {s s' : Store} (h : Agrees (Record.kind ρ) s s')
    (key : RecordKey) : s'.read? ρ key = s.read? ρ key := by
  rw [Store.read?, Store.read?, h.get? key]

variable {uid now : String} {s : Store} {chain : Chain} {r : Release}

theorem effect_withStatus (uid now : String) (s : Store) (r : Release) (status : ReleaseStatus) :
    Effect uid now s (.updateStatus Release.kind { r with status }.toJson)
      (s.withStatus r status) :=
  perform_effect uid now s _

theorem effect_withRun (uid now : String) (hspace : chain.link.spec.target ≠ "")
    (hfree : s.get? PipelineRun.kind (Reconcile.runKey chain r) = none) :
    Effect uid now s (.create PipelineRun.kind (Reconcile.runFor chain r).toJson)
      (s.withRun uid now chain r) :=
  .created (checkNew_run.mpr ⟨rfl, hspace, hfree⟩)

/-- Creating a run changes nothing for readers of another kind. -/
theorem agrees_withRun {kind : String} (hkind : '/' ∉ kind.toList) (hne : PipelineRun.kind ≠ kind)
    (uid now : String) (chain : Chain) (r : Release) (s : Store) :
    Agrees kind s (s.withRun uid now chain r) :=
  agrees_accept hkind slash_notMem_run hne

/-- Nor does writing a status for readers of anything but Releases. -/
theorem agrees_withStatus {kind : String} (hkind : '/' ∉ kind.toList)
    (hne : Release.kind ≠ kind) (s : Store) (r : Release) (status : ReleaseStatus) :
    Agrees kind s (s.withStatus r status) :=
  (effect_withStatus "" "" s r status).agrees hkind slash_notMem_release hne

end Store

namespace Reconcile

/-- One attempt on a key: its policy, the clock, the uid that a creation would use, and what
happens to its calls. -/
structure Attempt where
  policy : AmbiguityPolicy
  key : RecordKey
  now : String
  uid : String
  script : List Fate

namespace Attempt

/-- How the attempt ends and the store it leaves. -/
def run (a : Attempt) (s : Store) : Outcome (Except ReconcileError Unit) × Store :=
  let (outcome, _, s) :=
    (attempt a.policy a.now a.key).run (scripted a.uid a.now) (a.script, s)
  (outcome, s)

end Attempt

/-! ## The cases -/

/-- The attempt found a Release that is not finished. -/
structure Attempt.Finds (a : Attempt) (s : Store) (r : Release) : Prop where
  read : s.read? Release a.key = some r
  unfinished : r.isFinished = false

/-- It found a complete chain and the slot of the run free, its first four calls were answered (two
reads, the list and the read of the strategy) and the fifth, the creation, was made. -/
structure Attempt.Launches (a : Attempt) (s : Store) (r : Release) (chain : Chain) : Prop
    extends a.Finds s r where
  resolves : (Chain.resolve a.policy r).on s = .ok chain
  hasTarget : chain.link.spec.target ≠ ""
  free : s.get? PipelineRun.kind (runKey chain r) = none
  made : Fate.Makes 4 a.script

/-- With the run created the Release is read as before. -/
theorem Attempt.Launches.read_withRun {a : Attempt} {s : Store} {r : Release} {chain : Chain}
    (h : a.Launches s r chain) (hs : s.Sound) :
    (s.withRun a.uid a.now chain r).Sound ∧
      (s.withRun a.uid a.now chain r).read? Release a.key = some r :=
  ⟨(effect_withRun _ _ h.hasTarget h.free).sound hs,
    ((agrees_withRun slash_notMem_release (by decide) _ _ _ _ _).read? _).trans h.read⟩

/-- Its verdict is an error that is not retried; every call up to it was answered and the report
was made. -/
structure Attempt.Settles (a : Attempt) (s : Store) (r : Release) (e : ReconcileError) : Prop
    extends a.Finds s r where
  refused : ((verdict a.policy r).eval a.uid a.now s).1 = .error e
  final : e.isRetryable = false
  made : Fate.Makes ((verdict a.policy r).calls a.uid a.now s + 1) a.script

/-- It found the run that an earlier attempt had created. -/
structure Attempt.Adopts (a : Attempt) (s : Store) (r : Release) (chain : Chain) (run : PipelineRun)
    (u : String) : Prop extends a.Finds s r where
  resolves : (Chain.resolve a.policy r).on s = .ok chain
  stored : s.read? PipelineRun (runKey chain r) = some run
  hasUid : r.metadata.uid = some u
  owned : Trigger.isOwnedBy u run

/-- The attempt was cut off or returned a failure of its script. -/
def Interrupts (script : List Fate) (o : Outcome (Except ReconcileError Unit)) : Prop :=
  o = .crashed ∨ ∃ e, Fate.FailsWith e script ∧ o = .returned (.error (.store e.1))

theorem Interrupts.mono {script script' : List Fate} {o : Outcome (Except ReconcileError Unit)}
    (h : Interrupts script o) (hsub : script ⊆ script') : Interrupts script' o :=
  h.imp_right fun ⟨e, he, ho⟩ => ⟨e, he.mono hsub, ho⟩

/-- It returned as it should or was interrupted. -/
def Attempt.Ends (a : Attempt) (o : Outcome (Except ReconcileError Unit)) : Prop :=
  o = .returned (.ok ()) ∨ Interrupts a.script o

/-- How an attempt can end. -/
inductive Aftermath (a : Attempt) (s : Store) :
    Outcome (Except ReconcileError Unit) → Store → Prop where
  | interrupted {o : Outcome (Except ReconcileError Unit)} (ho : Interrupts a.script o) :
      Aftermath a s o s
  | unreadable {stored : StoredRecord} {e : StoreError}
      (hget : s.get? Release.kind a.key = some stored)
      (htyped : (stored.typed : Except StoreError Release) = .error e) :
      Aftermath a s (.returned (.error (.store e))) s
  | idle (hidle : ∀ r, s.read? Release a.key = some r → r.isFinished) :
      Aftermath a s (.returned (.ok ())) s
  | retried {r : Release} {e : TransientError} (hr : a.Finds s r)
      (he : Fate.FailsWith e a.script) :
      Aftermath a s (.returned (.error (.store e.1))) (s.withStatus r
        (r.status.setRetrying a.now (ReconcileError.store e.1).message
          r.metadata.currentGeneration))
  | settled {r : Release} {e : ReconcileError} {o : Outcome (Except ReconcileError Unit)}
      (hr : a.Settles s r e) (ho : a.Ends o) :
      Aftermath a s o (s.withStatus r
        (r.status.setError a.now e.message r.metadata.currentGeneration))
  | launched {r : Release} {chain : Chain} {o : Outcome (Except ReconcileError Unit)}
      (hr : a.Launches s r chain) (ho : Interrupts a.script o) :
      Aftermath a s o (s.withRun a.uid a.now chain r)
  | mislaid {r : Release} {chain : Chain} {e : TransientError} (hr : a.Launches s r chain)
      (he : Fate.FailsWith e a.script) :
      Aftermath a s (.returned (.error (.store e.1)))
        ((s.withRun a.uid a.now chain r).withStatus r (r.status.setRetrying a.now
          (ReconcileError.store e.1).message r.metadata.currentGeneration))
  | triggered {r : Release} {chain : Chain} {status : ReleaseStatus}
      {o : Outcome (Except ReconcileError Unit)} (hr : a.Launches s r chain)
      (hstatus : r.status.markTriggered a.now (runKey chain r) r.metadata.currentGeneration =
        (true, status)) (ho : a.Ends o) :
      Aftermath a s o ((s.withRun a.uid a.now chain r).withStatus r status)
  | adopted {r : Release} {chain : Chain} {run : PipelineRun} {u : String}
      {status : ReleaseStatus} {o : Outcome (Except ReconcileError Unit)}
      (hr : a.Adopts s r chain run u)
      (hstatus : r.status.markTriggered a.now (runKey chain r) r.metadata.currentGeneration =
        (true, status)) (ho : a.Ends o) :
      Aftermath a s o (s.withStatus r status)

namespace Aftermath

variable {a : Attempt} {s : Store} {r : Release}

/-! ## Reporting under a script -/

theorem isSettledFor_of_unfinished (h : r.isFinished = false) :
    r.status.isSettledFor r.metadata.currentGeneration = false := by
  simp only [Release.isFinished, Bool.or_eq_false_iff] at h
  exact h.2

/-- A Release that is not finished can be marked. -/
theorem exists_marked (h : r.isFinished = false) (now : String) (run : RecordKey) :
    ∃ status, r.status.markTriggered now run r.metadata.currentGeneration = (true, status) := by
  unfold ReleaseStatus.markTriggered
  rw [isSettledFor_of_unfinished h]
  exact ⟨_, rfl⟩

/-- How an attempt ends after its last write. -/
def closing : Except StoreError Release → Program (Except ReconcileError Unit)
  | .error e => .done (.error (.store e))
  | .ok _ => .done (.ok ())

theorem finish_eq {now : String} {run : RecordKey} {status : ReleaseStatus}
    (h : r.status.markTriggered now run r.metadata.currentGeneration = (true, status)) :
    finish now r run = (updateRecordStatus { r with status }).bind closing := by
  simp only [finish, h, bind_eq]
  congr 1

theorem fail_eq_of_settled {now : String} {err : ReconcileError} (h : err.isRetryable = false) :
    fail now r err = (updateRecordStatus { r with
      status := r.status.setError now err.message r.metadata.currentGeneration }).bind
        closing := by
  simp only [fail, h, bind_eq, Bool.false_eq_true, if_false]
  congr 1

theorem fail_eq_of_transient {now : String} (e : TransientError) :
    fail now r (.store e.1) = (updateRecordStatus { r with
      status := r.status.setRetrying now (ReconcileError.store e.1).message
        r.metadata.currentGeneration }).bind fun _ => .done (.error (.store e.1)) := by
  have hretry : (ReconcileError.store e.1).isRetryable := e.2
  simp only [fail, hretry, bind_eq, if_true]
  rfl

/-- The last write is made, or the attempt is interrupted before it. -/
theorem run_closing (uid now : String) (hs : s.Sound) {key : RecordKey}
    (hr : s.read? Release key = some r) (status : ReleaseStatus) (script : List Fate) :
    (∃ f rest o, f.isMade ∧ script = f :: rest ∧
        ((updateRecordStatus { r with status }).bind closing).run (scripted uid now) (script, s) =
          (o, rest, s.withStatus r status) ∧
        (o = .returned (.ok ()) ∨ Interrupts script o)) ∨
      ∃ o rest, ((updateRecordStatus { r with status }).bind closing).run (scripted uid now)
          (script, s) = (o, rest, s) ∧
        Interrupts script o ∧ ∀ f tail, f.isMade → script ≠ f :: tail := by
  rcases run_note_cases uid now hs hr status closing script with ⟨rfl, hrun⟩ |
    ⟨e, rest, rfl, hrun⟩ | ⟨e, rest, rfl, hrun⟩ | ⟨rest, rfl, hrun⟩
  · exact .inr ⟨_, _, hrun, .inl rfl, fun f tail _ h => by cases h⟩
  · refine .inr ⟨_, _, hrun, .inr ⟨e, .inl List.mem_cons_self, rfl⟩, ?_⟩
    rintro f tail hf ⟨⟩
    cases hf
  · exact .inl ⟨_, rest, _, rfl, rfl, hrun, .inr (.inr ⟨e, .inr List.mem_cons_self, rfl⟩)⟩
  · exact .inl ⟨_, rest, _, rfl, rfl, hrun, .inl rfl⟩

/-- The report of a transient failure returns it, however the write goes. -/
theorem run_fail_transient (uid now : String) (hs : s.Sound) {key : RecordKey}
    (hr : s.read? Release key = some r) (e : TransientError) (script : List Fate) :
    (∃ rest, (fail now r (.store e.1)).run (scripted uid now) (script, s) =
        (.returned (.error (.store e.1)), rest, s.withStatus r (r.status.setRetrying now
          (ReconcileError.store e.1).message r.metadata.currentGeneration))) ∨
      ∃ o rest, (fail now r (.store e.1)).run (scripted uid now) (script, s) = (o, rest, s) ∧
        (o = .crashed ∨ o = .returned (.error (.store e.1))) := by
  rw [fail_eq_of_transient]
  rcases run_note_cases uid now hs hr (r.status.setRetrying now (ReconcileError.store e.1).message
    r.metadata.currentGeneration) (fun _ => Program.done (Except.error (ReconcileError.store e.1)))
      script with ⟨rfl, hrun⟩ | ⟨e', rest, rfl, hrun⟩ | ⟨e', rest, rfl, hrun⟩ | ⟨rest, rfl, hrun⟩
  · exact .inr ⟨_, _, hrun, .inl rfl⟩
  · exact .inr ⟨_, _, hrun, .inr rfl⟩
  · exact .inl ⟨rest, hrun⟩
  · exact .inl ⟨rest, hrun⟩

/-- Marking an open Release writes the status, or the attempt is interrupted before that. -/
theorem run_finish (uid now : String) (hs : s.Sound) {key : RecordKey}
    (hr : s.read? Release key = some r) (hopen : r.isFinished = false) (run : RecordKey)
    (script : List Fate) :
    ∃ status, r.status.markTriggered now run r.metadata.currentGeneration = (true, status) ∧
      ∃ o rest s', (finish now r run).run (scripted uid now) (script, s) = (o, rest, s') ∧
        (s' = s.withStatus r status ∧ (o = .returned (.ok ()) ∨ Interrupts script o) ∨
          s' = s ∧ Interrupts script o) := by
  obtain ⟨status, hstatus⟩ := exists_marked hopen now run
  refine ⟨status, hstatus, ?_⟩
  rw [finish_eq hstatus]
  rcases run_closing uid now hs hr status script with
    ⟨f, rest, o, -, -, hclosing, ho⟩ | ⟨o, rest, hclosing, ho, -⟩
  · exact ⟨o, rest, _, hclosing, .inl ⟨rfl, ho⟩⟩
  · exact ⟨o, rest, _, hclosing, .inr ⟨rfl, ho⟩⟩

/-- An attempt on a Release that is not finished goes on to the verdict. -/
theorem run_attempt_of_read {policy : AmbiguityPolicy} {now uid : String} {key : RecordKey}
    (hr : s.read? Release key = some r) (hopen : r.isFinished = false) (rest : List Fate) :
    (attempt policy now key).run (scripted uid now) (.answered :: rest, s) =
      ((verdict policy r).bind (report now r)).run (scripted uid now) (rest, s) := by
  obtain ⟨stored, hget, htyped⟩ := read?_eq_some.mp hr
  rw [attempt_eq, Chain.run_getRecord_answered, hget]
  simp only [Option.elim, htyped, Except.map, hopen, Bool.false_eq_true, if_false]

/-- Verdict and report under a script. -/
theorem of_verdict {a : Attempt} (hs : s.Sound) (hr : a.Finds s r) {script : List Fate}
    (hscript : a.script = .answered :: script) :
    ∃ o rest s', ((verdict a.policy r).bind (report a.now r)).run (scripted a.uid a.now)
      (script, s) = (o, rest, s') ∧ Aftermath a s o s' := by
  have hsub : script ⊆ a.script := hscript ▸ List.subset_cons_self _ _
  have hsuffix {before rest : List Fate} (h : script = before ++ rest) : rest ⊆ a.script := by
    rw [h] at hsub
    exact fun f hf => hsub (List.mem_append_right _ hf)
  obtain ⟨o, rest, s', hrun, hdecides⟩ :=
    decides_verdict a.policy a.uid a.now s r script
  rw [run_bind, hrun]
  cases hdecides with
  | cut => exact ⟨_, rest, s, rfl, .interrupted (.inl rfl)⟩
  | @failed e rest he hrest =>
      have hfails := he.mono hsub
      rcases run_fail_transient a.uid a.now hs hr.read e rest with
        ⟨rest', hreport⟩ | ⟨o, rest', hreport, rfl | rfl⟩
      · exact ⟨_, rest', _, hreport, .retried hr hfails⟩
      · exact ⟨_, rest', s, hreport, .interrupted (.inl rfl)⟩
      · exact ⟨_, rest', s, hreport, .interrupted (.inr ⟨e, hfails, rfl⟩)⟩
  -- a settled error: one write of the status is left
  | @refused e rest hanswered hvalue hfinal =>
      have hrest := hsuffix hanswered
      show ∃ o rest' s', (fail a.now r e).run (scripted a.uid a.now) (rest, s) = (o, rest', s') ∧ _
      rw [fail_eq_of_settled hfinal]
      rcases run_closing a.uid a.now hs hr.read
        (r.status.setError a.now e.message r.metadata.currentGeneration) rest with
          ⟨f, tail, o, hf, rfl, hclosing, ho⟩ | ⟨o, rest', hclosing, ho, -⟩
      · refine ⟨o, tail, _, hclosing, .settled ⟨hr, hvalue, hfinal, f, tail, hf, ?_⟩
          (ho.imp_right fun ho => ho.mono hrest)⟩
        rw [hscript, hanswered]
        rfl
      · exact ⟨o, rest', s, hclosing, .interrupted (ho.mono hrest)⟩
  -- the run is there; the status names it if the last write is made
  | @created chain rest hanswered hchain htarget hfree =>
      have hlaunches : a.Launches s r chain :=
        ⟨hr, hchain, htarget, hfree, .answered, rest, rfl, by rw [hscript, hanswered]; rfl⟩
      have hrest : rest ⊆ a.script :=
        List.Subset.trans (List.subset_cons_self _ _) (hsuffix hanswered)
      obtain ⟨hs', hread⟩ := hlaunches.read_withRun hs
      obtain ⟨status, hstatus, o, rest', s'', hfinish, ⟨rfl, ho⟩ | ⟨rfl, ho⟩⟩ :=
        run_finish a.uid a.now hs' hread hr.unfinished (runKey chain r) rest
      · exact ⟨o, rest', _, hfinish, .triggered hlaunches hstatus
          (ho.imp_right fun ho => ho.mono hrest)⟩
      · exact ⟨o, rest', _, hfinish, .launched hlaunches (ho.mono hrest)⟩
  -- the run is there, but the attempt takes its creation for failed
  | @mislaid chain e rest hanswered hchain htarget hfree =>
      have hlaunches : a.Launches s r chain :=
        ⟨hr, hchain, htarget, hfree, .lost e, rest, rfl, by rw [hscript, hanswered]; rfl⟩
      have hfails : Fate.FailsWith e a.script := .inr (hsuffix hanswered List.mem_cons_self)
      obtain ⟨hs', hread⟩ := hlaunches.read_withRun hs
      rcases run_fail_transient a.uid a.now hs' hread e rest with
        ⟨rest', hreport⟩ | ⟨o, rest', hreport, rfl | rfl⟩
      · exact ⟨_, rest', _, hreport, .mislaid hlaunches hfails⟩
      · exact ⟨_, rest', _, hreport, .launched hlaunches (.inl rfl)⟩
      · exact ⟨_, rest', _, hreport, .launched hlaunches (.inr ⟨e, hfails, rfl⟩)⟩
  | @adopted chain rest run u hrest hchain hstored hu howned =>
      have hrest : rest ⊆ a.script := List.Subset.trans hrest hsub
      obtain ⟨status, hstatus, o, rest', s'', hfinish, ⟨rfl, ho⟩ | ⟨rfl, ho⟩⟩ :=
        run_finish a.uid a.now hs hr.read hr.unfinished (runKey chain r) rest
      · exact ⟨o, rest', _, hfinish, .adopted ⟨hr, hchain, hstored, hu, howned⟩ hstatus
          (ho.imp_right fun ho => ho.mono hrest)⟩
      · exact ⟨o, rest', _, hfinish, .interrupted (ho.mono hrest)⟩

end Aftermath

/-- Every attempt on a sound store ends in one of these ways. -/
theorem Attempt.aftermath (a : Attempt) {s : Store} (hs : s.Sound) :
    Aftermath a s (a.run s).1 (a.run s).2 := by
  unfold Attempt.run
  rcases hscript : a.script with - | ⟨- | e | e, rest⟩
  · rw [attempt_eq, Chain.getRecord_eq]
    exact .interrupted (.inl rfl)
  · rcases hget : s.get? (Record.kind Release) a.key with - | stored
    · rw [attempt_eq, Chain.run_getRecord_answered, hget]
      refine .idle ?_
      intro r hr
      obtain ⟨stored, hstored, -⟩ := read?_eq_some.mp hr
      rw [hget] at hstored
      cases hstored
    · rcases htyped : (stored.typed : Except StoreError Release) with e | r
      · rw [attempt_eq, Chain.run_getRecord_answered, hget, Option.elim_some, htyped]
        exact .unreadable hget htyped
      · have hread : s.read? Release a.key = some r := read?_eq_some.mpr ⟨stored, hget, htyped⟩
        cases hopen : r.isFinished with
        | true =>
            rw [attempt_eq, Chain.run_getRecord_answered, hget, Option.elim_some, htyped]
            simp only [Except.map, hopen, if_true]
            refine .idle ?_
            intro r' hr'
            rw [hread] at hr'
            exact Option.some.inj hr' ▸ hopen
        | false =>
            rw [Aftermath.run_attempt_of_read hread hopen]
            obtain ⟨o, rest', s', hrun, hafter⟩ :=
              Aftermath.of_verdict hs ⟨hread, hopen⟩ hscript
            rw [hrun]
            exact hafter
  · rw [attempt_eq, Chain.getRecord_eq]
    refine .interrupted (.inr ⟨e, .inl ?_, rfl⟩)
    rw [hscript]
    exact List.mem_cons_self
  · rw [attempt_eq, Chain.getRecord_eq]
    refine .interrupted (.inr ⟨e, .inr ?_, rfl⟩)
    rw [hscript]
    exact List.mem_cons_self

/-! ## When they happen -/

/-- A verdict that is an error leaves the store alone. -/
theorem verdict_eval_snd {policy : AmbiguityPolicy} {uid now : String} {s : Store} {r : Release}
    {e : ReconcileError} (h : ((verdict policy r).eval uid now s).1 = .error e) :
    ((verdict policy r).eval uid now s).2 = s := by
  have hanswered := run_of_answered uid now (verdict policy r) s []
  obtain ⟨o, rest, s', hrun, hdecides⟩ := decides_verdict policy uid now s r
    (List.replicate ((verdict policy r).calls uid now s) .answered ++ [])
  rw [hanswered, h, Prod.mk.injEq, Prod.mk.injEq] at hrun
  obtain ⟨rfl, -, hs'⟩ := hrun
  rw [hs']
  -- a script of answers neither fails a call nor loses an answer
  cases hdecides with
  | failed he => exact absurd (List.append_nil _ ▸ he) (Fate.not_failsWith_replicate _)
  | refused => rfl
  | @mislaid chain e rest hscript =>
      have hmem :
          FateOf.lost e ∈ List.replicate ((verdict policy r).calls uid now s) .answered := by
        rw [← List.append_nil (List.replicate _ _), hscript]
        exact List.mem_append_right _ List.mem_cons_self
      cases List.eq_of_mem_replicate hmem

/-- The run is created; the status is written too, or not any more. -/
theorem Attempt.Launches.run_snd {a : Attempt} {s : Store} {r : Release} {chain : Chain}
    (h : a.Launches s r chain) (hs : s.Sound) :
    (a.run s).2 = s.withRun a.uid a.now chain r ∨
      ∃ status, (a.run s).2 = (s.withRun a.uid a.now chain r).withStatus r status := by
  obtain ⟨f, rest, hf, hscript⟩ := h.made
  obtain ⟨v, hverdict, hv⟩ :=
    run_verdict_of_free a.uid a.now h.resolves h.hasTarget h.free hf rest
  obtain ⟨hs', hread⟩ := h.read_withRun hs
  -- one answer reads the Release, three follow the chain, the next call creates the run
  have hrun : (attempt a.policy a.now a.key).run (scripted a.uid a.now) (a.script, s) =
      (report a.now r v).run (scripted a.uid a.now) (rest, s.withRun a.uid a.now chain r) := by
    rw [hscript]
    show (attempt a.policy a.now a.key).run (scripted a.uid a.now)
      (.answered :: (List.replicate 3 .answered ++ f :: rest), s) = _
    rw [Aftermath.run_attempt_of_read h.read h.unfinished, run_bind, hverdict]
  unfold Attempt.run
  rw [hrun]
  rcases hv with rfl | ⟨e, rfl⟩
  · obtain ⟨status, -, o, rest', s', hfinish, ⟨rfl, -⟩ | ⟨rfl, -⟩⟩ :=
      Aftermath.run_finish a.uid a.now hs' hread h.unfinished (runKey chain r) rest
    · rw [report, hfinish]
      exact .inr ⟨status, rfl⟩
    · rw [report, hfinish]
      exact .inl rfl
  · unfold report
    rcases Aftermath.run_fail_transient a.uid a.now hs' hread e rest
      with ⟨rest', hreport⟩ | ⟨o, rest', hreport, -⟩
    · rw [hreport]
      exact .inr ⟨_, rfl⟩
    · rw [hreport]
      exact .inl rfl

/-- The settled error is written. -/
theorem Attempt.Settles.run_snd {a : Attempt} {s : Store} {r : Release} {e : ReconcileError}
    (h : a.Settles s r e) (hs : s.Sound) : (a.run s).2 =
      s.withStatus r (r.status.setError a.now e.message r.metadata.currentGeneration) := by
  obtain ⟨f, rest, hf, hscript⟩ := h.made
  have hverdict := run_of_answered a.uid a.now (verdict a.policy r) s (f :: rest)
  rw [h.refused, verdict_eval_snd h.refused] at hverdict
  unfold Attempt.run
  rw [hscript, List.replicate_succ, List.cons_append,
    Aftermath.run_attempt_of_read h.read h.unfinished, run_bind, hverdict]
  show ((fail a.now r e).run (scripted a.uid a.now) (f :: rest, s)).2.2 = _
  rw [Aftermath.fail_eq_of_settled h.final]
  rcases Aftermath.run_closing a.uid a.now hs h.read
    (r.status.setError a.now e.message r.metadata.currentGeneration) (f :: rest) with
      ⟨f', tail, o, -, -, hclosing, -⟩ | ⟨o, rest', -, -, hnone⟩
  · rw [hclosing]
  · exact absurd rfl (hnone f rest hf)

end Reconcile

end ReleaseControl
