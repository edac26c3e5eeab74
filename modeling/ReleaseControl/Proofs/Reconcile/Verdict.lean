import ReleaseControl.Proofs.Reconcile.Chain
import ReleaseControl.Reconcile.Attempt

/-! # Verdict and report

An attempt reads its Release, comes to a verdict about it and reports it (`attempt_eq`). The
verdict is the run to mark the Release with, which was created or adopted, or an error
(`Decides`); the report is one write of the status. A run is created only for a complete chain
whose slot is free, and a settled error is found only when every call was answered. -/

namespace ReleaseControl

open Program Store

namespace Reconcile

/-! ## Verdict and report -/

/-- What an attempt decides about a Release: the run to mark it with, or an error. -/
def verdict (policy : AmbiguityPolicy) (r : Release) :
    Program (Except ReconcileError RecordKey) := do
  match ← (Chain.resolve policy r).run with
  | .error e => return .error e
  | .ok chain => startOrAdopt chain r

/-- What it writes about it. -/
def report (now : String) (r : Release) :
    Except ReconcileError RecordKey → Program (Except ReconcileError Unit)
  | .error e => fail now r e
  | .ok run => finish now r run

theorem attempt_eq (policy : AmbiguityPolicy) (now : String) (key : RecordKey) :
    attempt policy now key = (getRecord Release key).bind fun found => match found with
      | .error e => .done (.error (.store e))
      | .ok none => .done (.ok ())
      | .ok (some r) =>
        if r.isFinished then .done (.ok ()) else (verdict policy r).bind (report now r) := by
  simp only [attempt, bind_eq]
  congr 1
  funext found
  rcases found with e | _ | r
  · rfl
  · rfl
  · by_cases hfinished : r.isFinished
    · simp [hfinished]
    · simp only [hfinished, verdict, bind_eq, bind_bind, Bool.false_eq_true, if_false]
      congr 1
      funext resolved
      cases resolved <;> rfl

/-! ## Creating and adopting -/

/-- The run of a Release whose chain is complete. -/
abbrev runFor (chain : Chain) (r : Release) : PipelineRun :=
  .forRelease chain.strategy chain.link.spec.target r

/-- Its key. -/
def runKey (chain : Chain) (r : Release) : RecordKey :=
  ⟨chain.link.spec.target, PipelineRun.nameFor r⟩

end Reconcile

/-- The store with the run of a Release created. -/
def Store.withRun (uid now : String) (chain : Chain) (r : Release) (s : Store) : Store :=
  let run := Reconcile.runFor chain r
  s.accept (.created uid now (toString s.nextVersion) PipelineRun.kind run.toJson run.metadata)

namespace Reconcile

variable {policy : AmbiguityPolicy} {uid now : String} {s : Store} {chain : Chain} {r : Release}

/-- How a program that decides about a Release can end; `n` is the number of calls before the
creation. -/
inductive Decides (policy : AmbiguityPolicy) (uid now : String) (s : Store) (r : Release)
    (p : Program (Except ReconcileError RecordKey)) (n : Nat) (script : List Fate) :
    Outcome (Except ReconcileError RecordKey) → List Fate → Store → Prop where
  | cut (rest : List Fate) : Decides policy uid now s r p n script .crashed rest s
  | failed {e : TransientError} {rest : List Fate} (he : Fate.FailsWith e script)
      (hrest : rest ⊆ script) :
      Decides policy uid now s r p n script (.returned (.error (.store e.1))) rest s
  | refused {e : ReconcileError} {rest : List Fate}
      (hscript : script = List.replicate (p.calls uid now s) .answered ++ rest)
      (hvalue : (p.eval uid now s).1 = .error e) (hsettled : e.isRetryable = false) :
      Decides policy uid now s r p n script (.returned (.error e)) rest s
  | created {chain : Chain} {rest : List Fate}
      (hscript : script = List.replicate n .answered ++ .answered :: rest)
      (hchain : (Chain.resolve policy r).on s = .ok chain) (hspace : chain.link.spec.target ≠ "")
      (hfree : s.get? PipelineRun.kind (runKey chain r) = none) :
      Decides policy uid now s r p n script (.returned (.ok (runKey chain r))) rest
        (s.withRun uid now chain r)
  | mislaid {chain : Chain} {e : TransientError} {rest : List Fate}
      (hscript : script = List.replicate n .answered ++ .lost e :: rest)
      (hchain : (Chain.resolve policy r).on s = .ok chain) (hspace : chain.link.spec.target ≠ "")
      (hfree : s.get? PipelineRun.kind (runKey chain r) = none) :
      Decides policy uid now s r p n script (.returned (.error (.store e.1))) rest
        (s.withRun uid now chain r)
  | adopted {chain : Chain} {rest : List Fate} {run : PipelineRun} {u : String}
      (hrest : rest ⊆ script) (hchain : (Chain.resolve policy r).on s = .ok chain)
      (hrun : s.read? PipelineRun (runKey chain r) = some run) (hu : r.metadata.uid = some u)
      (howned : Trigger.isOwnedBy u run) :
      Decides policy uid now s r p n script (.returned (.ok (runKey chain r))) rest s

/-- What follows the creation of a run: a run in the way is looked at. -/
def afterCreation (chain : Chain) (r : Release) :
    Except StoreError PipelineRun → Program (Except ReconcileError RecordKey)
  | .ok _ => .done (.ok (runKey chain r))
  | .error (.alreadyExists ..) =>
    (Trigger.findOwned (runKey chain r) r).bind fun found => match found with
      | .ok (some _) => .done (.ok (runKey chain r))
      | .ok none => .done (.error (.createConflict PipelineRun.kind (runKey chain r).text))
      | .error e => .done (.error e)
  | .error e => .done (.error (.store e))

theorem startOrAdopt_eq (chain : Chain) (r : Release) :
    startOrAdopt chain r = (createRecord (runFor chain r)).bind (afterCreation chain r) := by
  simp only [startOrAdopt, Trigger.start, bind_eq, bind_bind]
  congr 1
  funext created
  rcases created with e | run
  · cases e <;> rfl
  · rfl

theorem afterCreation_transient (e : TransientError) :
    afterCreation chain r (.error e.1) = .done (.error (.store e.1)) := by
  obtain ⟨e, he⟩ := e
  cases e <;> first | rfl | cases he

theorem findOwned_eq {key : RecordKey} {u : String} (hu : r.metadata.uid = some u) :
    Trigger.findOwned key r = (getRecord PipelineRun key).bind fun found =>
      .done ((found.map (·.filter (Trigger.isOwnedBy u))).mapError .store) := by
  simp only [Trigger.findOwned, hu, bind_eq]
  congr 1
  funext found
  cases found <;> rfl

theorem givesUp_findOwned (key : RecordKey) (r : Release) :
    GivesUp (Trigger.findOwned key r) := by
  cases hu : r.metadata.uid with
  | none =>
      unfold Trigger.findOwned
      rw [hu]
      exact givesUp_ok none
  | some u =>
      rw [findOwned_eq hu, Chain.getRecord_eq]
      refine .call rfl (fun e => rfl) ?_
      intro found
      refine .done _ ?_
      intro e he
      obtain ⟨cause, hcause, rfl⟩ := mapError_eq_error he
      exact Chain.isTransient_of_found (map_eq_error hcause)

/-- Unless the creation failed for now. -/
theorem givesUp_afterCreation {created : Except StoreError PipelineRun}
    (hcreated : ∀ e, created = .error e → e.isTransient = false) :
    GivesUp (afterCreation chain r created) := by
  unfold afterCreation
  split
  · exact givesUp_ok _
  · refine (givesUp_findOwned _ r).bind (fun e => rfl) ?_
    intro found
    cases found with
    | none => exact givesUp_error rfl
    | some run => exact givesUp_ok _
  · exact givesUp_error (hcreated _ rfl)

theorem findOwned_value {key : RecordKey} {u : String} (hu : r.metadata.uid = some u)
    (s : Store) : ((Trigger.findOwned key r).eval uid now s).1 =
      ((((s.get? PipelineRun.kind key).elim (.ok none) fun stored => stored.typed.map some).map
        (·.filter (Trigger.isOwnedBy u))).mapError .store) := by
  rw [findOwned_eq hu, Chain.getRecord_eq]
  rfl

theorem findOwned_of_owned {key : RecordKey} {u : String} {run : PipelineRun}
    (hu : r.metadata.uid = some u) (hrun : s.read? PipelineRun key = some run)
    (howned : Trigger.isOwnedBy u run) :
    ((Trigger.findOwned key r).eval uid now s).1 = .ok (some run) := by
  obtain ⟨stored, hget, htyped⟩ := read?_eq_some.mp hrun
  have hget' : s.get? PipelineRun.kind key = some stored := hget
  rw [findOwned_value hu, hget']
  simp [htyped, Except.map, Option.filter, howned]

/-- Looking at the run in the way fails for good, finds no run of the Release, or finds it. -/
theorem findOwned_eval (key : RecordKey) (r : Release) (s : Store) :
    (∃ e, ((Trigger.findOwned key r).eval uid now s).1 = .error e ∧ e.isRetryable = false) ∨
      ((Trigger.findOwned key r).eval uid now s).1 = .ok none ∨
      ∃ run u, ((Trigger.findOwned key r).eval uid now s).1 = .ok (some run) ∧
        s.read? PipelineRun key = some run ∧ r.metadata.uid = some u ∧
        Trigger.isOwnedBy u run := by
  cases hu : r.metadata.uid with
  | none =>
      unfold Trigger.findOwned
      rw [hu]
      exact .inr (.inl rfl)
  | some u =>
      cases hget : s.get? PipelineRun.kind key with
      | none =>
          rw [findOwned_value hu, hget]
          exact .inr (.inl rfl)
      | some stored =>
          cases htyped : (stored.typed : Except StoreError PipelineRun) with
          | error e =>
              refine .inl ⟨.store e, ?_, StoredRecord.isTransient_of_typed htyped⟩
              rw [findOwned_value hu, hget]
              simp [htyped, Except.map]
          | ok run =>
              have hrun : s.read? PipelineRun key = some run :=
                read?_eq_some.mpr ⟨stored, hget, htyped⟩
              by_cases howned : Trigger.isOwnedBy u run
              · exact .inr (.inr ⟨run, u, findOwned_of_owned hu hrun howned, hrun, rfl, howned⟩)
              · refine .inr (.inl ?_)
                rw [findOwned_value hu, hget]
                simp [htyped, Except.map, Option.filter, howned]

theorem afterCreation_eval (uid now : String) (chain : Chain) (r : Release) {e : StoreError}
    (he : e.isTransient = false) (s : Store) :
    (∃ e', ((afterCreation chain r (.error e)).eval uid now s).1 = .error e' ∧
        e'.isRetryable = false) ∨
      ∃ run u, ((afterCreation chain r (.error e)).eval uid now s).1 = .ok (runKey chain r) ∧
        s.read? PipelineRun (runKey chain r) = some run ∧ r.metadata.uid = some u ∧
        Trigger.isOwnedBy u run := by
  unfold afterCreation
  split
  · next h => cases h
  · rw [eval_bind]
    -- the slot is taken; what is in it decides
    rcases findOwned_eval (runKey chain r) r s with ⟨e', hvalue, hsettled⟩ | hvalue |
      ⟨run, u, hvalue, hrun, hu, howned⟩
    · rw [hvalue]
      exact .inl ⟨e', rfl, hsettled⟩
    · rw [hvalue]
      exact .inl ⟨_, rfl, rfl⟩
    · rw [hvalue]
      exact .inr ⟨run, u, rfl, hrun, hu, howned⟩
  · next h =>
      cases h
      exact .inl ⟨_, rfl, he⟩

/-! ## The verdict under a script -/

theorem createRecord_eq (run : PipelineRun) :
    createRecord run = (ask (.create PipelineRun.kind run.toJson)).bind fun answer =>
      .done (answer.bind StoredRecord.typed) := by
  simp only [createRecord, ask, bind_eq, bind_call, bind_done]
  congr 1
  funext answer
  cases answer <;> rfl

theorem createRecord_eval (uid now : String) (run : PipelineRun) (s : Store) :
    (createRecord run).eval uid now s =
      ((s.create uid now PipelineRun.kind run.toJson).1.bind StoredRecord.typed,
        (s.create uid now PipelineRun.kind run.toJson).2) := by
  rw [createRecord_eq]
  rfl

theorem createRecord_of_free (uid now : String) (hspace : chain.link.spec.target ≠ "")
    (hfree : s.get? PipelineRun.kind (runKey chain r) = none) :
    (createRecord (runFor chain r)).eval uid now s =
      (.ok ((runFor chain r).storedAs uid now (toString s.nextVersion)),
        s.withRun uid now chain r) := by
  have hnew : s.checkNew PipelineRun.kind (runFor chain r).toJson =
      .ok (runFor chain r).metadata := checkNew_run.mpr ⟨rfl, hspace, hfree⟩
  rw [createRecord_eval, create_of_checkNew hnew, Prod.mk.injEq]
  exact ⟨StoredRecord.typed_created_run uid now _ _, rfl⟩

/-- A creation that is answered succeeds or fails for good. -/
theorem createRecord_cases (uid now : String) (chain : Chain) (r : Release) (s : Store) :
    (chain.link.spec.target ≠ "" ∧ s.get? PipelineRun.kind (runKey chain r) = none ∧
        (createRecord (runFor chain r)).eval uid now s =
          (.ok ((runFor chain r).storedAs uid now (toString s.nextVersion)),
            s.withRun uid now chain r)) ∨
      ∃ e, e.isTransient = false ∧
        (createRecord (runFor chain r)).eval uid now s = (.error e, s) := by
  cases hnew : s.checkNew PipelineRun.kind (runFor chain r).toJson with
  | error e =>
      refine .inr ⟨e, isTransient_of_checkNew hnew, ?_⟩
      rw [createRecord_eval, create_of_error hnew]
      rfl
  | ok m =>
      obtain ⟨-, hspace, hfree⟩ := checkNew_run.mp hnew
      exact .inl ⟨hspace, hfree, createRecord_of_free uid now hspace hfree⟩

/-- What a program does before it decides puts its calls in front. -/
theorem Decides.prepend {p q : Program (Except ReconcileError RecordKey)} {m n : Nat}
    {script rest : List Fate} {o : Outcome (Except ReconcileError RecordKey)} {s' : Store}
    (h : Decides policy uid now s r p n script o rest s')
    (hcalls : q.calls uid now s = m + p.calls uid now s)
    (heval : (q.eval uid now s).1 = (p.eval uid now s).1) :
    Decides policy uid now s r q (m + n) (List.replicate m .answered ++ script) o rest s' := by
  cases h with
  | cut => exact .cut rest
  | failed he hrest =>
      exact .failed (he.mono (List.subset_append_right _ _)) fun f hf =>
        List.mem_append_right _ (hrest hf)
  | refused hscript hvalue hsettled =>
      refine .refused ?_ (heval.trans hvalue) hsettled
      rw [hscript, hcalls, ← List.replicate_append_replicate, List.append_assoc]
  | created hscript hchain hspace hfree =>
      refine .created ?_ hchain hspace hfree
      rw [hscript, ← List.replicate_append_replicate, List.append_assoc]
  | mislaid hscript hchain hspace hfree =>
      refine .mislaid ?_ hchain hspace hfree
      rw [hscript, ← List.replicate_append_replicate, List.append_assoc]
  | adopted hrest hchain hrun hu howned =>
      exact .adopted (fun f hf => List.mem_append_right _ (hrest hf)) hchain hrun hu howned

/-- What is done about a run depends on the answer to its creation. -/
theorem run_startOrAdopt_answered (chain : Chain) (r : Release) (rest : List Fate) (s : Store) :
    (startOrAdopt chain r).run (scripted uid now) (.answered :: rest, s) =
      (afterCreation chain r ((createRecord (runFor chain r)).eval uid now s).1).run
        (scripted uid now) (rest, ((createRecord (runFor chain r)).eval uid now s).2) := by
  rw [startOrAdopt_eq, createRecord_eq]
  rfl

/-- A creation whose answer is lost ends the attempt to start a run. -/
theorem run_startOrAdopt_lost (chain : Chain) (r : Release) (e : TransientError)
    (rest : List Fate) (s : Store) :
    (startOrAdopt chain r).run (scripted uid now) (.lost e :: rest, s) =
      (.returned (.error (.store e.1)), rest,
        ((createRecord (runFor chain r)).eval uid now s).2) := by
  rw [startOrAdopt_eq, createRecord_eq]
  show (afterCreation chain r (.error e.1)).run (scripted uid now) (rest, _) = _
  rw [afterCreation_transient]
  rfl

theorem decides_startOrAdopt (uid now : String) (hchain : (Chain.resolve policy r).on s = .ok chain)
    (script : List Fate) :
    ∃ o rest s', (startOrAdopt chain r).run (scripted uid now) (script, s) = (o, rest, s') ∧
      Decides policy uid now s r (startOrAdopt chain r) 0 script o rest s' := by
  have hcreate := startOrAdopt_eq chain r
  rcases script with - | ⟨- | e | e, rest⟩
  · refine ⟨.crashed, [], s, ?_, .cut []⟩
    rw [hcreate, createRecord_eq]
    rfl
  · -- the creation is answered
    rw [run_startOrAdopt_answered]
    rcases createRecord_cases uid now chain r s with ⟨hspace, hfree, heval⟩ |
      ⟨e, hsettled, heval⟩
    · rw [heval]
      exact ⟨_, rest, _, rfl, .created rfl hchain hspace hfree⟩
    · have hcalls : (startOrAdopt chain r).calls uid now s =
          1 + (afterCreation chain r (.error e)).calls uid now s := by
        rw [hcreate, calls_bind, heval, createRecord_eq]
        rfl
      have hvalue : ((startOrAdopt chain r).eval uid now s).1 =
          ((afterCreation chain r (.error e)).eval uid now s).1 := by
        rw [hcreate, eval_bind, heval]
      have hgives : GivesUp (afterCreation chain r (.error e)) := by
        apply givesUp_afterCreation
        rintro e' ⟨⟩
        exact hsettled
      rw [heval]
      -- looking at the run in the way only reads, so the script ends it or it comes to its value
      rcases hgives.run_cases uid now rest s with ⟨rest', rfl, hrun⟩ | ⟨rest', hrun⟩ |
        ⟨e', rest', he', hsub, hrun⟩
      · refine ⟨_, rest', s, hrun, ?_⟩
        rcases afterCreation_eval uid now chain r hsettled s with ⟨e', hfound, hsettled'⟩ |
          ⟨run, u, hfound, hread, hu, howned⟩
        · rw [hfound]
          refine .refused ?_ (hvalue.trans hfound) hsettled'
          rw [hcalls, ← List.replicate_append_replicate]
          rfl
        · rw [hfound]
          exact .adopted (fun f hf => List.mem_cons_of_mem _ (List.mem_append_right _ hf)) hchain
            hread hu howned
      · exact ⟨_, rest', s, hrun, .cut rest'⟩
      · exact ⟨_, rest', s, hrun, .failed (he'.mono (List.subset_cons_self _ _))
          (List.subset_cons_of_subset _ hsub)⟩
  · refine ⟨_, rest, s, ?_, .failed (e := e) (.inl List.mem_cons_self)
      (List.subset_cons_self _ _)⟩
    rw [hcreate, createRecord_eq]
    show (afterCreation chain r (.error e.1)).run (scripted uid now) (rest, s) = _
    rw [afterCreation_transient]
    rfl
  · rw [run_startOrAdopt_lost]
    rcases createRecord_cases uid now chain r s with ⟨hspace, hfree, heval⟩ | ⟨e', -, heval⟩
    · rw [heval]
      exact ⟨_, rest, _, rfl, .mislaid rfl hchain hspace hfree⟩
    · rw [heval]
      exact ⟨_, rest, _, rfl, .failed (.inr List.mem_cons_self) (List.subset_cons_self _ _)⟩

theorem decides_verdict (policy : AmbiguityPolicy) (uid now : String) (s : Store) (r : Release)
    (script : List Fate) :
    ∃ o rest s', (verdict policy r).run (scripted uid now) (script, s) = (o, rest, s') ∧
      Decides policy uid now s r (verdict policy r) 3 script o rest s' := by
  have hgives := Chain.givesUp_resolve policy r
  have hon : ((Chain.resolve policy r).run.eval uid now s).1 = (Chain.resolve policy r).on s :=
    hgives.eval_fst uid now "" "" s
  simp only [verdict, bind_eq, pure_eq, run_bind]
  rcases hgives.run_cases uid now script s with ⟨rest, rfl, hrun⟩ |
    ⟨rest, hrun⟩ | ⟨e, rest, he, hsub, hrun⟩
  · rw [hrun, hon]
    cases hchain : (Chain.resolve policy r).on s with
    | error e =>
        refine ⟨_, rest, s, rfl, .refused ?_ ?_ (Chain.isRetryable_of_resolve hchain)⟩
        · simp only [calls_bind, hon, hchain]
          rfl
        · simp only [eval_bind, hon, hchain]
          rfl
    -- the chain took three calls, which stand before those of the creation
    | ok chain =>
        obtain ⟨o, rest', s', hstart, hdecides⟩ :=
          decides_startOrAdopt uid now hchain rest
        have hthree : (Chain.resolve policy r).run.calls uid now s = 3 :=
          (hgives.calls_eq uid now "" "" s).trans (Chain.calls_resolve hchain)
        refine ⟨o, rest', s', hstart, ?_⟩
        rw [hthree]
        refine hdecides.prepend (m := 3) ?_ ?_
        · simp only [calls_bind, hon, hchain, hthree, hgives.eval_snd]
        · simp only [eval_bind, hon, hchain, hgives.eval_snd]
  · exact ⟨_, rest, s, by rw [hrun], .cut rest⟩
  · exact ⟨_, rest, s, by rw [hrun]; rfl, .failed he hsub⟩

/-- A complete chain takes three calls to follow. -/
theorem run_verdict_of_chain (hchain : (Chain.resolve policy r).on s = .ok chain)
    (rest : List Fate) :
    (verdict policy r).run (scripted uid now) (List.replicate 3 .answered ++ rest, s) =
      (startOrAdopt chain r).run (scripted uid now) (rest, s) := by
  have hgives := Chain.givesUp_resolve policy r
  have hon : ((Chain.resolve policy r).run.eval uid now s).1 = .ok chain :=
    (hgives.eval_fst uid now "" "" s).trans hchain
  have hthree : (Chain.resolve policy r).run.calls uid now s = 3 :=
    (hgives.calls_eq uid now "" "" s).trans (Chain.calls_resolve hchain)
  have hrun := run_of_answered uid now (Chain.resolve policy r).run s rest
  rw [hthree, hon, hgives.eval_snd] at hrun
  simp only [verdict, bind_eq, pure_eq, run_bind, hrun]

/-- If the slot is free, the fourth call creates the run. -/
theorem run_verdict_of_free (uid now : String) (hchain : (Chain.resolve policy r).on s = .ok chain)
    (hspace : chain.link.spec.target ≠ "")
    (hfree : s.get? PipelineRun.kind (runKey chain r) = none) {f : Fate} (hf : f.isMade)
    (rest : List Fate) :
    ∃ v, (verdict policy r).run (scripted uid now) (List.replicate 3 .answered ++ f :: rest, s) =
        (.returned v, rest, s.withRun uid now chain r) ∧
      (v = .ok (runKey chain r) ∨ ∃ e : TransientError, v = .error (.store e.1)) := by
  have hcreate := createRecord_of_free uid now hspace hfree
  rw [run_verdict_of_chain hchain]
  cases f with
  | answered =>
      refine ⟨_, ?_, .inl rfl⟩
      rw [run_startOrAdopt_answered, hcreate]
      rfl
  | failed e => cases hf
  | lost e =>
      refine ⟨_, ?_, .inr ⟨e, rfl⟩⟩
      rw [run_startOrAdopt_lost, hcreate]

/-- A complete chain whose slot is free. -/
theorem verdict_of_free (hchain : (Chain.resolve policy r).on s = .ok chain)
    (hspace : chain.link.spec.target ≠ "")
    (hfree : s.get? PipelineRun.kind (runKey chain r) = none) :
    ((verdict policy r).eval uid now s).1 = .ok (runKey chain r) := by
  have hgives := Chain.givesUp_resolve policy r
  have hon : ((Chain.resolve policy r).run.eval uid now s).1 = .ok chain :=
    (hgives.eval_fst uid now "" "" s).trans hchain
  have hcreate := createRecord_of_free uid now hspace hfree
  simp only [verdict, bind_eq, pure_eq, eval_bind, hon, hgives.eval_snd, startOrAdopt_eq, hcreate]
  rfl

/-- A complete chain whose slot holds the run of the Release. -/
theorem verdict_of_owned (hs : s.Sound) (hchain : (Chain.resolve policy r).on s = .ok chain)
    {u : String} {run : PipelineRun} (hu : r.metadata.uid = some u)
    (hrun : s.read? PipelineRun (runKey chain r) = some run) (howned : Trigger.isOwnedBy u run) :
    ((verdict policy r).eval uid now s).1 = .ok (runKey chain r) := by
  have hgives := Chain.givesUp_resolve policy r
  have hon : ((Chain.resolve policy r).run.eval uid now s).1 = .ok chain :=
    (hgives.eval_fst uid now "" "" s).trans hchain
  have htaken : s.checkNew PipelineRun.kind (runFor chain r).toJson =
      .error (.alreadyExists PipelineRun.kind (runFor chain r).metadata.key.text) := by
    obtain ⟨stored, hget, -⟩ := read?_eq_some.mp hrun
    refine checkNew_of_taken (PipelineRun.recordKind_toJson _)
      (PipelineRun.recordMetadata_forRelease (Chain.target_ne_empty hs hchain))
      (PipelineRun.check_nameFor r) ?_
    exact Option.isSome_of_eq_some hget
  have hcreate : (createRecord (runFor chain r)).eval uid now s =
      (.error (.alreadyExists PipelineRun.kind (runFor chain r).metadata.key.text), s) := by
    rw [createRecord_eval, create_of_error htaken]
    rfl
  simp only [verdict, bind_eq, pure_eq, eval_bind, hon, hgives.eval_snd, startOrAdopt_eq, hcreate,
    afterCreation, findOwned_of_owned hu hrun howned]
  rfl

/-! ## Reporting -/

theorem updateRecordStatus_eq (r : Release) :
    updateRecordStatus r = (ask (.updateStatus Release.kind r.toJson)).bind fun answer =>
      .done (answer.bind StoredRecord.typed) := by
  simp only [updateRecordStatus, ask, bind_eq, bind_call, bind_done]
  congr 1
  funext answer
  cases answer <;> rfl

/-- The status of a Release that was read is written when the call is answered. -/
theorem run_updateRecordStatus (hs : s.Sound) {key : RecordKey}
    (hr : s.read? Release key = some r) (status : ReleaseStatus) (rest : List Fate) :
    (updateRecordStatus { r with status }).run (scripted uid now) (.answered :: rest, s) =
      (.returned (.ok (r.noted (toString s.nextVersion) status)), rest,
        s.withStatus r status) := by
  obtain ⟨stored, hget, htyped⟩ := read?_eq_some.mp hr
  have hupdate := hs.updateStatus_release hget htyped status
  have hwritten := (hs.accounted_release hget htyped).typed_withStatus htyped
    (toString s.nextVersion) status
  rw [updateRecordStatus_eq]
  show (Outcome.returned ((s.updateStatus Release.kind { r with status }.toJson).1.bind _), rest,
    (s.updateStatus Release.kind { r with status }.toJson).2) = _
  rw [hupdate]
  refine Prod.ext (congrArg Outcome.returned hwritten) (Prod.ext rfl ?_)
  show _ = s.withStatus r status
  unfold withStatus
  rw [hupdate]

/-- Whatever a write of the status is followed by, it is cut off, fails, is done without an answer,
or is done. -/
theorem run_note_cases (uid now : String) (hs : s.Sound) {key : RecordKey}
    (hr : s.read? Release key = some r) (status : ReleaseStatus) {α : Type}
    (f : Except StoreError Release → Program α) (script : List Fate) :
    (script = [] ∧ ((updateRecordStatus { r with status }).bind f).run (scripted uid now)
        (script, s) = (.crashed, [], s)) ∨
      (∃ e rest, script = .failed e :: rest ∧
        ((updateRecordStatus { r with status }).bind f).run (scripted uid now) (script, s) =
          (f (.error e.1)).run (scripted uid now) (rest, s)) ∨
      (∃ e rest, script = .lost e :: rest ∧
        ((updateRecordStatus { r with status }).bind f).run (scripted uid now) (script, s) =
          (f (.error e.1)).run (scripted uid now) (rest, s.withStatus r status)) ∨
      ∃ rest, script = .answered :: rest ∧
        ((updateRecordStatus { r with status }).bind f).run (scripted uid now) (script, s) =
          (f (.ok (r.noted (toString s.nextVersion) status))).run (scripted uid now)
            (rest, s.withStatus r status) := by
  rcases script with - | ⟨- | e | e, rest⟩
  · refine .inl ⟨rfl, ?_⟩
    rw [updateRecordStatus_eq]
    rfl
  · refine .inr (.inr (.inr ⟨rest, rfl, ?_⟩))
    rw [run_bind, run_updateRecordStatus hs hr]
  · refine .inr (.inl ⟨e, rest, rfl, ?_⟩)
    rw [updateRecordStatus_eq]
    rfl
  · refine .inr (.inr (.inl ⟨e, rest, rfl, ?_⟩))
    rw [updateRecordStatus_eq]
    rfl

end Reconcile

end ReleaseControl
