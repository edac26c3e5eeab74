import ReleaseControl.Proofs.Reconcile.Verdict
import ReleaseControl.Proofs.Store.Answering

/-! # The parameters of a run

A run gets the parameters of its strategy and the standard ones, which name the Release and the
policy. The standard ones come last, and a look for a name finds the first; they are found all the
same because the strategy's own parameters of their names are left out
(`ReleaseStrategy.reserves`). Parameters of other names come through in number, order and value,
however often a name is repeated (`PipelineRun.Shielded`). A run that was started is stored with
these parameters. -/

namespace ReleaseControl

open Program PipelineRun

/-- Whether the runs of a strategy have a standard parameter of the name. -/
def ReleaseStrategy.reserves (strategy : ReleaseStrategy) (name : String) : Bool :=
  name == releaseParam || name == policyParam && strategy.spec.policy.isSome

/-- A parameter of a strategy as it is handed to a run. -/
def Param.handed (p : Param) : PipelineRunParam := ⟨p.name, p.resolved⟩

namespace PipelineRun

variable (strategy : ReleaseStrategy) (r : Release)

/-- The run has the standard parameters once each and with their own values. Of the others it has
those that the strategy declares, in its order, and it has no more. -/
structure Shielded (run : PipelineRun) : Prop where
  release : run.spec.params.filter (·.name = releaseParam) = [⟨releaseParam, .single r.key.text⟩]
  param?_release : run.param? releaseParam = some (.single r.key.text)
  policy : ∀ policy, strategy.spec.policy = some policy →
    run.spec.params.filter (·.name = policyParam) = [⟨policyParam, .single policy⟩] ∧
      run.param? policyParam = some (.single policy)
  named : ∀ name, strategy.reserves name = false →
    run.spec.params.filter (·.name = name) =
      (strategy.spec.params.filter (·.name = name)).map Param.handed
  others : run.spec.params.filter (fun p => !strategy.reserves p.name) =
    (strategy.spec.params.filter fun p => !strategy.reserves p.name).map Param.handed
  length : run.spec.params.length =
    strategy.spec.params.countP (fun p => !strategy.reserves p.name) + 1 +
      strategy.spec.policy.toList.length

/-! ## Building a run -/

theorem any_standardParams (name : String) :
    (standardParams strategy r).any (·.name == name) = strategy.reserves name := by
  unfold standardParams ReleaseStrategy.reserves
  rw [Bool.beq_comm, Bool.beq_comm (b := policyParam)]
  cases strategy.spec.policy <;> simp

theorem paramsFor_eq : paramsFor strategy r =
    (strategy.spec.params.filter fun p => !strategy.reserves p.name).map Param.handed ++
      standardParams strategy r := by
  simp only [paramsFor, any_standardParams]
  rfl

/-- The parameters whose names are wanted. -/
theorem filter_paramsFor (wanted : String → Bool) :
    (paramsFor strategy r).filter (fun p => wanted p.name) =
      (strategy.spec.params.filter fun p => !strategy.reserves p.name && wanted p.name).map
          Param.handed ++
        (standardParams strategy r).filter fun p => wanted p.name := by
  rw [paramsFor_eq, List.filter_append, List.filter_map, List.filter_filter]
  simp only [Function.comp_def, Param.handed, Bool.and_comm]

/-- A wanted name that is reserved is that of standard parameters only. -/
theorem filter_paramsFor_reserved {name : String} (h : strategy.reserves name) :
    (paramsFor strategy r).filter (·.name = name) =
      (standardParams strategy r).filter (·.name = name) := by
  rw [filter_paramsFor strategy r (· = name), List.filter_eq_nil_iff.mpr, List.map_nil,
    List.nil_append]
  rintro p - hp
  simp only [Bool.and_eq_true, decide_eq_true_eq, Bool.not_eq_true'] at hp
  rw [hp.2, h] at hp
  cases hp.1

/-- No standard parameter has a name that is not reserved. -/
theorem filter_standardParams (wanted : String → Bool)
    (h : ∀ name, wanted name → strategy.reserves name = false) :
    (standardParams strategy r).filter (fun p => wanted p.name) = [] := by
  rw [List.filter_eq_nil_iff]
  intro p hp hwanted
  have hreserved : strategy.reserves p.name := by
    rw [← any_standardParams strategy r, List.any_eq_true]
    exact ⟨p, hp, beq_self_eq_true p.name⟩
  rw [h p.name hwanted] at hreserved
  cases hreserved

/-- What is found for a name is the first of its parameters. -/
theorem param?_eq_head? (run : PipelineRun) (name : String) :
    run.param? name = ((run.spec.params.filter (·.name = name)).head?).map (·.value) := by
  rw [param?, List.head?_filter]
  rfl

theorem shielded_forRelease (workspace : String) :
    (forRelease strategy workspace r).Shielded strategy r := by
  have hparams : (forRelease strategy workspace r).spec.params = paramsFor strategy r := rfl
  have hrelease : (paramsFor strategy r).filter (·.name = releaseParam) =
      [⟨releaseParam, .single r.key.text⟩] := by
    rw [filter_paramsFor_reserved strategy r rfl, standardParams]
    cases strategy.spec.policy <;> rfl
  have hpolicy : ∀ policy, strategy.spec.policy = some policy →
      (paramsFor strategy r).filter (·.name = policyParam) = [⟨policyParam, .single policy⟩] := by
    intro policy hpolicy
    rw [filter_paramsFor_reserved strategy r (by rw [ReleaseStrategy.reserves, hpolicy]; rfl),
      standardParams, hpolicy]
    rfl
  refine ⟨hrelease, ?_, ?_, ?_, ?_, ?_⟩
  · rw [param?_eq_head?, hparams, hrelease]
    rfl
  · intro policy h
    refine ⟨hpolicy policy h, ?_⟩
    rw [param?_eq_head?, hparams, hpolicy policy h]
    rfl
  · intro name hname
    rw [hparams, filter_paramsFor strategy r (· = name),
      filter_standardParams strategy r (· = name), List.append_nil]
    · refine congrArg (List.map Param.handed) (List.filter_congr ?_)
      intro p _
      by_cases hp : p.name = name <;> simp [hp, hname]
    · intro other hother
      rwa [of_decide_eq_true hother]
  · rw [hparams, filter_paramsFor strategy r fun name => !strategy.reserves name,
      filter_standardParams strategy r fun name => !strategy.reserves name, List.append_nil]
    · simp only [Bool.and_self]
    · intro name hname
      simpa using hname
  · rw [hparams, paramsFor_eq, List.length_append, List.length_map, ← List.countP_eq_length_filter,
      standardParams, List.length_cons]
    cases strategy.spec.policy <;> simp [Nat.add_assoc]

/-- Only the parameters matter. -/
theorem Shielded.of_spec_eq {strategy : ReleaseStrategy} {r : Release} {run run' : PipelineRun}
    (h : run.Shielded strategy r) (hspec : run'.spec = run.spec) : run'.Shielded strategy r := by
  obtain ⟨metadata, spec⟩ := run'
  obtain rfl : spec = run.spec := hspec
  exact ⟨h.release, h.param?_release, h.policy, h.named, h.others, h.length⟩

end PipelineRun

/-! ## Starting a run -/

namespace Trigger

variable {σ : Type} (f : FailingStore σ) (strategy : ReleaseStrategy) (workspace : String)
  (r : Release)

/-- What the start of a run comes to when its creation is answered. -/
def started (run : PipelineRun) (answer : Except StoreError StoredRecord) :
    Except ReconcileError RecordKey :=
  match (answer.bind StoredRecord.typed : Except StoreError PipelineRun) with
  | .ok _ => .ok run.key
  | .error (.alreadyExists ..) => .error (.createConflict PipelineRun.kind run.key.text)
  | .error e => .error (.store e)

theorem start_eq : start strategy workspace r =
    .call (.create PipelineRun.kind (forRelease strategy workspace r).toJson) fun answer =>
      .done (started (forRelease strategy workspace r) answer) := by
  simp only [start, Reconcile.createRecord_eq, bind_eq, ask, bind_call, bind_done]
  refine congrArg (Program.call _) (funext fun answer => ?_)
  cases answer with
  | error e => cases e <;> rfl
  | ok stored =>
    simp only [started, Except.bind]
    generalize (stored.typed : Except StoreError PipelineRun) = created
    cases created with
    | ok run => rfl
    | error e => cases e <;> rfl

theorem started_error (run : PipelineRun) (e : StoreError) :
    ∃ cause, started run (.error e) = .error cause := by
  cases e <;> exact ⟨_, rfl⟩

/-- Of a store that makes the creation: it succeeds if the workspace has a name and the slot is
free, and the run is stored then. -/
theorem started_create (uid now : String) (s : Store) :
    (∃ cause, started (forRelease strategy workspace r) (s.create uid now PipelineRun.kind
        (forRelease strategy workspace r).toJson).1 = .error cause ∧
      ¬ (workspace ≠ "" ∧ s.get? PipelineRun.kind (forRelease strategy workspace r).key = none)) ∨
    started (forRelease strategy workspace r) (s.create uid now PipelineRun.kind
        (forRelease strategy workspace r).toJson).1 = .ok (forRelease strategy workspace r).key ∧
      (workspace ≠ "" ∧ s.get? PipelineRun.kind (forRelease strategy workspace r).key = none) ∧
      (s.create uid now PipelineRun.kind (forRelease strategy workspace r).toJson).2.read?
          PipelineRun (forRelease strategy workspace r).key =
        some ((forRelease strategy workspace r).storedAs uid now (toString s.nextVersion)) := by
  cases hnew : s.checkNew PipelineRun.kind (forRelease strategy workspace r).toJson with
  | error e =>
      obtain ⟨cause, hcause⟩ := started_error (forRelease strategy workspace r) e
      rw [Store.create_of_error hnew]
      refine .inl ⟨cause, hcause, fun hfree => ?_⟩
      cases hnew.symm.trans (Store.checkNew_run.mpr ⟨rfl, hfree⟩)
  | ok m =>
      obtain ⟨rfl, hfree⟩ := Store.checkNew_run.mp hnew
      have htyped := StoredRecord.typed_created_run uid now (toString s.nextVersion)
        (forRelease strategy workspace r)
      rw [Store.create_of_checkNew hnew]
      refine .inr ⟨?_, hfree, Store.read?_eq_some.mpr ⟨_, ?_, htyped⟩⟩
      · simp only [started, Except.bind, htyped]
      · rw [Store.get?_accept]
        exact if_pos rfl

/-- Whatever parameters a strategy declares, under whatever names and however often: a run that is
built from it has the parameter `release` once, with the key text of the Release, and if there is
a policy the parameter `policy` once, with the policy; these are what a look finds. Of every other
name it has the strategy's parameters, each with its value, all of them in the order of the
strategy, and no more. The same goes for the run that is read from the store after it was started,
on a store that may fail as it likes. A store that answers lets it be started if and only if the
workspace has a name and there is no run at its key. -/
theorem standard_params_shielded :
    (forRelease strategy workspace r).Shielded strategy r ∧
      (∀ w key w', (start strategy workspace r).run f.handler w = (.returned (.ok key), w') →
        key = (forRelease strategy workspace r).key ∧
          ∃ run, (f.store w').read? PipelineRun key = some run ∧ run.Shielded strategy r) ∧
      (f.Answers → ∀ w, (∃ w', (start strategy workspace r).run f.handler w =
          (.returned (.ok (forRelease strategy workspace r).key), w')) ↔
        workspace ≠ "" ∧
          (f.store w).get? PipelineRun.kind (forRelease strategy workspace r).key = none) := by
  have hbuilt := shielded_forRelease strategy r workspace
  rw [start_eq]
  refine ⟨hbuilt, ?_, ?_⟩
  · intro w key w' hrun
    rcases f.run_call_cases (.create PipelineRun.kind (forRelease strategy workspace r).toJson)
      (fun answer => .done (started (forRelease strategy workspace r) answer)) w with
      ⟨_, hcrashed, -⟩ | ⟨answer, w'', hanswered, -, hhandled⟩
    · cases hcrashed.symm.trans hrun
    · have hend : (Outcome.returned (started (forRelease strategy workspace r) answer), w'') =
          (.returned (.ok key), w') := hanswered.symm.trans hrun
      obtain ⟨hkey, rfl⟩ : started (forRelease strategy workspace r) answer = .ok key ∧
          w'' = w' := by simpa using hend
      rcases hhandled.returned_cases with ⟨e, rfl⟩ | ⟨uid, now, rfl, hstore⟩
      · obtain ⟨cause, hcause⟩ := started_error (forRelease strategy workspace r) e
        cases hcause.symm.trans hkey
      · rcases started_create strategy workspace r uid now (f.store w) with ⟨cause, hcause, -⟩ |
          ⟨hstarted, -, hread⟩
        · cases hcause.symm.trans hkey
        · obtain rfl := Except.ok.inj (hstarted.symm.trans hkey)
          exact ⟨rfl, (forRelease strategy workspace r).storedAs uid now _, hstore ▸ hread,
            hbuilt.of_spec_eq rfl⟩
  · intro hf w
    obtain ⟨uid, now, w', -, hrun⟩ := hf.run_call
      (.create PipelineRun.kind (forRelease strategy workspace r).toJson)
      (fun answer => .done (started (forRelease strategy workspace r) answer)) w
    rw [hrun]
    rcases started_create strategy workspace r uid now (f.store w) with ⟨cause, hcause, htaken⟩ |
      ⟨hstarted, hfree, -⟩
    · refine iff_of_false ?_ htaken
      rintro ⟨_, hend⟩
      have hok := hcause.symm.trans (Outcome.returned.inj (Prod.mk.inj hend).1)
      cases hok
    · refine iff_of_true ⟨w', ?_⟩ hfree
      exact congrArg (fun answer => (Outcome.returned answer, w')) hstarted

/-- A strategy that declares parameters of the standard names, and one name twice. -/
def claimant : ReleaseStrategy :=
  .new ⟨"web", "ship"⟩ "build" none (some "strict") [
    ⟨"release", some "forged", []⟩, ⟨"tags", none, ["a", "b"]⟩, ⟨"policy", some "lax", []⟩,
    ⟨"tags", some "c", []⟩]

/-- The run of such a strategy is started and read back. -/
theorem standard_params_shielded_claimant : ∃ w' run,
    (start claimant "prod" (.new ⟨"web", "r"⟩ "l")).run FailingStore.plain.handler
        ⟨.empty .none, [], 0, ""⟩ = (.returned (.ok ⟨"prod", "release-web-r"⟩), w') ∧
      w'.store.read? PipelineRun ⟨"prod", "release-web-r"⟩ = some run ∧
      run.param? "release" = some (.single "web/r") ∧
      run.param? "policy" = some (.single "strict") ∧
      run.spec.params.filter (·.name = "tags") =
        [⟨"tags", .list ["a", "b"]⟩, ⟨"tags", .single "c"⟩] ∧
      run.spec.params.length = 4 := by
  obtain ⟨-, hread, hstarts⟩ :=
    standard_params_shielded FailingStore.plain claimant "prod" (.new ⟨"web", "r"⟩ "l")
  obtain ⟨w', hrun⟩ := (hstarts FailingStore.answers_plain ⟨.empty .none, [], 0, ""⟩).mpr
    ⟨by decide, rfl⟩
  have hkey : (forRelease claimant "prod" (.new ⟨"web", "r"⟩ "l")).key =
      ⟨"prod", "release-web-r"⟩ := by decide +kernel
  obtain ⟨-, run, hstored, hshielded⟩ := hread _ _ _ hrun
  rw [hkey] at hrun hstored
  exact ⟨w', run, hrun, hstored, hshielded.param?_release, (hshielded.policy "strict" rfl).2,
    hshielded.named "tags" (by decide), hshielded.length⟩

end Trigger

end ReleaseControl
