import ReleaseControl.Proofs.Reconcile.Counterparts
import ReleaseControl.Proofs.Reconcile.History

/-! # Consent

A run is created in a workspace only if that workspace agreed to it: a link there points back at
the link of the Release, for the same application, and names the strategy that the run executes
(`Consent`). Whatever becomes of the calls of an attempt, a record that it adds is such a run
(`run_needs_consent`).

The strict policy is to leave no choice among several links that agree. It does not see a link with
an array for a spec, since the index does not list it, and a run is created beside such a link
(`run_despite_second_counterpart`). -/

namespace ReleaseControl.Reconcile

open Store

/-- The workspace agreed to run the strategy for the Release. -/
structure Consent (policy : AmbiguityPolicy) (s : Store) (r : Release) (workspace : String)
    (link counterpart : ReleaseLink) (strategy : ReleaseStrategy) : Prop where
  named : s.read? ReleaseLink r.linkKey = some link
  target : link.spec.target = workspace
  stored : s.Has counterpart
  situated : counterpart.metadata.workspace = workspace
  pointsBack : counterpart.spec.target = link.metadata.workspace
  application : counterpart.spec.application = link.spec.application
  chosen : ∃ name, counterpart.spec.releaseStrategy = some name ∧ name ≠ "" ∧
    s.read? ReleaseStrategy ⟨workspace, name⟩ = some strategy
  /-- No other link that the index can list pairs with the first one. -/
  only : policy = .strict → ∀ other, s.Has other → link.pairsWith other →
    other = counterpart ∨ s.Hides other

/-- The run is the order to execute the strategy for the Release. -/
structure Executes (run : PipelineRun) (strategy : ReleaseStrategy) (r : Release) : Prop where
  pipeline : run.spec.pipelineRef = ⟨strategy.spec.pipeline, strategy.spec.bundle⟩
  params : run.spec.params = PipelineRun.paramsFor strategy r
  serviceAccount : run.spec.serviceAccountName = strategy.spec.serviceAccount
  label : run.metadata.labels.get? PipelineRun.strategyLabel = some strategy.key.text

theorem executes_storedAs (chain : Chain) (r : Release) (uid now version : String) :
    Executes ((runFor chain r).storedAs uid now version) chain.strategy r :=
  ⟨rfl, rfl, rfl, PipelineRun.get?_labelsFor_strategy chain.strategy r⟩

/-! ## What is added -/

section Added

variable {s : Store} {a : Attempt} {x : String} {q : StoredRecord}

/-- A written status takes no slot. -/
theorem get?_withStatus_of_free (hs : s.Sound) {key : RecordKey} {r : Release}
    (hr : s.read? Release key = some r) (status : ReleaseStatus)
    (hx : x ≠ slot Release.kind key) :
    Assoc.get? x (s.withStatus r status).slots = Assoc.get? x s.slots := by
  obtain ⟨stored, hget, htyped⟩ := read?_eq_some.mp hr
  rw [hs.get?_withStatus hget htyped, if_neg hx]

/-- A record that an attempt adds is the run of its Release. -/
theorem Attempt.exists_launches (hs : s.Sound) (hnew : Assoc.get? x s.slots = none)
    (hq : Assoc.get? x (a.run s).2.slots = some q) :
    ∃ r chain, a.Launches s r chain ∧ q = s.runRecord a.uid a.now chain r := by
  -- the slot of the Release is taken
  have hother {r : Release} (hr : s.read? Release a.key = some r) :
      x ≠ slot Release.kind a.key := by
    rintro rfl
    obtain ⟨stored, hget, -⟩ := read?_eq_some.mp hr
    cases hnew.symm.trans hget
  rcases a.run_cases hs with hrun | ⟨r, status, hr, hrun⟩ | ⟨r, chain, hr⟩
  · rw [hrun] at hq
    cases hnew.symm.trans hq
  · rw [hrun, get?_withStatus_of_free hs hr.read status (hother hr.read)] at hq
    cases hnew.symm.trans hq
  · refine ⟨r, chain, hr, ?_⟩
    have hadded : Assoc.get? x (s.withRun a.uid a.now chain r).slots = some q := by
      obtain ⟨hs', hread⟩ := hr.read_withRun hs
      rcases hr.run_snd hs with hrun | ⟨status, hrun⟩
      · rwa [hrun] at hq
      · rwa [hrun, get?_withStatus_of_free hs' hread status (hother hr.read)] at hq
    rcases Assoc.eq_or_of_get?_put hadded with ⟨-, hrecord⟩ | hold
    · exact hrecord.symm
    · cases hnew.symm.trans hold

end Added

/-! ## Who agreed -/

/-- A complete chain is one of consent. -/
theorem consent_of_resolve {indexes : FieldIndexes} {requests : List Request}
    (hkinds : ∀ q ∈ requests, '/' ∉ q.call.kind.toList) {policy : AmbiguityPolicy} {r : Release}
    {chain : Chain} (h : (Chain.resolve policy r).on (after indexes requests) = .ok chain) :
    Consent policy (after indexes requests) r chain.link.spec.target chain.link chain.targetLink
      chain.strategy := by
  have hs := (reachable_after indexes requests).sound
  obtain ⟨hlink, htarget, hstrategy⟩ := Chain.of_resolve h
  obtain ⟨hstored, hpairs⟩ := Chain.has_of_findTarget hs htarget
  simp only [ReleaseLink.pairsWith, Bool.and_eq_true, beq_iff_eq] at hpairs
  obtain ⟨⟨hspace, hback⟩, happlication⟩ := hpairs
  obtain ⟨name, hname, hnonempty, hread⟩ := Chain.of_findStrategy hstrategy
  rw [hspace] at hread
  refine ⟨Chain.read?_of_require hlink, rfl, hstored, hspace, hback, happlication,
    ⟨name, hname, hnonempty, hread⟩, ?_⟩
  rintro rfl other hother hpairs
  obtain ⟨stored, found, hlist, htyped, hchoose⟩ := Chain.of_findTarget htarget
  rcases Chain.mem_counterparts hkinds hlist htyped hother hpairs with hmem | hhidden
  · rw [Chain.eq_singleton_of_choose hchoose] at hmem
    exact .inl (List.mem_singleton.mp hmem)
  · exact .inr hhidden

/-- Every record that an attempt adds is a run for the Release at its key, in a workspace that
agreed to it. -/
theorem run_needs_consent {indexes : FieldIndexes} {requests : List Request}
    (hkinds : ∀ q ∈ requests, '/' ∉ q.call.kind.toList) {a : Attempt} {x : String}
    {q : StoredRecord} (hnew : Assoc.get? x (after indexes requests).slots = none)
    (hq : Assoc.get? x (a.run (after indexes requests)).2.slots = some q) :
    ∃ (r : Release) (run : PipelineRun) (link counterpart : ReleaseLink)
      (strategy : ReleaseStrategy),
      (after indexes requests).read? Release a.key = some r ∧ q.typed = .ok run ∧
      Consent a.policy (after indexes requests) r run.metadata.workspace link counterpart
        strategy ∧ Executes run strategy r := by
  have hs := (reachable_after indexes requests).sound
  obtain ⟨r, chain, hr, rfl⟩ := Attempt.exists_launches hs hnew hq
  exact ⟨r, _, chain.link, chain.targetLink, chain.strategy, hr.read,
    StoredRecord.typed_created_run _ _ _ _, consent_of_resolve hkinds hr.resolves,
    executes_storedAs chain r _ _ _⟩

/-- A client creates a record. -/
def requestFor (uid : String) {ρ : Type} [Record ρ] (r : ρ) : Request :=
  ⟨uid, "", .create (Record.kind ρ) (Record.toJson r)⟩

/-- Two links that pair, the strategy of the second and the Release on the first. -/
def agreed : List Request := [
  requestFor "1" (ReleaseLink.new ⟨"a", "l"⟩ "b" "app" none),
  requestFor "2" (ReleaseLink.new ⟨"b", "m"⟩ "a" "app" (some "s")),
  requestFor "3" (ReleaseStrategy.new ⟨"b", "s"⟩ "p" none none []),
  requestFor "4" (Release.new ⟨"a", "r"⟩ "l")]

/-- The slot of the run. -/
def agreedSlot : String := slot PipelineRun.kind ⟨"b", "release-a-r-4"⟩

theorem run_needs_consent_agreed :
    (∀ q ∈ agreed, '/' ∉ q.call.kind.toList) ∧
    Assoc.get? agreedSlot (after Chain.indexes agreed).slots = none ∧
    ∃ q r run link counterpart strategy,
      Assoc.get? agreedSlot
        ((Attempt.staged "5" (List.replicate 6 .answered)).run
          (after Chain.indexes agreed)).2.slots = some q ∧
      (after Chain.indexes agreed).read? Release ⟨"a", "r"⟩ = some r ∧
      (q.typed : Except StoreError PipelineRun) = .ok run ∧
      Consent .strict (after Chain.indexes agreed) r run.metadata.workspace link counterpart
        strategy ∧ Executes run strategy r := by
  have hkinds : ∀ q ∈ agreed, '/' ∉ q.call.kind.toList := by decide
  have hnew : Assoc.get? agreedSlot (after Chain.indexes agreed).slots = none := by
    decide +kernel
  have hadded : (Assoc.get? agreedSlot ((Attempt.staged "5" (List.replicate 6 .answered)).run
      (after Chain.indexes agreed)).2.slots).isSome := by decide +kernel
  obtain ⟨q, hq⟩ := Option.isSome_iff_exists.mp hadded
  obtain ⟨r, run, link, counterpart, strategy, hr, hrun, hconsent, hexecutes⟩ :=
    run_needs_consent hkinds hnew hq
  exact ⟨hkinds, hnew, q, r, run, link, counterpart, strategy, hq, hr, hrun, hconsent, hexecutes⟩

/-! ## A second counterpart -/

/-- A link of workspace `b` whose spec is written as an array. -/
def listedLink : Json := .ofFields [
  ("kind", some (.str ReleaseLink.kind)),
  ("metadata", some (Metadata.new ⟨"b", "n"⟩ .empty).toJson),
  ("spec", some (.arr [.null, .str "a", .str "app", .str "s"]))]

/-- A second link pairs with the link of the Release. -/
def contested : List Request := agreed ++ [⟨"5", "", .create ReleaseLink.kind listedLink⟩]

/-- Two links pair with the link of the Release, and under the strict policy a run is created all
the same. -/
theorem run_despite_second_counterpart :
    (∀ q ∈ contested, '/' ∉ q.call.kind.toList) ∧
    Assoc.get? agreedSlot (after Chain.indexes contested).slots = none ∧
    (Assoc.get? agreedSlot ((Attempt.staged "6" (List.replicate 6 .answered)).run
      (after Chain.indexes contested)).2.slots).isSome ∧
    ∃ link first second,
      (after Chain.indexes contested).read? ReleaseLink ⟨"a", "l"⟩ = some link ∧
      (after Chain.indexes contested).read? ReleaseLink ⟨"b", "m"⟩ = some first ∧
      (after Chain.indexes contested).read? ReleaseLink ⟨"b", "n"⟩ = some second ∧
      link.pairsWith first ∧ link.pairsWith second := by
  refine ⟨by decide, by decide +kernel, by decide +kernel, ?_⟩
  have hlinks : ((after Chain.indexes contested).read? ReleaseLink ⟨"a", "l"⟩).any fun link =>
      ((after Chain.indexes contested).read? ReleaseLink ⟨"b", "m"⟩).any link.pairsWith &&
        ((after Chain.indexes contested).read? ReleaseLink ⟨"b", "n"⟩).any link.pairsWith := by
    decide +kernel
  obtain ⟨link, hlink, hboth⟩ := (Option.any_eq_true _ _).mp hlinks
  obtain ⟨hfirst, hsecond⟩ := (Bool.and_eq_true _ _).mp hboth
  obtain ⟨first, hfirst, hpairs⟩ := (Option.any_eq_true _ _).mp hfirst
  obtain ⟨second, hsecond, hpairs'⟩ := (Option.any_eq_true _ _).mp hsecond
  exact ⟨link, first, second, hlink, hfirst, hsecond, hpairs, hpairs'⟩

end ReleaseControl.Reconcile
