import ReleaseControl.Proofs.Reconcile.History

/-! # Interrupted attempts converge

Attempts on one Release whose chain is complete may fail or stop at any call. As long as nobody
else writes, they leave at most one run, never a settled failure, and the first attempt that gets
through marks the Release with that run. The invariant (`Converging`) is that the run key is free
or holds the one run of the Release, and that the status is open or names this run. A moment within
an attempt is the end of the attempt cut off there, so every moment is covered. -/

namespace ReleaseControl.Reconcile

open Program Store

/-- Makes attempts one after the other. -/
def attempts (as : List Attempt) (s : Store) : Store := as.foldl (fun s a => (a.run s).2) s

/-- The chain of the Release at the key is complete, and the key of its run is free or holds a run
with the uid of the Release, which no other run carries. -/
structure Awaits (policy : AmbiguityPolicy) (key : RecordKey) (u : String) (chain : Chain)
    (s : Store) (r : Release) : Prop where
  read : s.read? Release key = some r
  uid : r.metadata.uid = some u
  resolves : (Chain.resolve policy r).on s = .ok chain
  slot : s.get? PipelineRun.kind (runKey chain r) = none ∨
    ∃ run, s.read? PipelineRun (runKey chain r) = some run ∧ Trigger.isOwnedBy u run
  only : ∀ x q, s.Carried u x q → x = runSlot chain r

/-- The status names the run at the key, and it is there. -/
def Arrived (u : String) (chain : Chain) (s : Store) (r : Release) : Prop :=
  r.status.Triggered (runKey chain r).text r.metadata.currentGeneration ∧
    ∃ run, s.read? PipelineRun (runKey chain r) = some run ∧ Trigger.isOwnedBy u run

/-- The invariant of the attempts. -/
structure Converging (policy : AmbiguityPolicy) (key : RecordKey) (u : String) (chain : Chain)
    (s : Store) (r : Release) : Prop extends Awaits policy key u chain s r where
  sound : s.Sound
  state : r.isFinished = false ∨ Arrived u chain s r

variable {policy : AmbiguityPolicy} {key : RecordKey} {u : String} {chain : Chain} {s : Store}
  {r : Release}

namespace Awaits

/-- Writing the status of the Release keeps everything else. -/
theorem withStatus (h : Awaits policy key u chain s r) (hs : s.Sound) (status : ReleaseStatus) :
    Awaits policy key u chain (s.withStatus r status)
      (r.noted (toString s.nextVersion) status) := by
  have hagrees {kind : String} (hkind : '/' ∉ kind.toList) (hne : Release.kind ≠ kind) :=
    agrees_withStatus hkind hne s r status
  have hruns := hagrees slash_notMem_run (by decide)
  refine ⟨hs.read?_withStatus h.read status, h.uid, ?_, ?_, ?_⟩
  · exact (Chain.resolve_on_congr (hagrees slash_notMem_link (by decide))
      (hagrees slash_notMem_strategy (by decide))).trans h.resolves
  · rcases h.slot with hfree | ⟨run, hrun, howned⟩
    · exact .inl ((hruns.get? _).trans hfree)
    · exact .inr ⟨run, (hruns.read? _).trans hrun, howned⟩
  · intro x q hq
    exact h.only x q (hq.of_agrees ((effect_withStatus "" "" s r status).sound hs) hruns)

/-- So does creating the run, which is then the one that is there. -/
theorem withRun (h : Awaits policy key u chain s r) (uid now : String) :
    Awaits policy key u chain (s.withRun uid now chain r) r := by
  have hagrees {kind : String} (hkind : '/' ∉ kind.toList) (hne : PipelineRun.kind ≠ kind) :=
    agrees_withRun hkind hne uid now chain r s
  refine ⟨((hagrees slash_notMem_release (by decide)).read? key).trans h.read, h.uid, ?_, ?_, ?_⟩
  · exact (Chain.resolve_on_congr (hagrees slash_notMem_link (by decide))
      (hagrees slash_notMem_strategy (by decide))).trans h.resolves
  · exact .inr ⟨_, read?_withRun uid now chain r s, isOwnedBy_storedAs h.uid _⟩
  · intro x q hq
    rcases hq.cases_withRun with hq | ⟨rfl, -⟩
    · exact h.only x q hq
    · rfl

/-- The verdict is the run, never an error. -/
theorem verdict_ne_error (h : Awaits policy key u chain s r) (hs : s.Sound) {uid now : String}
    {e : ReconcileError} : ((verdict policy r).eval uid now s).1 ≠ .error e := by
  rcases h.slot with hfree | ⟨run, hrun, howned⟩
  · rw [verdict_of_free h.resolves (Chain.target_ne_empty hs h.resolves) hfree]
    simp
  · rw [verdict_of_owned hs h.resolves h.uid hrun howned]
    simp

/-- At most one run carries the uid. -/
theorem length_runsOf_le_one (h : Awaits policy key u chain s r) (hs : s.Sound) :
    (s.runsOf u).length ≤ 1 := by
  apply (length_runsOf_le_one_iff hs).mpr
  intro x y q p hq hp
  rw [h.only x q hq, h.only y p hp]

end Awaits

namespace Converging

theorem isFailed_eq_false (h : Converging policy key u chain s r) : r.isFailed = false := by
  rcases h.state with hopen | ⟨htriggered, -⟩
  · cases hfailed : r.isFailed with
    | false => rfl
    | true =>
        rw [Release.isFinished_of_isFailed hfailed] at hopen
        cases hopen
  · exact ReleaseStatus.isFailedFor_of_triggered htriggered

/-- The store with a status that leaves the Release open. -/
theorem retried (h : Converging policy key u chain s r) (hopen : r.isFinished = false)
    (now message : String) :
    Converging policy key u chain
      (s.withStatus r (r.status.setRetrying now message r.metadata.currentGeneration))
      (r.noted (toString s.nextVersion)
        (r.status.setRetrying now message r.metadata.currentGeneration)) where
  toAwaits := h.toAwaits.withStatus h.sound _
  sound := (effect_withStatus "" "" s r _).sound h.sound
  state := by
    left
    unfold Release.isFinished at hopen ⊢
    rw [Bool.or_eq_false_iff] at hopen ⊢
    refine ⟨hopen.1, ?_⟩
    exact ReleaseStatus.isSettledFor_setRetrying now message r.metadata.currentGeneration r.status

/-- The store with the run that an attempt created. -/
theorem launched (h : Converging policy key u chain s r) (hopen : r.isFinished = false)
    (hfree : s.get? PipelineRun.kind (runKey chain r) = none) (uid now : String) :
    Converging policy key u chain (s.withRun uid now chain r) r where
  toAwaits := h.toAwaits.withRun uid now
  sound := (effect_withRun _ _ (Chain.target_ne_empty h.sound h.resolves) hfree).sound h.sound
  state := .inl hopen

/-- The store in which the Release is marked with the run that is there. -/
theorem marked (h : Converging policy key u chain s r) {run : PipelineRun}
    (hrun : s.read? PipelineRun (runKey chain r) = some run) (howned : Trigger.isOwnedBy u run)
    {now : String} {status : ReleaseStatus}
    (hstatus : r.status.markTriggered now (runKey chain r) r.metadata.currentGeneration =
      (true, status)) :
    Converging policy key u chain (s.withStatus r status)
        (r.noted (toString s.nextVersion) status) ∧
      Arrived u chain (s.withStatus r status) (r.noted (toString s.nextVersion) status) := by
  have harrived : Arrived u chain (s.withStatus r status)
      (r.noted (toString s.nextVersion) status) := by
    refine ⟨ReleaseStatus.triggered_of_mark hstatus, run, ?_, howned⟩
    exact ((agrees_withStatus slash_notMem_run (by decide) s r status).read? _).trans hrun
  exact ⟨⟨h.toAwaits.withStatus h.sound status, (effect_withStatus "" "" s r status).sound h.sound,
    .inr harrived⟩, harrived⟩

/-- What an attempt on the key makes of it: the invariant stays, and an attempt that was neither
cut off nor met a failure ends well with the Release marked. -/
theorem step (h : Converging policy key u chain s r) {a : Attempt} (hpolicy : a.policy = policy)
    (hkey : a.key = key) :
    ∃ r', Converging policy key u chain (a.run s).2 r' ∧ r'.key = r.key ∧ r'.spec = r.spec ∧
      (Interrupts a.script (a.run s).1 ∨
        (a.run s).1 = .returned (.ok ()) ∧ Arrived u chain (a.run s).2 r') := by
  subst hpolicy hkey
  have heq {r' : Release} (hr' : a.Finds s r') : r' = r :=
    Option.some.inj (hr'.read.symm.trans h.read)
  have hsame {r' : Release} {chain' : Chain} (hr' : a.Launches s r' chain') :
      r' = r ∧ chain' = chain := by
    obtain rfl := heq hr'.toFinds
    exact ⟨rfl, Except.ok.inj (hr'.resolves.symm.trans h.resolves)⟩
  have hafter := a.aftermath h.sound
  generalize a.run s = result at hafter ⊢
  obtain ⟨o, s'⟩ := result
  cases hafter with
  | interrupted ho => exact ⟨r, h, rfl, rfl, .inl ho⟩
  | unreadable hget htyped =>
      obtain ⟨stored, hstored, hr⟩ := read?_eq_some.mp h.read
      cases hget.symm.trans hstored
      rw [htyped] at hr
      cases hr
  | idle hidle =>
      rcases h.state with hopen | harrived
      · rw [hidle r h.read] at hopen
        cases hopen
      · exact ⟨r, h, rfl, rfl, .inr ⟨rfl, harrived⟩⟩
  | @retried r' e hr he =>
      obtain rfl := heq hr
      exact ⟨_, h.retried hr.unfinished _ _, rfl, rfl, .inl (.inr ⟨e, he, rfl⟩)⟩
  -- the chain resolves and the slot is free or owned, so no error is settled
  | @settled r' e o hr ho =>
      obtain rfl := heq hr.toFinds
      exact absurd hr.refused (h.toAwaits.verdict_ne_error h.sound)
  | @launched r' chain' o hr ho =>
      obtain ⟨rfl, rfl⟩ := hsame hr
      exact ⟨_, h.launched hr.unfinished hr.free _ _, rfl, rfl, .inl ho⟩
  -- the run is there now, and the next attempt will adopt it
  | @mislaid r' chain' e hr he =>
      obtain ⟨rfl, rfl⟩ := hsame hr
      have hlaunched := h.launched hr.unfinished hr.free a.uid a.now
      exact ⟨_, hlaunched.retried hr.unfinished _ _, rfl, rfl, .inl (.inr ⟨e, he, rfl⟩)⟩
  | @triggered r' chain' status o hr hstatus ho =>
      obtain ⟨rfl, rfl⟩ := hsame hr
      have hmarked := (h.launched hr.unfinished hr.free a.uid a.now).marked
        (read?_withRun _ _ _ _ _) (isOwnedBy_storedAs h.uid _) hstatus
      exact ⟨_, hmarked.1, rfl, rfl, ho.symm.imp_right fun hok => ⟨hok, hmarked.2⟩⟩
  | @adopted r' chain' run u' status o hr hstatus ho =>
      obtain rfl := heq hr.toFinds
      obtain rfl := Except.ok.inj (hr.resolves.symm.trans h.resolves)
      obtain rfl := Option.some.inj (hr.hasUid.symm.trans h.uid)
      have hmarked := h.marked hr.stored hr.owned hstatus
      exact ⟨_, hmarked.1, rfl, rfl, ho.symm.imp_right fun hok => ⟨hok, hmarked.2⟩⟩

theorem run (h : Converging policy key u chain s r) (as : List Attempt)
    (has : ∀ a ∈ as, a.policy = policy ∧ a.key = key) :
    ∃ r', Converging policy key u chain (attempts as s) r' ∧ r'.key = r.key ∧
      r'.spec = r.spec := by
  induction as generalizing s r with
  | nil => exact ⟨r, h, rfl, rfl⟩
  | cons a rest ih =>
      obtain ⟨hpolicy, hkey⟩ := has a List.mem_cons_self
      obtain ⟨r', h', hk, hspec, -⟩ := h.step hpolicy hkey
      obtain ⟨r'', h'', hk', hspec'⟩ := ih h' fun b hb => has b (List.mem_cons_of_mem _ hb)
      exact ⟨r'', h'', hk'.trans hk, hspec'.trans hspec⟩

end Converging

/-- Every call that the attempt makes is answered. -/
def Attempt.GetsThrough (a : Attempt) (s : Store) : Prop :=
  List.replicate ((attempt a.policy a.now a.key).calls a.uid a.now s) .answered <+: a.script

/-- Such an attempt is not interrupted. -/
theorem Attempt.GetsThrough.exists_trimmed {a : Attempt} (h : a.GetsThrough s) :
    ∃ b : Attempt, b.policy = a.policy ∧ b.key = a.key ∧ b.run s = a.run s ∧
      ¬ Interrupts b.script (a.run s).1 := by
  obtain ⟨rest, hscript⟩ := h
  have hrun (rest : List Fate) := run_of_answered a.uid a.now
    (attempt a.policy a.now a.key) s rest
  generalize hn : (attempt a.policy a.now a.key).calls a.uid a.now s = n at *
  refine ⟨⟨a.policy, a.key, a.now, a.uid, List.replicate n .answered ++ []⟩, rfl, rfl, ?_, ?_⟩
  · simp only [Attempt.run, ← hscript, hrun]
  · simp only [Attempt.run, ← hscript, hrun, List.append_nil]
    rintro (hcrashed | ⟨e, he, -⟩)
    · cases hcrashed
    · exact Fate.not_failsWith_replicate _ he

/-- Whatever interrupted the attempts so far: there is at most one run, the Release is there and
carries no settled failure, and an attempt that gets through ends well and leaves the status naming
the one run, with a start time, as running for the current generation. -/
theorem interrupted_attempts_converge (hs : Reachable s) (h : Awaits policy key u chain s r)
    (hopen : r.isFinished = false) (as : List Attempt)
    (has : ∀ a ∈ as, a.policy = policy ∧ a.key = key) :
    ((attempts as s).runsOf u).length ≤ 1 ∧
      (∃ r', (attempts as s).read? Release key = some r' ∧ r'.isFailed = false) ∧
      ∀ a : Attempt, a.policy = policy → a.key = key → a.GetsThrough (attempts as s) →
        (a.run (attempts as s)).1 = .returned (.ok ()) ∧
          ∃ (r' : Release) (run : PipelineRun) (q : StoredRecord),
            (a.run (attempts as s)).2.read? Release key = some r' ∧
            (a.run (attempts as s)).2.runsOf u = [q] ∧ q.typed = .ok run ∧
            r'.status.Triggered run.key.text r'.metadata.currentGeneration := by
  have hstart : Converging policy key u chain s r := ⟨h, hs.sound, .inl hopen⟩
  -- the invariant survives the interrupted attempts; one more step brings the end
  obtain ⟨r', h', -⟩ := hstart.run as has
  refine ⟨h'.toAwaits.length_runsOf_le_one h'.sound, ⟨r', h'.read, h'.isFailed_eq_false⟩, ?_⟩
  intro a hpolicy hkey hthrough
  obtain ⟨b, hbpolicy, hbkey, hbrun, hcompleted⟩ := hthrough.exists_trimmed
  have hstep := h'.step (hbpolicy.trans hpolicy) (hbkey.trans hkey)
  rw [hbrun] at hstep
  obtain ⟨r'', h'', -, -, hinterrupted | ⟨hok, htriggered, run, hrun, howned⟩⟩ := hstep
  · exact absurd hinterrupted hcompleted
  · have hs' := h''.sound
    obtain ⟨q, hget, htyped⟩ := read?_eq_some.mp hrun
    have hacc := hs'.accounted_run hget htyped
    have hcarried : (a.run (attempts as s)).2.Carried u _ q :=
      ⟨hget, hacc.carries_iff.mpr ⟨rfl, beq_iff_eq.mp howned⟩⟩
    have hruns : (a.run (attempts as s)).2.runsOf u = [q] := by
      have hlength := h''.toAwaits.length_runsOf_le_one hs'
      have hmem := hcarried.mem_runsOf
      generalize (a.run (attempts as s)).2.runsOf u = runs at hlength hmem
      rcases runs with - | ⟨p, - | ⟨p', rest⟩⟩
      · cases hmem
      · rw [List.mem_singleton.mp hmem]
      · simp at hlength
    refine ⟨hok, r'', run, q, h''.read, hruns, htyped, ?_⟩
    have hkey' : (runKey chain r'').text = run.key.text := slot_eq_iff.mp hacc.slot
    rw [← hkey']
    exact htriggered

/-- On the stage the Release is open and awaits its run. -/
theorem awaits_stage : ∃ chain r, Awaits .strict ⟨"a", "r"⟩ "4" chain (replay stage) r ∧
    r.isFinished = false := by
  have hstage : ((replay stage).read? Release ⟨"a", "r"⟩).any fun r =>
      r.metadata.uid == some "4" && !r.isFinished &&
        ((Chain.resolve .strict r).on (replay stage)).toOption.any fun chain =>
          ((replay stage).get? PipelineRun.kind (runKey chain r)).isNone := by decide +kernel
  have hruns : ((replay stage).runsOf "4").isEmpty := by decide +kernel
  obtain ⟨r, hread, hr⟩ := (Option.any_eq_true _ _).mp hstage
  simp only [Bool.and_eq_true, beq_iff_eq, Bool.not_eq_true'] at hr
  obtain ⟨⟨huid, hopen⟩, hchain⟩ := hr
  obtain ⟨chain, hresolves, hfree⟩ := (Option.any_eq_true _ _).mp hchain
  refine ⟨chain, r, ⟨hread, huid, ?_, .inl (Option.isNone_iff_eq_none.mp hfree), ?_⟩, hopen⟩
  · cases hon : (Chain.resolve .strict r).on (replay stage) with
    | error e =>
        rw [hon] at hresolves
        cases hresolves
    | ok chain' =>
        rw [hon] at hresolves
        cases hresolves
        rfl
  · intro x q hq
    have hmem := hq.mem_runsOf
    rw [List.isEmpty_iff.mp hruns] at hmem
    cases hmem

theorem interrupted_attempts_converge_stage :
    ∃ chain r, Awaits .strict ⟨"a", "r"⟩ "4" chain (replay stage) r ∧
      ((attempts [.halfDone "5", .staged "6" [.answered]] (replay stage)).runsOf "4").length ≤ 1 ∧
      Reachable (replay stage) ∧ r.isFinished = false := by
  have hreachable : Reachable (replay stage) :=
    .step (.step (.step (.step (.empty _) _ _ _) _ _ _) _ _ _) _ _ _
  obtain ⟨chain, r, hawaits, hopen⟩ := awaits_stage
  refine ⟨chain, r, hawaits, ?_, hreachable, hopen⟩
  exact (interrupted_attempts_converge hreachable hawaits hopen
    [.halfDone "5", .staged "6" [.answered]] (by decide)).1

end ReleaseControl.Reconcile
