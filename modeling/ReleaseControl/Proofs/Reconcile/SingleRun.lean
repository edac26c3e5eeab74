import ReleaseControl.Proofs.Reconcile.History

/-! # One run per Release

The name of a run keeps a Release from getting two runs in one workspace, and the status keeps it
from getting a second one anywhere, once it is written. Between the two there is a gap. An attempt
whose status write fails leaves a run that only the workspace it was created in knows of. If the
chain leads elsewhere by the time of the retry, the name is free there and a second run is created
(`Attempt.Duplicates`). This is the only way to two runs: a history keeps to one run for each uid
exactly when no attempt in it duplicates. -/

namespace ReleaseControl.Reconcile

open Store

/-- The attempt creates the run of a Release while one is stored under the same name in a workspace
that the chain does not lead to any more. -/
structure Attempt.Duplicates (a : Attempt) (s : Store) (r : Release) (chain : Chain) : Prop
    extends a.Launches s r chain where
  elsewhere : ∃ u w q, r.metadata.uid = some u ∧ w ≠ chain.link.spec.target ∧
    s.Carried u (slot PipelineRun.kind ⟨w, PipelineRun.nameFor r⟩) q

/-- No uid is carried by runs in two slots. -/
def SingleRuns (s : Store) : Prop :=
  ∀ u x y q p, s.Carried u x q → s.Carried u y p → x = y

theorem singleRuns_iff {s : Store} (hs : s.Sound) :
    SingleRuns s ↔ ∀ u, (s.runsOf u).length ≤ 1 :=
  forall_congr' fun _ => (length_runsOf_le_one_iff hs).symm

namespace SingleRuns

variable {s s' : Store}

/-- Stores that look alike to a reader of runs. -/
theorem of_agrees (h : SingleRuns s) (hs' : s'.Sound) (hagrees : Agrees PipelineRun.kind s s') :
    SingleRuns s' := by
  intro u x y q p hq hp
  exact h u x y q p (hq.of_agrees hs' hagrees) (hp.of_agrees hs' hagrees)

theorem withStatus (h : SingleRuns s) (hs : s.Sound) (r : Release) (status : ReleaseStatus) :
    SingleRuns (s.withStatus r status) :=
  h.of_agrees ((effect_withStatus "" "" s r status).sound hs)
    (agrees_withStatus slash_notMem_run (by decide) s r status)

/-- A run that was there when another with its uid is created makes the attempt a duplicating
one. -/
theorem duplicates_of_carried {drawn : List String} (hl : Lineage drawn s) {a : Attempt}
    {r : Release} {chain : Chain} (hr : a.Launches s r chain) {u x : String} {q : StoredRecord}
    (hu : r.metadata.uid = some u) (hq : s.Carried u x q) : a.Duplicates s r chain := by
  refine ⟨hr, ?_⟩
  obtain ⟨w, rfl⟩ := hl.exists_workspace hr.read hu hq
  refine ⟨u, w, q, hu, ?_, hq⟩
  -- the slot at the end of the chain is free, the one of the run is not
  rintro rfl
  have hstored : s.get? PipelineRun.kind (runKey chain r) = some q := hq.stored
  rw [hr.free] at hstored
  cases hstored

theorem withRun {drawn : List String} (h : SingleRuns s) (hl : Lineage drawn s) {a : Attempt}
    {r : Release} {chain : Chain} (hr : a.Launches s r chain) (hdup : ¬ a.Duplicates s r chain) :
    SingleRuns (s.withRun a.uid a.now chain r) := by
  obtain ⟨u', hu'⟩ := hl.sound.exists_uid hr.read
  have hnew {u : String} (hcarries : (s.runRecord a.uid a.now chain r).carries u) : u' = u := by
    have hlabel := ((accounted_runRecord _ _ hr.hasTarget hr.free).carries_iff.mp hcarries).2
    exact Option.some.inj ((PipelineRun.get?_labelsFor_uid hu').symm.trans hlabel)
  -- a run with that uid that is there already makes the attempt a duplicating one
  have hclash {u x : String} {q : StoredRecord} (hold : s.Carried u x q)
      (hcarries : (s.runRecord a.uid a.now chain r).carries u) : False := by
    obtain rfl := hnew hcarries
    exact hdup (duplicates_of_carried hl hr hu' hold)
  intro u x y q p hq hp
  rcases hq.cases_withRun with hqold | ⟨rfl, rfl⟩ <;>
    rcases hp.cases_withRun with hpold | ⟨rfl, rfl⟩
  · exact h u x y q p hqold hpold
  · exact (hclash hqold hp.carries).elim
  · exact (hclash hpold hq.carries).elim
  · rfl

theorem attempt {drawn : List String} (h : SingleRuns s) (hl : Lineage drawn s) {a : Attempt}
    (hdup : ∀ r chain, ¬ a.Duplicates s r chain) : SingleRuns (a.run s).2 := by
  rcases a.run_cases hl.sound with hrun | ⟨r, status, -, hrun⟩ | ⟨r, chain, hr⟩
  · rw [hrun]
    exact h
  · rw [hrun]
    exact h.withStatus hl.sound r status
  · have hcreated : SingleRuns (s.withRun a.uid a.now chain r) := h.withRun hl hr (hdup r chain)
    rcases hr.run_snd hl.sound with hrun | ⟨status, hrun⟩
    · rw [hrun]
      exact hcreated
    · rw [hrun]
      exact hcreated.withStatus (hr.read_withRun hl.sound).1 r status

/-- Clients do not write runs. -/
theorem call (h : SingleRuns s) (hs : s.Sound) {c : StoreCall} (hc : c.IsEdit)
    (uid now : String) : SingleRuns (s.perform uid now c).2 := by
  rcases hc.cases with hread | hkind
  · rw [perform_snd_of_isRead hread]
    exact h
  · have heffect := perform_effect uid now s c
    obtain ⟨hslash, hne⟩ := clientKinds_spec hkind
    exact h.of_agrees (heffect.sound hs) (heffect.agrees slash_notMem_run hslash hne)

end SingleRuns

/-- A duplicating attempt leaves two runs with one uid. -/
theorem Attempt.Duplicates.not_singleRuns {a : Attempt} {s : Store} {r : Release} {chain : Chain}
    (h : a.Duplicates s r chain) (hs : s.Sound) : ¬ SingleRuns (a.run s).2 := by
  obtain ⟨u, w, q, hu, hw, hq⟩ := h.elsewhere
  have hold : (s.withRun a.uid a.now chain r).Carried u _ q := hq.withRun h.free
  have hnew := carried_withRun a.uid a.now h.hasTarget h.free hu
  have hslots : slot PipelineRun.kind ⟨w, PipelineRun.nameFor r⟩ ≠ runSlot chain r := by
    intro heq
    have hstored := hq.stored
    rw [heq] at hstored
    cases hstored.symm.trans h.free
  intro hsingle
  -- writing the status afterwards does not touch the runs
  rcases h.toLaunches.run_snd hs with hrun | ⟨status, hrun⟩
  · rw [hrun] at hsingle
    exact hslots (hsingle u _ _ _ _ hold hnew)
  · have hs' := (h.toLaunches.read_withRun hs).1
    have hagrees := agrees_withStatus slash_notMem_run (by decide)
      (s.withRun a.uid a.now chain r) r status
    rw [hrun] at hsingle
    exact hslots (hsingle u _ _ _ _ (hold.to_agrees hs' hagrees) (hnew.to_agrees hs' hagrees))

/-- In every state of a history each uid is carried by one run at most, in all workspaces together,
if and only if no attempt of the history duplicates. -/
theorem one_run_iff_no_duplicates {acts : List Act} (h : History acts) :
    (∀ before, before <+: acts → ∀ u, ((replay before).runsOf u).length ≤ 1) ↔
      ∀ before a after, acts = before ++ .attempt a :: after →
        ∀ r chain, ¬ a.Duplicates (replay before) r chain := by
  have hsound {before : List Act} (hbefore : before <+: acts) : (replay before).Sound :=
    (h.initial hbefore).lineage.sound
  constructor
  · intro hone before a after hacts r chain hdup
    have hbefore : before <+: acts := ⟨.attempt a :: after, hacts.symm⟩
    have hafter : before ++ [.attempt a] <+: acts := ⟨after, by rw [hacts]; simp⟩
    refine hdup.not_singleRuns (hsound hbefore) ?_
    have hnext := (singleRuns_iff (hsound hafter)).mpr (hone _ hafter)
    rwa [replay_concat] at hnext
  · intro hdup before hbefore
    refine (singleRuns_iff (hsound hbefore)).mp (h.induct (motive := SingleRuns) ?_ ?_ before
      hbefore)
    · intro u x y q p hq
      cases hq.stored
    · intro before act after hacts hbefore hallowed hsingle
      cases act with
      | attempt a => exact hsingle.attempt hbefore.lineage (hdup before a after hacts)
      | call uid now c => exact hsingle.call hbefore.lineage.sound hallowed uid now

/-- The run is created but the status write fails; the link is moved to another workspace; the
retry creates a second run there. -/
def strayed : List Act := stage ++ [
  .create "5" (ReleaseLink.new ⟨"c", "n"⟩ "a" "app" (some "s")),
  .create "6" (ReleaseStrategy.new ⟨"c", "s"⟩ "p" none none []),
  .attempt (.halfDone "7"),
  .call "8" "" (.update ReleaseLink.kind (ReleaseLink.new ⟨"a", "l"⟩ "c" "app" none).toJson),
  .attempt (.staged "9" (List.replicate 6 .answered))]

theorem history_strayed : History strayed := ⟨by decide, by decide⟩

theorem one_run_iff_no_duplicates_strayed :
    History strayed ∧
      ((∀ before, before <+: strayed → ∀ u, ((replay before).runsOf u).length ≤ 1) ↔
        ∀ before a after, strayed = before ++ .attempt a :: after →
          ∀ r chain, ¬ a.Duplicates (replay before) r chain) :=
  ⟨history_strayed, one_run_iff_no_duplicates history_strayed⟩

/-- A history that leaves two runs of one Release. -/
theorem two_runs_of_strayed : History strayed ∧ ((replay strayed).runsOf "4").length = 2 :=
  ⟨history_strayed, by decide +kernel⟩

end ReleaseControl.Reconcile
