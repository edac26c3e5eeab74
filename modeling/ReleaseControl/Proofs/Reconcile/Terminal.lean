import ReleaseControl.Proofs.Service.Obligation
import ReleaseControl.Proofs.Store.Addressing
import ReleaseControl.Proofs.Store.Failing

/-! # Terminal Releases

An attempt that ends well has nothing left to do, whatever calls failed on its way: the Release is
gone, has a run, or is settled for its generation (`Terminal`). It cannot end well before, since all
that it owes to an open Release is a status that finishes it, or an error (`Owes`), and a status
that was written is read again as what it was. From then on attempts end with their first call, so
that any number of them leave the store and the channel alone (`ok_terminal`). -/

namespace ReleaseControl.Reconcile

open Program Store

/-- The Release is absent, has a run, or is settled for its generation. -/
def Terminal (s : Store) (key : RecordKey) : Prop :=
  s.get? Release.kind key = none ∨ ∃ r : Release, s.read? Release key = some r ∧
    (r.status.pipelineRun.isSome ∨ r.status.isSettledFor r.metadata.currentGeneration)

theorem terminal_of_finished {s : Store} {key : RecordKey} {r : Release}
    (hr : s.read? Release key = some r) (hfinished : r.isFinished) : Terminal s key := by
  unfold Release.isFinished at hfinished
  rw [Bool.or_eq_true] at hfinished
  exact .inr ⟨r, hr, hfinished⟩

variable {σ : Type} (f : FailingStore σ) {key : RecordKey} {w w' : σ}

/-! ## An attempt that ends well -/

/-- What an attempt owes is noted when it ends well. -/
theorem Owes.terminal {r : Release} {rest : Program (Except ReconcileError Unit)} (h : Owes r rest)
    (hs : (f.store w).Sound) (hr : Snapshot (f.store w) key r)
    (hrun : rest.run f.handler w = (.returned (.ok ()), w')) : Terminal (f.store w') key := by
  induction h generalizing w with
  | failed he => cases hrun
  | @ask c next hc hnext ih =>
      rcases f.run_call_cases c next w with ⟨w₁, hcrash, -⟩ | ⟨answer, w₁, hgoes, -, hhandled⟩
      · cases hcrash.symm.trans hrun
      · obtain ⟨uid, now, heffect⟩ := hhandled.effect
        exact ih answer (heffect.sound hs) (hr.effect heffect) (hgoes.symm.trans hrun)
  | @noteRetry status e next he hnext =>
      rcases f.run_call_cases _ next w with ⟨w₁, hcrash, -⟩ | ⟨answer, w₁, hgoes, -, -⟩
      · cases hcrash.symm.trans hrun
      · rw [hnext answer] at hgoes
        cases hgoes.symm.trans hrun
  | @note status next hfinished hfailed hwritten =>
      rcases f.run_call_cases _ next w with ⟨w₁, hcrash, -⟩ | ⟨answer, w₁, hgoes, -, hhandled⟩
      · cases hcrash.symm.trans hrun
      have hok (e : StoreError) : answer ≠ .error e := by
        rintro rfl
        rw [hfailed e] at hgoes
        cases hgoes.symm.trans hrun
      -- the answer is no error, so the status has been written to the Release as it was read
      rcases hhandled.returned_cases with ⟨e, he⟩ | ⟨uid, now, hanswer, hstore⟩
      · exact absurd he (hok e)
      rcases hr.updateStatus_cases status with hread | ⟨e, hupdate, -⟩
      · obtain ⟨stored, hget, htyped⟩ := read?_eq_some.mp hread
        have htyped' := (hs.accounted_release hget htyped).typed_withStatus htyped
          (toString (f.store w).nextVersion) status
        have hreply : answer = .ok _ :=
          hanswer.trans (congrArg Prod.fst (hs.updateStatus_release hget htyped status))
        rw [hreply, hwritten _ _ htyped'] at hgoes
        cases hgoes.symm.trans hrun
        rw [hstore]
        exact terminal_of_finished (hs.read?_withStatus hread status) hfinished
      · exact absurd (hanswer.trans (congrArg Prod.fst hupdate)) (hok e)

/-- An attempt that ends well leaves a terminal Release. -/
theorem terminal_of_run (hw : Reachable (f.store w)) {policy : AmbiguityPolicy} {now : String}
    (hrun : (attempt policy now key).run f.handler w = (.returned (.ok ()), w')) :
    Terminal (f.store w') key := by
  obtain ⟨next, hattempt, hfails, hnone, hmistyped, htyped⟩ := attempt_call policy now key
  rw [hattempt] at hrun
  rcases f.run_call_cases _ next w with ⟨w₁, hcrash, -⟩ | ⟨answer, w₁, hgoes, -, hhandled⟩
  · cases hcrash.symm.trans hrun
  obtain ⟨hsame, hfound⟩ := hhandled.of_get
  cases answer with
  | error e =>
      rw [hfails] at hgoes
      cases hgoes.symm.trans hrun
  | ok found =>
      have hget := hfound found rfl
      rw [← hsame] at hget hw
      cases found with
      | none =>
          rw [hnone] at hgoes
          cases hgoes.symm.trans hrun
          exact .inl hget.symm
      | some stored =>
          cases hr : (stored.typed : Except StoreError Release) with
          | error e =>
              rw [hmistyped stored e hr] at hgoes
              cases hgoes.symm.trans hrun
          | ok r =>
              have hread : (f.store w₁).read? Release key = some r :=
                read?_eq_some.mpr ⟨stored, hget.symm, hr⟩
              rw [htyped stored r hr] at hgoes
              by_cases hfinished : r.isFinished
              · rw [if_pos hfinished] at hgoes
                cases hgoes.symm.trans hrun
                exact terminal_of_finished hread hfinished
              · rw [if_neg hfinished] at hgoes
                have howes : Owes r ((verdict policy r).bind (report now r)) :=
                  owes_verdict (Bool.eq_false_iff.mpr hfinished)
                exact howes.terminal f hw.sound (.of_read hw.sound hread) (hgoes.symm.trans hrun)

/-! ## Attempts on a terminal Release -/

/-- An attempt on a terminal Release ends with its first call, and well if this is answered. -/
theorem run_of_terminal (h : Terminal (f.store w) key) (policy : AmbiguityPolicy) (now : String) :
    ((attempt policy now key).run f.handler w).2 = (f.handler (.get Release.kind key) w).2 ∧
      ∀ found, (f.handler (.get Release.kind key) w).1 = .returned (.ok found) →
        ((attempt policy now key).run f.handler w).1 = .returned (.ok ()) := by
  obtain ⟨next, hattempt, hfails, hnone, -, htyped⟩ := attempt_call policy now key
  rw [hattempt]
  rcases f.run_call_cases _ next w with
    ⟨w₁, hcrash, hcall, -⟩ | ⟨answer, w₁, hgoes, hcall, hhandled⟩
  · rw [hcrash, hcall]
    refine ⟨rfl, ?_⟩
    intro found hfound
    cases hfound
  rw [hgoes, hcall]
  obtain ⟨-, hfound⟩ := hhandled.of_get
  cases answer with
  | error e =>
      rw [hfails]
      refine ⟨rfl, ?_⟩
      intro found hfound
      cases hfound
  | ok found =>
      have hdone : next (.ok found) = .done (.ok ()) := by
        rcases h with habsent | ⟨r, hread, hfinished⟩
        · obtain rfl : found = none := (hfound found rfl).trans habsent
          exact hnone
        · obtain ⟨stored, hget, hr⟩ := read?_eq_some.mp hread
          have hclosed : r.isFinished := by
            unfold Release.isFinished
            rwa [Bool.or_eq_true]
          obtain rfl : found = some stored := (hfound found rfl).trans hget
          rw [htyped stored r hr, if_pos hclosed]
      rw [hdone]
      exact ⟨rfl, fun _ _ => rfl⟩

/-- The state after attempts on a key, one after the other. -/
def repeated (f : FailingStore σ) (key : RecordKey) (attempts : List (AmbiguityPolicy × String))
    (w : σ) : σ :=
  attempts.foldl (fun w a => ((attempt a.1 a.2 key).run f.handler w).2) w

/-- Attempts on a terminal Release leave the store and the channel as they are. -/
theorem repeated_of_terminal (channel : Channel) (h : Terminal (f.store w) key)
    (attempts : List (AmbiguityPolicy × String)) :
    f.store (repeated f.published key attempts (w, channel)).1 = f.store w ∧
      (repeated f.published key attempts (w, channel)).2 = channel := by
  induction attempts generalizing w with
  | nil => exact ⟨rfl, rfl⟩
  | cons a rest ih =>
      have hstep := (run_of_terminal f.published (w := (w, channel)) h a.1 a.2).1
      rw [f.published_get] at hstep
      have hsame := (f.handled (.get Release.kind key) w).of_get.1
      unfold repeated at ih ⊢
      rw [List.foldl_cons, hstep]
      rw [← hsame] at h ⊢
      exact ih h

/-- If an attempt ends well, whatever calls failed on its way, the Release is absent, has a run or
is settled for its generation. On such a Release any number of attempts leave the store and the
channel as they are, and each of them ends well whose first call is answered. -/
theorem ok_terminal {σ : Type} (f : FailingStore σ) (w : σ) (channel : Channel) (key : RecordKey) :
    (Reachable (f.store w) → ∀ policy now w' channel',
      (attempt policy now key).run f.handler.published (w, channel) =
        (.returned (.ok ()), w', channel') → Terminal (f.store w') key) ∧
      (Terminal (f.store w) key → ∀ attempts : List (AmbiguityPolicy × String),
        f.store (repeated f.published key attempts (w, channel)).1 = f.store w ∧
        (repeated f.published key attempts (w, channel)).2 = channel ∧
        ∀ policy now found,
          (f.handler.published (.get Release.kind key)
            (repeated f.published key attempts (w, channel))).1 = .returned (.ok found) →
          ((attempt policy now key).run f.handler.published
            (repeated f.published key attempts (w, channel))).1 = .returned (.ok ())) := by
  refine ⟨?_, ?_⟩
  · intro hw policy now w' channel' hrun
    exact terminal_of_run f.published (w := (w, channel)) hw hrun
  · intro h attempts
    obtain ⟨hstore, hchannel⟩ := repeated_of_terminal f channel h attempts
    refine ⟨hstore, hchannel, ?_⟩
    intro policy now found hfound
    have hterminal : Terminal (f.published.store
        (repeated f.published key attempts (w, channel))) key := by
      show Terminal (f.store (repeated f.published key attempts (w, channel)).1) key
      rw [hstore]
      exact h
    exact (run_of_terminal f.published hterminal policy now).2 found hfound

/-- A Release without its link. The second look at it is to fail. -/
def unlinked : { s : FaultyStore // ∀ f ∈ s.faults, f.writes = [] } where
  val := {
    store := after .none [⟨"1", "", .create Release.kind (Release.new ⟨"a", "r"⟩ "l").toJson⟩]
    faults := [⟨.get, some Release.kind, 1, 1, [], .failBefore (.connection "refused")⟩]
    created := 1
    now := "t" }
  property := by
    intro f hf
    rw [List.mem_singleton.mp hf]

theorem ok_terminal_unlinked :
    ∃ w channel, (attempt .strict "t" ⟨"a", "r"⟩).run FailingStore.planned.handler.published
        (unlinked, ⟨4, [], 0, [], true⟩) = (.returned (.ok ()), w, channel) ∧
      Terminal (FailingStore.planned.store w) ⟨"a", "r"⟩ ∧
      ((attempt .strict "u" ⟨"a", "r"⟩).run FailingStore.planned.handler.published
        (w, channel)).1 = .returned (.error (.store (.connection "refused"))) ∧
      ((attempt .strict "v" ⟨"a", "r"⟩).run FailingStore.planned.handler.published
        (repeated FailingStore.planned.published ⟨"a", "r"⟩ [(.strict, "u")] (w, channel))).1 =
          .returned (.ok ()) := by
  have hreachable : Reachable (FailingStore.planned.store unlinked) := reachable_after _ _
  have hend := (ok_terminal FailingStore.planned unlinked ⟨4, [], 0, [], true⟩ ⟨"a", "r"⟩).1
    hreachable .strict "t" _ _ rfl
  obtain ⟨-, -, hwell⟩ := (ok_terminal FailingStore.planned _ ⟨4, [], 0, [], true⟩
    ⟨"a", "r"⟩).2 hend [(.strict, "u")]
  exact ⟨_, _, rfl, hend, rfl, hwell .strict "v" _ rfl⟩

end ReleaseControl.Reconcile
