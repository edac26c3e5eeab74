import ReleaseControl.Proofs.Record.Codec

/-! # What a written status says

Setting a condition of a type makes it the one that is found for the type, so the settled and the
triggered state of a Release can be read off the last write of its `Succeeded` condition. A run
that is made for a Release carries its name, workspace and uid in its labels. -/

namespace ReleaseControl

namespace Condition

/-- The condition stands in place of the first one of its type, or at the end if there was none. -/
inductive Placed (c : Condition) : List Condition → List Condition → Prop where
  | appended {conditions : List Condition} (hnone : ∀ b ∈ conditions, b.type ≠ c.type) :
      Placed c conditions (conditions ++ [c])
  | replaced {before rest : List Condition} {old : Condition}
      (hbefore : ∀ b ∈ before, b.type ≠ c.type) (hold : old.type = c.type) :
      Placed c (before ++ old :: rest) (before ++ c :: rest)

theorem placed_head {c old : Condition} (h : old.type = c.type) (rest : List Condition) :
    Placed c (old :: rest) (c :: rest) := by
  have hnone : ∀ b ∈ ([] : List Condition), b.type ≠ c.type := by
    intro b hb
    cases hb
  exact .replaced hnone h

theorem Placed.cons {c b : Condition} {old new : List Condition} (h : Placed c old new)
    (hb : b.type ≠ c.type) : Placed c (b :: old) (b :: new) := by
  cases h with
  | appended hnone => exact .appended (List.forall_mem_cons.mpr ⟨hb, hnone⟩)
  | replaced hbefore hold => exact .replaced (List.forall_mem_cons.mpr ⟨hb, hbefore⟩) hold

/-- The first condition of a type is the one found for it. -/
theorem find?_append_cons {type : String} {before rest : List Condition} {c : Condition}
    (hbefore : ∀ b ∈ before, b.type ≠ type) (hc : c.type = type) :
    find? type (before ++ c :: rest) = some c := by
  have hnone : before.find? (fun b => b.type == type) = none := by
    rw [List.find?_eq_none]
    intro b hb
    simpa using hbefore b hb
  simp [find?, List.find?_append, hnone, hc]

/-- It is the one found for its type. -/
theorem Placed.find?_eq {c : Condition} {old new : List Condition} (h : Placed c old new) :
    find? c.type new = some c := by
  cases h with
  | appended hnone => exact find?_append_cons hnone rfl
  | replaced hbefore => exact find?_append_cons hbefore rfl

/-- The conditions of other types stay as they are, in their order. -/
theorem Placed.filter_eq {c : Condition} {old new : List Condition} (h : Placed c old new) :
    new.filter (fun b => b.type != c.type) = old.filter (fun b => b.type != c.type) := by
  cases h with
  | appended => simp
  | replaced hbefore hold => simp [hold]

/-- The transition time of a condition that is set: that of the one it replaces while the status
stays, and the clock reading otherwise. -/
def stamp (now : String) (c : Condition) (conditions : List Condition) : Option String :=
  match find? c.type conditions with
  | some old => if old.status = c.status then old.lastTransition else some now
  | none => some now

theorem placed_stamp (now : String) (c : Condition) (conditions : List Condition) :
    Placed { c with lastTransition := stamp now c conditions } conditions
      (set now c conditions) := by
  induction conditions with
  | nil =>
      refine .appended ?_
      intro b hb
      cases hb
  | cons old rest ih =>
      by_cases h : old.type = c.type
      · have hfound : find? c.type (old :: rest) = some old := by simp [find?, h]
        simp only [set, if_pos h, stamp, hfound]
        -- the type of what is placed is that of `c`
        have htype : ∀ t, old.type = ({ c with lastTransition := t } : Condition).type := fun _ => h
        exact placed_head (htype _) rest
      · have hfound : find? c.type (old :: rest) = find? c.type rest := by simp [find?, h]
        have hstamp : stamp now c (old :: rest) = stamp now c rest := by rw [stamp, hfound, stamp]
        rw [set, if_neg h, hstamp]
        exact ih.cons h

theorem placed_set (now : String) (c : Condition) (conditions : List Condition) :
    ∃ t, Placed { c with lastTransition := t } conditions (set now c conditions) :=
  ⟨_, placed_stamp now c conditions⟩

theorem find?_set (now : String) (c : Condition) (conditions : List Condition) :
    ∃ t, find? c.type (set now c conditions) = some { c with lastTransition := t } := by
  obtain ⟨t, ht⟩ := placed_set now c conditions
  exact ⟨t, ht.find?_eq⟩

end Condition

namespace ReleaseStatus

variable (now : String) (status : ConditionStatus) (reason message : String) (generation : Int64)
  (s : ReleaseStatus)

theorem succeeded?_setSucceeded :
    ∃ t, (s.setSucceeded now status reason message generation).succeeded? =
      some ⟨succeededType, status, reason, message, t, some generation⟩ :=
  Condition.find?_set now (.new succeededType status reason message (some generation)) s.conditions

@[simp] theorem pipelineRun_setSucceeded :
    (s.setSucceeded now status reason message generation).pipelineRun = s.pipelineRun := rfl

@[simp] theorem startTime_setSucceeded :
    (s.setSucceeded now status reason message generation).startTime = s.startTime := rfl

/-- A condition that was just set decides by its own status and reason. -/
theorem isSettledFor_setSucceeded :
    (s.setSucceeded now status reason message generation).isSettledFor generation =
      match status with
      | .true => true
      | .false => reason != retryingReason
      | .unknown => false := by
  obtain ⟨t, ht⟩ := succeeded?_setSucceeded now status reason message generation s
  unfold isSettledFor
  rw [ht]
  cases status <;> simp [isSettledCondition]

theorem isSettledFor_setRetrying : (s.setRetrying now message generation).isSettledFor generation =
    false :=
  isSettledFor_setSucceeded now .false retryingReason message generation s

theorem isSettledFor_setError : (s.setError now message generation).isSettledFor generation =
    true :=
  isSettledFor_setSucceeded now .false errorReason message generation s

/-- The status holds a settled failure for the generation. -/
def isFailedFor (generation : Int64) (s : ReleaseStatus) : Bool :=
  s.succeeded?.any fun c => c.status == .false && isSettledCondition c generation

theorem isSettledFor_of_isFailedFor (h : s.isFailedFor generation) :
    s.isSettledFor generation := by
  unfold isFailedFor at h
  rw [Option.any_eq_true] at h
  obtain ⟨c, hc, hsettled⟩ := h
  rw [Bool.and_eq_true] at hsettled
  unfold isSettledFor
  rw [hc]
  exact hsettled.2

theorem isFailedFor_setRetrying :
    (s.setRetrying now message generation).isFailedFor generation = false := by
  cases hfailed : (s.setRetrying now message generation).isFailedFor generation with
  | false => rfl
  | true =>
      have hsettled := isSettledFor_of_isFailedFor _ _ hfailed
      rw [isSettledFor_setRetrying] at hsettled
      cases hsettled

theorem isFailedFor_setError : (s.setError now message generation).isFailedFor generation := by
  obtain ⟨t, ht⟩ := succeeded?_setSucceeded now .false errorReason message generation s
  unfold isFailedFor setError
  rw [ht]
  simp [isSettledCondition, errorReason, retryingReason]

/-- The statuses differ in their `Succeeded` condition only, which now reports a failure that will
be retried. -/
structure Retries (message : String) (generation : Int64) (old new : ReleaseStatus) : Prop where
  pipelineRun : new.pipelineRun = old.pipelineRun
  startTime : new.startTime = old.startTime
  condition : ∃ t, Condition.Placed
    ⟨succeededType, .false, retryingReason, message, t, some generation⟩
    old.conditions new.conditions

theorem retries_setRetrying : s.Retries message generation (s.setRetrying now message generation) :=
  ⟨rfl, rfl, Condition.placed_set now
    (.new succeededType .false retryingReason message (some generation)) s.conditions⟩

/-- The status tells that a run was started and is under way. -/
structure Triggered (run generation) : Prop where
  pipelineRun : s.pipelineRun = some run
  startTime : s.startTime.isSome
  succeeded : ∃ c, s.succeeded? = some c ∧ c.status = .unknown ∧ c.reason = runningReason ∧
    c.observedGeneration = some generation

variable {now generation s}

/-- What marking leaves. -/
theorem triggered_of_mark {run : RecordKey} {marked : ReleaseStatus}
    (h : s.markTriggered now run generation = (true, marked)) :
    marked.Triggered run.text generation := by
  unfold markTriggered at h
  split at h
  · cases h
  · cases h
    obtain ⟨t, ht⟩ := succeeded?_setSucceeded now .unknown runningReason
      "Release pipeline triggered" generation
      { s with pipelineRun := some run.text, startTime := some now }
    exact ⟨rfl, rfl, _, ht, rfl, rfl, rfl⟩

end ReleaseStatus

namespace ReleaseStatus

theorem isFailedFor_of_triggered {s : ReleaseStatus} {run : String} {generation : Int64}
    (h : s.Triggered run generation) : s.isFailedFor generation = false := by
  obtain ⟨c, hc, hstatus, -⟩ := h.succeeded
  unfold isFailedFor
  rw [hc, Option.any_some, hstatus]
  rfl

end ReleaseStatus

namespace Release

/-- The Release carries a settled failure for its generation. -/
def isFailed (r : Release) : Bool := r.status.isFailedFor r.metadata.currentGeneration

theorem isFinished_of_isFailed {r : Release} (h : r.isFailed) : r.isFinished := by
  unfold isFinished
  rw [Bool.or_eq_true]
  exact .inr (ReleaseStatus.isSettledFor_of_isFailedFor _ _ h)

end Release

namespace PipelineRun

theorem get?_labelsFor_uid {strategy : ReleaseStrategy} {r : Release} {u : String}
    (hu : r.metadata.uid = some u) : (labelsFor strategy r).get? uidLabel = some u := by
  simp only [labelsFor, hu, Labels.get?_insert_self]

theorem get?_labelsFor_strategy (strategy : ReleaseStrategy) (r : Release) :
    (labelsFor strategy r).get? strategyLabel = some strategy.key.text := by
  unfold labelsFor
  cases r.metadata.uid with
  | none => exact Labels.get?_insert_self _ _ _
  | some u =>
      -- the uid goes under a label of its own
      have hne : strategyLabel ≠ uidLabel := by decide
      exact (Labels.get?_insert_ne hne u _).trans (Labels.get?_insert_self _ _ _)

end PipelineRun

end ReleaseControl
