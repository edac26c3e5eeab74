import Mathlib.Algebra.Group.Nat.Defs
import ReleaseControl.Proofs.Queue.Ledger
import ReleaseControl.Settings.Basic

/-! # How long a key waits before it is tried again

The wait of a key follows from the failures that were counted for it since it was forgotten last,
whatever else is done to the queue (`failureCount_replay`). It is `base · 2^f` cut off at `max`, but
the factor is a 32-bit word: from the 33rd failure in a row on it stays at the largest one, and
with a `max` that is farther away than that the wait stays short of both (`delay_eq_power_iff`,
`short_of_power`). Within these limits a wait is never zero, never above `max` and never gets
shorter from one failure to the next. -/

namespace ReleaseControl

/-! ## The wait after some failures -/

namespace Backoff

theorem factor_eq (n : Nat) : factor n = min (2 ^ n) maxFactor := by
  unfold factor
  split
  · next hn =>
      have hpow : 2 ^ n ≤ maxFactor := by
        have : 2 ^ n ≤ 2 ^ 31 := Nat.pow_le_pow_right (by omega) (by omega)
        exact Nat.le_trans this (by decide)
      exact (Nat.min_eq_left hpow).symm
  · next hn =>
      have hpow : maxFactor ≤ 2 ^ n := by
        have : 2 ^ 32 ≤ 2 ^ n := Nat.pow_le_pow_right (by omega) (by omega)
        exact Nat.le_trans (by decide) this
      exact (Nat.min_eq_right hpow).symm

theorem factor_mono {m n : Nat} (h : m ≤ n) : factor m ≤ factor n := by
  have hpow : 2 ^ m ≤ 2 ^ n := Nat.pow_le_pow_right (by omega) h
  rw [factor_eq, factor_eq]
  omega

/-- The factor has long come to its end when the count of failures does. -/
theorem factor_min (n : Nat) : factor (min n maxFactor) = factor n := by
  by_cases hn : n ≤ maxFactor
  · rw [Nat.min_eq_left hn]
  · have hlast : 32 ≤ maxFactor := by decide
    rw [Nat.min_eq_right (by omega), factor, factor, if_neg (by omega), if_neg (by omega)]

theorem delay_mono (b : Backoff) {m n : Nat} (h : m ≤ n) : b.delay m ≤ b.delay n := by
  have hproduct : b.base * factor m ≤ b.base * factor n := Nat.mul_le_mul_left _ (factor_mono h)
  unfold delay
  omega

theorem delay_le_max (b : Backoff) (n : Nat) : b.delay n ≤ b.max := Nat.min_le_right _ _

theorem delay_pos {b : Backoff} (hbase : 0 < b.base) (hmax : b.base ≤ b.max) (n : Nat) :
    0 < b.delay n := by
  have hfactor : 0 < factor n := by
    rw [factor_eq]
    exact Nat.lt_min.mpr ⟨Nat.pow_pos (by omega), by decide⟩
  exact Nat.lt_min.mpr ⟨Nat.mul_pos hbase hfactor, by omega⟩

/-- The wait doubles as it should until the factor comes to its end or the wait to `max`. -/
theorem delay_eq_power_iff {b : Backoff} (hbase : 0 < b.base) (n : Nat) :
    b.delay n = min (b.base * 2 ^ n) b.max ↔ n < 32 ∨ b.max ≤ b.base * maxFactor := by
  by_cases hn : n < 32
  · have hpower : b.delay n = min (b.base * 2 ^ n) b.max := by
      rw [delay, factor, if_pos hn]
      rfl
    exact ⟨fun _ => .inl hn, fun _ => hpower⟩
  · have hpow : 2 ^ 32 ≤ 2 ^ n := Nat.pow_le_pow_right (by omega) (by omega)
    have hless : b.base * maxFactor < b.base * 2 ^ n :=
      Nat.mul_lt_mul_of_pos_left (Nat.lt_of_lt_of_le (by decide) hpow) hbase
    rw [delay, factor, if_neg hn]
    omega

end Backoff

/-! ## Operations that count no failures -/

namespace WorkQueue

/-- The counts of failures and the waits that follow from them are the same in both queues. -/
structure SameCounts (q q' : WorkQueue) : Prop where
  backoff : q'.backoff = q.backoff
  failures : q'.failures = q.failures

theorem SameCounts.refl (q : WorkQueue) : q.SameCounts q := ⟨rfl, rfl⟩

variable (q : WorkQueue) (k : RecordKey)

theorem sameCounts_add : q.SameCounts (q.add k) := by
  unfold add
  split
  · exact .refl q
  · split
    · exact ⟨rfl, rfl⟩
    · exact ⟨rfl, rfl⟩
    · exact .refl q

theorem sameCounts_next : q.SameCounts q.next.2 := by
  unfold next
  split
  · exact .refl q
  · split
    · exact .refl q
    · exact ⟨rfl, rfl⟩

theorem sameCounts_done : q.SameCounts (q.done k) := by
  unfold done
  split
  · exact ⟨rfl, rfl⟩
  · exact ⟨rfl, rfl⟩
  · exact .refl q

end WorkQueue

/-! ## The failures of a key -/

namespace TimedQueue

open WorkQueue

/-- The part of an operation that has to do with failures. -/
def Operation.count (q : WorkQueue) : Operation → WorkQueue
  | addRateLimited k => (q.countFailure k).2
  | forget k => q.forget k
  | add _ | addAfter .. | goOff _ | pass | next _ | done .. => q

theorem sameCounts_addAfter (t : TimedQueue) (k : RecordKey) (delay : Nat) :
    t.queue.SameCounts (t.addAfter k delay).queue := by
  unfold addAfter
  split
  · exact sameCounts_add t.queue k
  · exact .refl t.queue

theorem Operation.sameCounts (t : TimedQueue) (op : Operation) :
    (op.count t.queue).SameCounts (op.apply t).queue := by
  cases op with
  | add k => exact sameCounts_add t.queue k
  | addAfter k delay => exact sameCounts_addAfter t k delay
  | addRateLimited k =>
      exact sameCounts_addAfter { t with queue := (t.queue.countFailure k).2 } k _
  | goOff i =>
      show t.queue.SameCounts (t.goOff i).queue
      unfold TimedQueue.goOff
      cases t.due? i with
      | none => exact .refl t.queue
      | some k => exact sameCounts_add t.queue k
  | pass | forget _ => exact .refl _
  | next _ => exact sameCounts_next t.queue
  | done _ k => exact sameCounts_done t.queue k

/-- The failures of the key that were counted since it was forgotten last. -/
def failuresSince (k : RecordKey) (ops : List Operation) : Nat :=
  (ops.reverse.takeWhile (· ≠ .forget k)).count (.addRateLimited k)

section Counting

variable (k : RecordKey) (ops : List Operation) (op : Operation)

theorem failuresSince_concat : failuresSince k (ops ++ [op]) =
    if op = .forget k then 0
    else failuresSince k ops + if op = .addRateLimited k then 1 else 0 := by
  unfold failuresSince
  rw [List.reverse_concat, List.takeWhile_cons]
  by_cases hop : op = .forget k
  · simp [hop]
  · simp [hop, List.count_cons]

/-- Only a failure of the key and its being forgotten matter to its count. -/
theorem failureCount_count (q : WorkQueue) : (op.count q).failureCount k =
    if op = .forget k then 0
    else if op = .addRateLimited k then min (q.failureCount k + 1) Backoff.maxFactor
    else q.failureCount k := by
  cases op with
  | addRateLimited j =>
      by_cases hj : j = k
      · subst hj
        simp [Operation.count, countFailure, failureCount]
      · simp [Operation.count, countFailure, failureCount, Assoc.get?_put_ne (Ne.symm hj), hj]
  | forget j =>
      by_cases hj : j = k
      · subst hj
        simp [Operation.count, WorkQueue.forget, failureCount]
      · simp [Operation.count, WorkQueue.forget, failureCount,
          Assoc.get?_remove_ne (Ne.symm hj), hj]
  | add _ | addAfter _ _ | goOff _ | pass | next _ | done _ _ => rfl

theorem failureCount_apply (t : TimedQueue) : (op.apply t).queue.failureCount k =
    if op = .forget k then 0
    else if op = .addRateLimited k then min (t.queue.failureCount k + 1) Backoff.maxFactor
    else t.queue.failureCount k := by
  rw [← failureCount_count]
  unfold failureCount
  rw [(op.sameCounts t).failures]

theorem backoff_apply (t : TimedQueue) : (op.apply t).queue.backoff = t.queue.backoff := by
  rw [(op.sameCounts t).backoff]
  cases op <;> rfl

theorem backoff_replay (backoff : Backoff) : (replay backoff ops).queue.backoff = backoff := by
  induction ops using List.reverseRecOn with
  | nil => rfl
  | append_singleton ops op ih => rw [replay_concat, backoff_apply, ih]

/-- The count is right until it reaches the largest word, and stays there. -/
theorem failureCount_replay (backoff : Backoff) : (replay backoff ops).queue.failureCount k =
    min (failuresSince k ops) Backoff.maxFactor := by
  induction ops using List.reverseRecOn with
  | nil => rfl
  | append_singleton ops op ih =>
      rw [replay_concat, failureCount_apply, failuresSince_concat, ih]
      split
      · rfl
      · split
        · omega
        · rfl

/-- Without being forgotten a key has no fewer failures later. -/
theorem failuresSince_le_append (more : List Operation) (hkept : .forget k ∉ more) :
    failuresSince k ops ≤ failuresSince k (ops ++ more) := by
  induction more using List.reverseRecOn with
  | nil => exact Nat.le_of_eq (by rw [List.append_nil])
  | append_singleton more op ih =>
      rw [List.mem_append, not_or, List.mem_singleton] at hkept
      rw [← List.append_assoc, failuresSince_concat, if_neg (Ne.symm hkept.2)]
      have := ih hkept.1
      omega

/-- The operations that count for the key. -/
def Operation.countsFor : Bool := op = .addRateLimited k ∨ op = .forget k

theorem failuresSince_filter :
    failuresSince k (ops.filter (·.countsFor k)) = failuresSince k ops := by
  induction ops using List.reverseRecOn with
  | nil => rfl
  | append_singleton ops op ih =>
      rw [List.filter_append, failuresSince_concat, ← ih]
      by_cases hforget : op = .forget k
      · simp [Operation.countsFor, hforget, failuresSince_concat]
      · by_cases hfailure : op = .addRateLimited k
        · simp [Operation.countsFor, hfailure, failuresSince_concat]
        · simp [Operation.countsFor, hforget, hfailure]

end Counting

/-! ## The wait -/

/-- What a further failure of the key is answered after some operations. -/
def waitAfter (backoff : Backoff) (ops : List Operation) (k : RecordKey) : Nat :=
  ((replay backoff ops).addRateLimited k).1

theorem waitAfter_eq (backoff : Backoff) (ops : List Operation) (k : RecordKey) :
    waitAfter backoff ops k = backoff.delay (failuresSince k ops) := by
  show (replay backoff ops).queue.backoff.delay ((replay backoff ops).queue.failureCount k) = _
  rw [backoff_replay, failureCount_replay, Backoff.delay, Backoff.delay, Backoff.factor_min]

theorem backoff_of_check {settings : Settings} (h : settings.check = .ok ()) :
    0 < settings.controller.backoff.base ∧
      settings.controller.backoff.base ≤ settings.controller.backoff.max := by
  unfold Settings.check at h
  -- the third and the fourth fault are about the waits
  split at h
  · cases h
  · split at h
    · cases h
    · split at h
      · cases h
      · next hbase =>
          split at h
          · cases h
          · next hmax => exact ⟨Nat.pos_of_ne_zero hbase, Nat.not_lt.mp hmax⟩

/-- Whatever is done to a queue with admissible settings, the wait of a key after `f` failures in a
row is `base · 2^f` with the power cut off at the largest word, and the whole at `max`. So it is
`base · 2^f` cut off at `max`, unless there were 32 failures or more and `max` lies beyond `base`
times the largest word. It is never zero, never above `max`, does not get shorter until the key is
forgotten, and depends on what counts for the key alone. -/
theorem retry_wait {settings : Settings} (hvalid : settings.check = .ok ())
    (ops : List Operation) (k : RecordKey) :
    let backoff := settings.controller.backoff
    waitAfter backoff ops k =
        min (backoff.base * min (2 ^ failuresSince k ops) (2 ^ 32 - 1)) backoff.max ∧
      (waitAfter backoff ops k = min (backoff.base * 2 ^ failuresSince k ops) backoff.max ↔
        failuresSince k ops < 32 ∨ backoff.max ≤ backoff.base * (2 ^ 32 - 1)) ∧
      0 < waitAfter backoff ops k ∧ waitAfter backoff ops k ≤ backoff.max ∧
      (∀ more, .forget k ∉ more →
        waitAfter backoff ops k ≤ waitAfter backoff (ops ++ more) k) ∧
      ∀ ops', ops'.filter (·.countsFor k) = ops.filter (·.countsFor k) →
        waitAfter backoff ops' k = waitAfter backoff ops k := by
  intro backoff
  obtain ⟨hbase, hmax⟩ := backoff_of_check hvalid
  simp only [waitAfter_eq]
  refine ⟨?_, Backoff.delay_eq_power_iff hbase _, Backoff.delay_pos hbase hmax _,
    backoff.delay_le_max _, ?_, ?_⟩
  · rw [Backoff.delay, Backoff.factor_eq]
    rfl
  · intro more hkept
    exact backoff.delay_mono (failuresSince_le_append k ops more hkept)
  · intro ops' hsame
    rw [← failuresSince_filter k ops', hsame, failuresSince_filter]

/-- Settings with a first wait of a millisecond and a `max` of about a hundred days. -/
def patient : Settings :=
  { Settings.default with
    controller := { ControllerSettings.default with retryBaseDelay := 1, retryMaxDelay := 2 ^ 33 } }

/-- A key that failed many times, with another one in between. -/
def failing (n : Nat) : List Operation :=
  List.replicate n (.addRateLimited ⟨"a", "r"⟩) ++ [.addRateLimited ⟨"a", "s"⟩, .next 1]

theorem retry_wait_patient : patient.check = .ok () ∧
    failuresSince ⟨"a", "r"⟩ (failing 31) = 31 ∧
    waitAfter patient.controller.backoff (failing 31) ⟨"a", "r"⟩ = 2 ^ 31 := by
  have hvalid : patient.check = .ok () := by decide +kernel
  have hfailures : failuresSince ⟨"a", "r"⟩ (failing 31) = 31 := by decide +kernel
  refine ⟨hvalid, hfailures, ?_⟩
  rw [(retry_wait hvalid (failing 31) ⟨"a", "r"⟩).1, hfailures]
  decide

/-- After 32 failures in a row the wait should be `2^32` milliseconds and is one short of it. -/
theorem short_of_power : patient.check = .ok () ∧
    failuresSince ⟨"a", "r"⟩ (failing 32) = 32 ∧
    waitAfter patient.controller.backoff (failing 32) ⟨"a", "r"⟩ ≠
      min (patient.controller.backoff.base * 2 ^ 32) patient.controller.backoff.max := by
  decide +kernel

end TimedQueue

end ReleaseControl
