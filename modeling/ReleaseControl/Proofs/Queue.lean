import ReleaseControl.Proofs.Assoc
import ReleaseControl.Reconcile.Worker

/-! # The work queue keeps what is added

A key is due when it waits or will wait again once its worker is done. An open queue makes every
key due that is added to it, and forgets that a key is due only by handing it out. A queue is
proper when it lists each waiting key once and knows the keys that workers have; every operation
keeps it so, whatever order the operations come in. -/

namespace ReleaseControl

namespace WorkQueue

/-- The key waits, or it was added again while a worker has it. -/
def Due (q : WorkQueue) (k : RecordKey) : Prop :=
  q.state? k = some .queued ∨ q.state? k = some .dirty

/-- The queue is open, lists the waiting keys once each, and `busy` tells the keys that were handed
out. -/
structure Proper (q : WorkQueue) (busy : RecordKey → Prop) : Prop where
  isOpen : q.isClosed = false
  nodup : q.ready.Nodup
  ready : ∀ k, k ∈ q.ready ↔ q.state? k = some .queued
  busy : ∀ k, busy k ↔ q.state? k = some .inFlight ∨ q.state? k = some .dirty

theorem proper_new (backoff : Backoff) : (new backoff).Proper fun _ => False where
  isOpen := rfl
  nodup := List.nodup_nil
  ready _ := ⟨fun h => (by cases h), fun h => (by cases h)⟩
  busy _ := ⟨False.elim, fun h => h.elim (fun h => (by cases h)) fun h => (by cases h)⟩

/-! ## Adding -/

/-- What adding makes of the state of the key. -/
def afterAdd : Option KeyState → KeyState
  | none | some .queued => .queued
  | some .inFlight | some .dirty => .dirty

theorem state?_add {q : WorkQueue} (hopen : q.isClosed = false) (j k : RecordKey) :
    (q.add k).state? j = if j = k then some (afterAdd (q.state? k)) else q.state? j := by
  have hkeep {st : KeyState} (hk : q.state? k = some st) (hst : afterAdd (some st) = st) :
      q.state? j = if j = k then some (afterAdd (some st)) else q.state? j := by
    split
    · next heq => rw [heq, hk, hst]
    · rfl
  simp only [add, hopen, Bool.false_eq_true, if_false]
  cases hk : q.state? k with
  | none => exact Assoc.get?_put j k _ _
  | some st =>
      cases st with
      | queued => exact hkeep hk rfl
      | inFlight => exact Assoc.get?_put j k _ _
      | dirty => exact hkeep hk rfl

theorem due_add {q : WorkQueue} (hopen : q.isClosed = false) (k : RecordKey) :
    (q.add k).Due k := by
  unfold Due
  rw [state?_add hopen, if_pos rfl]
  rcases q.state? k with - | - | - | -
  · exact .inl rfl
  · exact .inl rfl
  · exact .inr rfl
  · exact .inr rfl

theorem Due.add {q : WorkQueue} (hopen : q.isClosed = false) {j : RecordKey} (h : q.Due j)
    (k : RecordKey) : (q.add k).Due j := by
  by_cases hk : j = k
  · rw [hk]
    exact due_add hopen k
  · unfold Due
    rw [state?_add hopen, if_neg hk]
    exact h

theorem ready_add {q : WorkQueue} (hopen : q.isClosed = false) (k : RecordKey) :
    (q.add k).ready = if q.state? k = none then q.ready ++ [k] else q.ready := by
  simp only [add, hopen, Bool.false_eq_true, if_false]
  rcases q.state? k with - | - | - | - <;> rfl

theorem isClosed_add (q : WorkQueue) (k : RecordKey) : (q.add k).isClosed = q.isClosed := by
  unfold add
  split
  · rfl
  · split <;> rfl

theorem state?_done (q : WorkQueue) (j k : RecordKey) :
    (q.done k).state? j = if j = k then match q.state? k with
        | some .dirty => some .queued
        | some .inFlight => none
        | st => st
      else q.state? j := by
  have hkeep : q.state? j = if j = k then q.state? k else q.state? j := by
    split
    · next heq => rw [heq]
    · rfl
  unfold done
  rcases hk : q.state? k with - | - | - | -
  · rw [hk] at hkeep
    exact hkeep
  · rw [hk] at hkeep
    exact hkeep
  · exact Assoc.get?_remove j k _
  · exact Assoc.get?_put j k _ _

/-- A worker that asks gets the first key in line, or nothing happens. -/
theorem next_cases (q : WorkQueue) : (∃ k q', q.next = (.key k, q')) ∨
    ((∀ k, q.next.1 ≠ .key k) ∧ q.next.2 = q) := by
  unfold next
  split
  · exact .inr ⟨fun k hk => (by cases hk), rfl⟩
  · split
    · exact .inr ⟨fun k hk => (by cases hk), rfl⟩
    · exact .inl ⟨_, _, rfl⟩

/-- The key that a worker gets stood first in line, and no other key moves. -/
theorem of_next {q q' : WorkQueue} {k : RecordKey} (hnext : q.next = (.key k, q')) :
    q'.isClosed = false ∧ q.ready = k :: q'.ready ∧
      ∀ j, q'.state? j = if j = k then some .inFlight else q.state? j := by
  unfold WorkQueue.next at hnext
  split at hnext
  · cases hnext
  · next hopen =>
      cases hready : q.ready with
      | nil =>
          rw [hready] at hnext
          cases hnext
      | cons k' rest =>
          rw [hready] at hnext
          cases hnext
          exact ⟨Bool.eq_false_iff.mpr hopen, rfl, fun j => Assoc.get?_put j k _ _⟩

namespace Proper

variable {q : WorkQueue} {busy : RecordKey → Prop}

theorem congr {busy' : RecordKey → Prop} (h : q.Proper busy) (hbusy : ∀ k, busy k ↔ busy' k) :
    q.Proper busy' :=
  ⟨h.isOpen, h.nodup, h.ready, fun k => (hbusy k).symm.trans (h.busy k)⟩

theorem add (h : q.Proper busy) (k : RecordKey) : (q.add k).Proper busy where
  isOpen := (isClosed_add q k).trans h.isOpen
  nodup := by
    rw [ready_add h.isOpen]
    split
    · next hk =>
        refine List.nodup_append.mpr ⟨h.nodup, by simp, ?_⟩
        rintro a ha b hb rfl
        rw [List.mem_singleton.mp hb, h.ready, hk] at ha
        cases ha
    · exact h.nodup
  ready j := by
    rw [ready_add h.isOpen, state?_add h.isOpen]
    by_cases hj : j = k
    · subst hj
      rw [if_pos rfl]
      rcases hst : q.state? j with - | - | - | - <;> simp [afterAdd, h.ready, hst]
    · rw [if_neg hj, ← h.ready j]
      split
      · simp [hj]
      · rfl
  busy j := by
    rw [h.busy, state?_add h.isOpen]
    by_cases hj : j = k
    · subst hj
      rw [if_pos rfl]
      rcases q.state? j with - | - | - | - <;> simp [afterAdd]
    · rw [if_neg hj]

/-- A queue without keys in line or with workers knows no key. -/
theorem states_eq_nil (h : q.Proper busy) (hready : q.ready = []) (hbusy : ∀ k, ¬ busy k) :
    q.states = [] := by
  refine Assoc.eq_nil_of_get? fun k => ?_
  have hnot := mt (h.busy k).mpr (hbusy k)
  have hwaits := h.ready k
  rw [hready] at hwaits
  rcases hk : q.state? k with - | - | - | -
  · exact hk
  · exact (List.not_mem_nil (hwaits.mpr hk)).elim
  · exact (hnot (.inl hk)).elim
  · exact (hnot (.inr hk)).elim

/-! ## Adding many keys -/

theorem foldl_add (h : q.Proper busy) (keys : List RecordKey) :
    (keys.foldl (fun q k => q.add k) q).Proper busy := by
  induction keys generalizing q with
  | nil => exact h
  | cons k rest ih => exact ih (h.add k)

theorem due_foldl_add (h : q.Proper busy) {keys : List RecordKey} {j : RecordKey}
    (hj : q.Due j ∨ j ∈ keys) : (keys.foldl (fun q k => q.add k) q).Due j := by
  induction keys generalizing q with
  | nil => exact hj.resolve_right (List.not_mem_nil)
  | cons k rest ih =>
      refine ih (h.add k) ?_
      rcases hj with hdue | hmem
      · exact .inl (hdue.add h.isOpen k)
      · rcases List.mem_cons.mp hmem with rfl | hmem
        · exact .inl (due_add h.isOpen j)
        · exact .inr hmem

/-! ## Handing out and taking back -/

/-- A key that is handed out waited, and its worker has it from then on. -/
theorem next (h : q.Proper busy) {k : RecordKey} {q' : WorkQueue} (hnext : q.next = (.key k, q')) :
    ¬ busy k ∧ q'.Proper (fun j => j = k ∨ busy j) ∧ ∀ j, j ≠ k → q.Due j → q'.Due j := by
  obtain ⟨hopen, hready, hstate⟩ := of_next hnext
  have hqueued : q.state? k = some .queued := (h.ready k).mp (hready ▸ List.mem_cons_self)
  have hnodup := h.nodup
  rw [hready, List.nodup_cons] at hnodup
  refine ⟨?_, ⟨hopen, hnodup.2, ?_, ?_⟩, ?_⟩
  · rw [h.busy, hqueued]
    rintro (hk | hk) <;> cases hk
  · intro j
    rw [hstate]
    by_cases hj : j = k
    · subst hj
      simp [hnodup.1]
    · rw [if_neg hj, ← h.ready j, hready, List.mem_cons, or_iff_right hj]
  · intro j
    rw [hstate]
    by_cases hj : j = k
    · simp [hj]
    · rw [if_neg hj, ← h.busy j, or_iff_right hj]
  · intro j hj hdue
    unfold Due
    rw [hstate, if_neg hj]
    exact hdue

theorem done (h : q.Proper busy) {k : RecordKey} (hk : busy k) :
    (q.done k).Proper fun j => j ≠ k ∧ busy j := by
  have hstate := state?_done q
  -- in flight the key leaves the queue, dirty it goes back into line
  rcases (h.busy k).mp hk with hflight | hdirty
  · have hready : (q.done k).ready = q.ready := by rw [WorkQueue.done, hflight]
    have hclosed : (q.done k).isClosed = q.isClosed := by rw [WorkQueue.done, hflight]
    refine ⟨hclosed.trans h.isOpen, hready ▸ h.nodup, ?_, ?_⟩
    · intro j
      rw [hready, hstate, hflight, h.ready]
      by_cases hj : j = k
      · rw [if_pos hj, hj, hflight]
        simp
      · rw [if_neg hj]
    · intro j
      rw [hstate, hflight]
      by_cases hj : j = k
      · simp [hj]
      · simp [hj, h.busy]
  · have hready : (q.done k).ready = q.ready ++ [k] := by
      unfold WorkQueue.done
      rw [hdirty]
      simp [h.isOpen]
    have hclosed : (q.done k).isClosed = q.isClosed := by rw [WorkQueue.done, hdirty]
    have hnot : k ∉ q.ready := by
      rw [h.ready, hdirty]
      intro hk
      cases hk
    refine ⟨hclosed.trans h.isOpen, ?_, ?_, ?_⟩
    · rw [hready]
      refine List.nodup_append.mpr ⟨h.nodup, by simp, ?_⟩
      rintro a ha b hb rfl
      exact hnot (List.mem_singleton.mp hb ▸ ha)
    · intro j
      rw [hready, hstate, hdirty, List.mem_append, List.mem_singleton, h.ready]
      by_cases hj : j = k
      · simp [hj]
      · simp [hj]
    · intro j
      rw [hstate, hdirty]
      by_cases hj : j = k
      · simp [hj]
      · simp [hj, h.busy]

end Proper

theorem Due.done {q : WorkQueue} {j : RecordKey} (h : q.Due j) (k : RecordKey) :
    (q.done k).Due j := by
  unfold Due
  rw [state?_done]
  split
  · next heq =>
      subst heq
      rcases h with h | h
      · rw [h]
        exact .inl rfl
      · rw [h]
        exact .inl rfl
  · exact h

/-- Nothing is due after a worker is done that was not before. -/
theorem Due.of_done {q : WorkQueue} {j k : RecordKey} (h : (q.done k).Due j) : q.Due j := by
  unfold Due at h
  rw [state?_done] at h
  split at h
  · next heq =>
      subst heq
      rcases hst : q.state? j with - | - | - | - <;> simp [hst] at h
      · exact .inl hst
      · exact .inr hst
  · exact h

end WorkQueue

/-! ## Timers -/

namespace TimedQueue

/-- A timer is set for the key. -/
def HasTimer (t : TimedQueue) (k : RecordKey) : Prop := ∃ e ∈ t.timers, e.2 = k

variable {t : TimedQueue} {busy : RecordKey → Prop}

theorem proper_addAfter (h : t.queue.Proper busy) (k : RecordKey) (delay : Nat) :
    (t.addAfter k delay).queue.Proper busy := by
  unfold addAfter
  split
  · exact h.add k
  · exact h

/-- A key that is added after a delay is due at once or has a timer. -/
theorem due_or_hasTimer_addAfter (h : t.queue.Proper busy) (k : RecordKey) (delay : Nat) :
    (t.addAfter k delay).queue.Due k ∨ (t.addAfter k delay).HasTimer k := by
  unfold addAfter
  split
  · exact .inl (WorkQueue.due_add h.isOpen k)
  · exact .inr ⟨_, List.mem_append_right _ List.mem_cons_self, rfl⟩

theorem due_addAfter (h : t.queue.Proper busy) {j : RecordKey} (hj : t.queue.Due j)
    (k : RecordKey) (delay : Nat) : (t.addAfter k delay).queue.Due j := by
  unfold addAfter
  split
  · exact hj.add h.isOpen k
  · exact hj

theorem hasTimer_addAfter {j : RecordKey} (hj : t.HasTimer j) (k : RecordKey) (delay : Nat) :
    (t.addAfter k delay).HasTimer j := by
  obtain ⟨e, he, hk⟩ := hj
  unfold addAfter
  split
  · exact ⟨e, he, hk⟩
  · exact ⟨e, List.mem_append_left _ he, hk⟩

/-! ### After a failure -/

theorem addRateLimited_eq (k : RecordKey) (t : TimedQueue) : (t.addRateLimited k).2 =
    { t with queue := (t.queue.countFailure k).2 }.addAfter k (t.queue.countFailure k).1 := rfl

/-- Counting a failure changes no state. -/
theorem proper_counted (h : t.queue.Proper busy) (k : RecordKey) :
    (t.queue.countFailure k).2.Proper busy := ⟨h.isOpen, h.nodup, h.ready, h.busy⟩

theorem proper_addRateLimited (h : t.queue.Proper busy) (k : RecordKey) :
    (t.addRateLimited k).2.queue.Proper busy := by
  rw [addRateLimited_eq]
  exact proper_addAfter (proper_counted h k) k _

theorem due_or_hasTimer_addRateLimited (h : t.queue.Proper busy) (k : RecordKey) :
    (t.addRateLimited k).2.queue.Due k ∨ (t.addRateLimited k).2.HasTimer k := by
  rw [addRateLimited_eq]
  exact due_or_hasTimer_addAfter (proper_counted h k) k _

theorem due_addRateLimited (h : t.queue.Proper busy) {j : RecordKey} (hj : t.queue.Due j)
    (k : RecordKey) : (t.addRateLimited k).2.queue.Due j := by
  rw [addRateLimited_eq]
  refine due_addAfter (proper_counted h k) ?_ k _
  exact hj

theorem hasTimer_addRateLimited {j : RecordKey} (hj : t.HasTimer j) (k : RecordKey) :
    (t.addRateLimited k).2.HasTimer j := by
  rw [addRateLimited_eq]
  refine hasTimer_addAfter ?_ k _
  exact hj

/-! ### Going off -/

theorem queue_tick (t : TimedQueue) : t.tick.queue =
    ((t.timers.filter fun e => e.1 ≤ t.clock + 1).map (·.2)).foldl (fun q k => q.add k)
      t.queue := by
  rw [List.foldl_map]
  rfl

theorem proper_tick (h : t.queue.Proper busy) : t.tick.queue.Proper busy := by
  rw [queue_tick]
  exact h.foldl_add _

/-- A timer that goes off makes its key due. -/
theorem due_or_hasTimer_tick (h : t.queue.Proper busy) {k : RecordKey}
    (hk : t.queue.Due k ∨ t.HasTimer k) : t.tick.queue.Due k ∨ t.tick.HasTimer k := by
  rw [queue_tick]
  rcases hk with hdue | ⟨e, he, rfl⟩
  · exact .inl (h.due_foldl_add (.inl hdue))
  · -- the deadline is reached, or the timer stays
    by_cases hgo : e.1 ≤ t.clock + 1
    · refine .inl (h.due_foldl_add (.inr (List.mem_map.mpr ⟨e, ?_, rfl⟩)))
      exact List.mem_filter.mpr ⟨he, by simpa using hgo⟩
    · exact .inr ⟨e, List.mem_filter.mpr ⟨he, by simpa using hgo⟩, rfl⟩

end TimedQueue

/-! ## Queueing -/

namespace Worker

/-- Keys that the queue does not know wait in their order. -/
theorem addAll_fresh {q : WorkQueue} (hopen : q.isClosed = false) {keys : List RecordKey}
    (hnodup : keys.Nodup) (hfresh : ∀ k ∈ keys, q.state? k = none) :
    (addAll keys q).ready = q.ready ++ keys ∧
      ∀ j, (addAll keys q).state? j = if j ∈ keys then some .queued else q.state? j := by
  induction keys generalizing q with
  | nil => exact ⟨(List.append_nil _).symm, fun j => (if_neg List.not_mem_nil).symm⟩
  | cons k rest ih =>
      obtain ⟨hk, hrest⟩ := List.nodup_cons.mp hnodup
      have hknone := hfresh k List.mem_cons_self
      have hstate (j : RecordKey) :
          (q.add k).state? j = if j = k then some .queued else q.state? j := by
        rw [WorkQueue.state?_add hopen, hknone]
        rfl
      have hopen' : (q.add k).isClosed = false := (WorkQueue.isClosed_add q k).trans hopen
      obtain ⟨hready', hstate'⟩ := ih hopen' hrest fun j hj => by
        have hne : j ≠ k := fun heq => hk (heq ▸ hj)
        rw [hstate, if_neg hne]
        exact hfresh j (List.mem_cons_of_mem k hj)
      have hall : addAll (k :: rest) q = addAll rest (q.add k) := rfl
      rw [hall]
      refine ⟨?_, ?_⟩
      · rw [hready', WorkQueue.ready_add hopen, if_pos hknone, List.append_assoc]
        rfl
      · intro j
        rw [hstate', hstate]
        by_cases hj : j = k
        · simp [hj]
        · simp [hj]

/-! ## Concluding -/

/-- Whether the key comes back after an attempt that ended so. -/
def retries : Program.Outcome (Except ReconcileError Unit) → Bool
  | .returned (.ok _) => false
  | .returned (.error e) => e.isRetryable
  | .crashed => true

theorem conclude_eq (k : RecordKey) (o : Program.Outcome (Except ReconcileError Unit))
    (t : TimedQueue) : conclude k o t = if retries o then ((t.modify (·.done k)).addRateLimited k).2
      else (t.modify (·.done k)).modify (·.forget k) := by
  rcases o with (e | a) | -
  · rfl
  · rfl
  · rfl

variable {t : TimedQueue} {busy : RecordKey → Prop} {k j : RecordKey}
  {o : Program.Outcome (Except ReconcileError Unit)}

theorem proper_conclude (h : t.queue.Proper busy) (hk : busy k)
    (o : Program.Outcome (Except ReconcileError Unit)) :
    (conclude k o t).queue.Proper fun j => j ≠ k ∧ busy j := by
  have hdone : (t.modify (·.done k)).queue.Proper fun j => j ≠ k ∧ busy j := h.done hk
  rw [conclude_eq]
  split
  · exact TimedQueue.proper_addRateLimited hdone k
  · exact ⟨hdone.isOpen, hdone.nodup, hdone.ready, hdone.busy⟩

/-- Giving a key back loses nothing. -/
theorem due_or_hasTimer_conclude (h : t.queue.Proper busy) (hk : busy k)
    (hj : t.queue.Due j ∨ t.HasTimer j) (o : Program.Outcome (Except ReconcileError Unit)) :
    (conclude k o t).queue.Due j ∨ (conclude k o t).HasTimer j := by
  have hdone : (t.modify (·.done k)).queue.Proper fun j => j ≠ k ∧ busy j := h.done hk
  have hj' : (t.modify (·.done k)).queue.Due j ∨ (t.modify (·.done k)).HasTimer j :=
    hj.imp_left fun hdue => hdue.done k
  rw [conclude_eq]
  split
  · rcases hj' with hdue | htimer
    · exact .inl (TimedQueue.due_addRateLimited hdone hdue k)
    · exact .inr (TimedQueue.hasTimer_addRateLimited htimer k)
  · exact hj'

/-- After an attempt that is to be retried the key comes back. -/
theorem due_or_hasTimer_retry (h : t.queue.Proper busy) (hk : busy k) (ho : retries o) :
    (conclude k o t).queue.Due k ∨ (conclude k o t).HasTimer k := by
  have hdone : (t.modify (·.done k)).queue.Proper fun j => j ≠ k ∧ busy j := h.done hk
  rw [conclude_eq, if_pos ho]
  exact TimedQueue.due_or_hasTimer_addRateLimited hdone k

/-- After another one nothing comes back that would not have come anyway. -/
theorem of_conclude (ho : retries o = false) :
    ((conclude k o t).queue.Due j → t.queue.Due j) ∧
      ((conclude k o t).HasTimer j → t.HasTimer j) := by
  rw [conclude_eq, ho]
  exact ⟨fun hdue => WorkQueue.Due.of_done (q := t.queue) hdue, id⟩

end Worker

end ReleaseControl
