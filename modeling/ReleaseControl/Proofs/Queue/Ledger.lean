import Mathlib.Data.List.Induction
import Mathlib.Data.List.Nodup
import ReleaseControl.Proofs.Queue
import ReleaseControl.Proofs.Timeline

/-! # What a queue hands out

The operations of a queue come in any order: adds, adds with a delay whose timers go off whenever
their time has come, failures that are forgotten, workers that ask for keys and give keys back. The
ledger of a run (`ledger`) lists what happened, each entry read off the calls and the states before
and after: an add took effect, a key began to wait, a worker was handed a key or gave one back.

From the ledger alone it follows which keys the queue holds (`handOut`). The line of waiting keys
is what began to wait and was not handed out yet, in that order; a key is due exactly when an add
of it was not followed by a hand-out; and if workers give back only what they have, no key is with
two of them. -/

namespace ReleaseControl

namespace TimedQueue

open Timeline

/-! ## Operations -/

/-- The key of a timer whose time has come. -/
def due? (i : Nat) (t : TimedQueue) : Option RecordKey :=
  (t.timers[i]?.filter fun e => e.1 ≤ t.clock).map (·.2)

/-- A timer goes off and its key is added, if its time has come. -/
def goOff (i : Nat) (t : TimedQueue) : TimedQueue :=
  match t.due? i with
  | some k => { t with queue := t.queue.add k, timers := t.timers.eraseIdx i }
  | none => t

/-- The clock moves on by one millisecond. -/
def pass (t : TimedQueue) : TimedQueue := { t with clock := t.clock + 1 }

/-- What can be done to a queue that stays open. -/
inductive Operation where
  | add (k : RecordKey)
  | addAfter (k : RecordKey) (delay : Nat)
  | addRateLimited (k : RecordKey)
  | goOff (timer : Nat)
  | pass
  | forget (k : RecordKey)
  /-- A worker asks for a key. -/
  | next (worker : Nat)
  /-- A worker gives a key back. -/
  | done (worker : Nat) (k : RecordKey)
  deriving DecidableEq

def Operation.apply (t : TimedQueue) : Operation → TimedQueue
  | add k => t.modify (·.add k)
  | addAfter k delay => t.addAfter k delay
  | addRateLimited k => (t.addRateLimited k).2
  | goOff i => t.goOff i
  | pass => t.pass
  | forget k => t.modify (·.forget k)
  | next _ => t.modify (·.next.2)
  | done _ k => t.modify (·.done k)

/-- The queue after some operations on a new one. -/
def replay (backoff : Backoff) (ops : List Operation) : TimedQueue :=
  ops.foldl Operation.apply (.new backoff)

theorem replay_concat (backoff : Backoff) (ops : List Operation) (op : Operation) :
    replay backoff (ops ++ [op]) = op.apply (replay backoff ops) := by
  unfold replay
  rw [List.foldl_append]
  rfl

/-! ### Ticks

A tick is one way in which the clock can move on: every timer whose time has come goes off at once,
in the order in which they were set. -/

theorem goOff_of_due {t : TimedQueue} {before after : List (Nat × RecordKey)}
    {e : Nat × RecordKey} (htimers : t.timers = before ++ e :: after) (hdue : e.1 ≤ t.clock) :
    t.goOff before.length = ⟨t.queue.add e.2, t.clock, before ++ after⟩ := by
  have hfound : t.due? before.length = some e.2 := by
    simp [due?, htimers, Option.filter, hdue]
  unfold goOff
  rw [hfound, htimers]
  simp [List.eraseIdx_append_of_length_le]

/-- The timers behind those that stay go off one after another. -/
theorem exists_goOff (stay timers : List (Nat × RecordKey)) (q : WorkQueue) (clock : Nat) :
    ∃ ops : List Operation, ops.foldl Operation.apply ⟨q, clock, stay ++ timers⟩ =
      ⟨(timers.filter fun e => e.1 ≤ clock).foldl (fun q e => q.add e.2) q, clock,
        stay ++ timers.filter fun e => !(e.1 ≤ clock)⟩ := by
  induction timers generalizing stay q with
  | nil => exact ⟨[], rfl⟩
  | cons e rest ih =>
      by_cases hdue : e.1 ≤ clock
      · obtain ⟨ops, hops⟩ := ih stay (q.add e.2)
        refine ⟨.goOff stay.length :: ops, ?_⟩
        have hgo : Operation.apply ⟨q, clock, stay ++ e :: rest⟩ (.goOff stay.length) =
            ⟨q.add e.2, clock, stay ++ rest⟩ := goOff_of_due rfl hdue
        rw [List.foldl_cons, hgo, hops]
        simp [hdue]
      · obtain ⟨ops, hops⟩ := ih (stay ++ [e]) q
        rw [List.append_assoc, List.singleton_append] at hops
        refine ⟨ops, ?_⟩
        rw [hops]
        simp [hdue]

/-- A tick is such a sequence of operations. -/
theorem exists_tick (t : TimedQueue) :
    ∃ ops : List Operation, t.tick = ops.foldl Operation.apply t := by
  obtain ⟨ops, hops⟩ := exists_goOff [] t.timers t.queue (t.clock + 1)
  exact ⟨.pass :: ops, hops.symm⟩

/-! ## The ledger -/

/-- What an operation brought about. -/
inductive Event where
  /-- An add of the key took effect. -/
  | added (k : RecordKey)
  /-- The key waits and did not wait before. -/
  | queued (k : RecordKey)
  | handed (worker : Nat) (k : RecordKey)
  | returned (worker : Nat) (k : RecordKey)
  deriving DecidableEq

/-- The keys that wait afterwards and did not before. -/
def newlyQueued (before after : WorkQueue) : List RecordKey :=
  (Assoc.keys after.states).filter fun k =>
    after.state? k = some .queued ∧ before.state? k ≠ some .queued

/-- The part of an operation that shows in its call: an add that takes effect at once, a key that
is handed out or given back. -/
def Operation.call? (t : TimedQueue) : Operation → Option Event
  | add k => some (.added k)
  | addAfter k delay => if delay = 0 then some (.added k) else none
  | addRateLimited k => if (t.addRateLimited k).1 = 0 then some (.added k) else none
  | goOff i => (t.due? i).map .added
  | pass | forget _ => none
  | next w =>
    match t.queue.next.1 with
    | .key k => some (.handed w k)
    | .pending | .closed => none
  | done w k => some (.returned w k)

/-- The entries that an operation adds to the ledger. -/
def Operation.events (t : TimedQueue) (op : Operation) : List Event :=
  (op.call? t).toList ++ (newlyQueued t.queue (op.apply t).queue).map .queued

/-- The entries of all operations from a state on. -/
def ledgerFrom (t : TimedQueue) : List Operation → List Event
  | [] => []
  | op :: rest => op.events t ++ ledgerFrom (op.apply t) rest

def ledger (backoff : Backoff) (ops : List Operation) : List Event :=
  ledgerFrom (.new backoff) ops

theorem ledgerFrom_concat (t : TimedQueue) (ops : List Operation) (op : Operation) :
    ledgerFrom t (ops ++ [op]) = ledgerFrom t ops ++ op.events (ops.foldl Operation.apply t) := by
  induction ops generalizing t with
  | nil => simp [ledgerFrom]
  | cons first rest ih => simp [ledgerFrom, ih]

theorem ledger_concat (backoff : Backoff) (ops : List Operation) (op : Operation) :
    ledger backoff (ops ++ [op]) = ledger backoff ops ++ op.events (replay backoff ops) :=
  ledgerFrom_concat _ ops op

namespace Event

def queuedKey? : Event → Option RecordKey
  | queued k => some k
  | _ => none

def handedKey? : Event → Option RecordKey
  | handed _ k => some k
  | _ => none

end Event

/-- The keys in the order in which they began to wait. -/
def queuedKeys (log : List Event) : List RecordKey := log.filterMap Event.queuedKey?

/-- The keys in the order in which they were handed out. -/
def handedKeys (log : List Event) : List RecordKey := log.filterMap Event.handedKey?

/-- An add of the key was not followed by a hand-out. -/
def Outstanding (log : List Event) (k : RecordKey) : Prop :=
  ∃ before after, log = before ++ .added k :: after ∧ k ∉ handedKeys after

/-- Every hand-out answers an add. -/
def Justified : List Event → Prop :=
  Each fun past e => ∀ w k, e = .handed w k → Outstanding past k

/-- The keys that workers were handed and did not give back. -/
def holders (log : List Event) : List (Nat × RecordKey) :=
  log.foldl (fun held e => match e with
    | .handed w k => (w, k) :: held
    | .returned w k => held.erase (w, k)
    | .added _ | .queued _ => held) []

/-- Workers give back only what they have: once for each time they were handed it. -/
def Disciplined : List Event → Prop :=
  Each fun past e => ∀ w k, e = .returned w k → (w, k) ∈ holders past

/-! ### One entry more -/

section Concat

variable (log : List Event) (j k : RecordKey) (w : Nat)

@[simp] theorem handedKeys_append (log' : List Event) :
    handedKeys (log ++ log') = handedKeys log ++ handedKeys log' := List.filterMap_append

@[simp] theorem queuedKeys_append (log' : List Event) :
    queuedKeys (log ++ log') = queuedKeys log ++ queuedKeys log' := List.filterMap_append

/-- An add is outstanding that was just made, or that was before and is not answered now. -/
theorem outstanding_concat (e : Event) : Outstanding (log ++ [e]) j ↔
    e = .added j ∨ j ∉ handedKeys [e] ∧ Outstanding log j := by
  constructor
  · rintro ⟨before, after, hlog, hafter⟩
    rcases concat_eq_iff.mp hlog with ⟨-, -, he⟩ | ⟨rest, rfl, rfl⟩
    · exact .inl he.symm
    · rw [handedKeys_append, List.mem_append, not_or] at hafter
      exact .inr ⟨hafter.2, before, rest, rfl, hafter.1⟩
  · rintro (rfl | ⟨he, before, after, rfl, hafter⟩)
    · exact ⟨log, [], rfl, List.not_mem_nil⟩
    · refine ⟨before, after ++ [e], by simp, ?_⟩
      rw [handedKeys_append, List.mem_append, not_or]
      exact ⟨hafter, he⟩

variable {log} in
/-- What one key that begins to wait preserves, several preserve. -/
theorem append_queued {P : List Event → Prop}
    (hone : ∀ log k, P log → P (log ++ [.queued k])) (h : P log) (keys : List RecordKey) :
    P (log ++ keys.map .queued) := by
  induction keys using List.reverseRecOn with
  | nil => rwa [List.map_nil, List.append_nil]
  | append_singleton keys k ih =>
      rw [List.map_append, ← List.append_assoc, List.map_singleton]
      exact hone _ k ih

theorem outstanding_queued (keys : List RecordKey) :
    Outstanding (log ++ keys.map .queued) j ↔ Outstanding log j := by
  refine append_queued (P := fun log' => Outstanding log' j ↔ Outstanding log j) ?_ Iff.rfl keys
  intro log' k hsame
  rw [outstanding_concat, ← hsame]
  simp [handedKeys, Event.handedKey?]

variable {log} in
theorem Justified.queued (h : Justified log) (keys : List RecordKey) :
    Justified (log ++ keys.map .queued) := by
  refine append_queued ?_ h keys
  intro log' k hlog
  exact each_concat.mpr ⟨hlog, fun w j hj => by cases hj⟩

theorem holders_concat (e : Event) : holders (log ++ [e]) = match e with
    | .handed w k => (w, k) :: holders log
    | .returned w k => (holders log).erase (w, k)
    | .added _ | .queued _ => holders log := by
  unfold holders
  rw [List.foldl_append]
  rfl

theorem holders_queued (keys : List RecordKey) :
    holders (log ++ keys.map .queued) = holders log := by
  refine append_queued (P := fun log' => holders log' = holders log) ?_ rfl keys
  intro log' k hsame
  rw [holders_concat, hsame]

end Concat

theorem disciplined_iff {log : List Event} : Disciplined log ↔
    ∀ n < log.length, match log[n]? with
      | some (.returned w k) => (w, k) ∈ holders (log.take n)
      | _ => True := by
  constructor
  · intro h n hn
    rw [List.getElem?_eq_getElem hn]
    split
    · next w k he =>
        rw [Option.some.injEq] at he
        refine h _ _ (log.drop (n + 1)) ?_ w k he
        rw [List.getElem_cons_drop, List.take_append_drop]
    · trivial
  · rintro h before e after rfl w k rfl
    simpa using h before.length (by simp)

instance (log : List Event) : Decidable (Disciplined log) :=
  have (n : Nat) : Decidable (match log[n]? with
      | some (.returned w k) => (w, k) ∈ holders (log.take n)
      | _ => True) := by split <;> infer_instance
  decidable_of_iff _ disciplined_iff.symm

/-! ## What one operation does -/

end TimedQueue

namespace WorkQueue

/-- A worker has the key. -/
def IsOut (q : WorkQueue) (k : RecordKey) : Prop :=
  q.state? k = some .inFlight ∨ q.state? k = some .dirty

/-- The queue knows each key once, and lists each waiting key once. -/
structure Listed (q : WorkQueue) : Prop where
  keys : (Assoc.keys q.states).Nodup
  proper : q.Proper q.IsOut

theorem listed_new (backoff : Backoff) : (new backoff).Listed where
  keys := List.nodup_nil
  proper := (proper_new backoff).congr fun k =>
    ⟨False.elim, fun h => h.elim (fun h => (by cases h)) fun h => (by cases h)⟩

/-- The length of the queue is that of its line. -/
theorem Listed.length_eq {q : WorkQueue} (h : q.Listed) : q.length = q.ready.length := by
  have hlength : q.length = ((q.states.filter fun e => e.2 == .queued).map (·.1)).length := by
    rw [List.length_map]
    rfl
  rw [hlength]
  have hsub : ((q.states.filter fun e => e.2 == .queued).map (·.1)).Nodup :=
    h.keys.sublist (List.filter_sublist.map _)
  refine ((List.perm_ext_iff_of_nodup hsub h.proper.nodup).mpr ?_).length_eq
  intro k
  rw [h.proper.ready, List.mem_map]
  constructor
  · rintro ⟨⟨k, st⟩, he, rfl⟩
    obtain ⟨hmem, hst⟩ := List.mem_filter.mp he
    rw [beq_iff_eq] at hst
    subst hst
    exact Assoc.get?_of_mem h.keys hmem
  · intro hk
    exact ⟨(k, .queued), List.mem_filter.mpr ⟨Assoc.mem_of_get? hk, by simp⟩, rfl⟩

end WorkQueue

namespace TimedQueue

open WorkQueue Timeline

theorem newlyQueued_eq {q q' : WorkQueue} (hkeys : (Assoc.keys q'.states).Nodup) (k : RecordKey)
    (hsame : ∀ j, j ≠ k → q'.state? j = q.state? j) : newlyQueued q q' =
      if q'.state? k = some .queued ∧ q.state? k ≠ some .queued then [k] else [] := by
  unfold newlyQueued
  split
  · next hk =>
      have hmem : k ∈ Assoc.keys q'.states := by
        by_contra hnot
        have hnone : q'.state? k = none := Assoc.get?_eq_none_iff.mpr hnot
        rw [hnone] at hk
        cases hk.1
      have hfilter : (Assoc.keys q'.states).filter (fun j =>
          q'.state? j = some .queued ∧ q.state? j ≠ some .queued) =
            (Assoc.keys q'.states).filter (· == k) := by
        refine List.filter_congr fun j _ => ?_
        by_cases hj : j = k
        · simp [hj, hk]
        · simp [hj, hsame j hj]
      rw [hfilter, List.filter_beq, List.count_eq_one_of_mem hkeys hmem, List.replicate_one]
  · next hk =>
      refine List.filter_eq_nil_iff.mpr fun j _ hj => ?_
      rw [decide_eq_true_eq] at hj
      by_cases hjk : j = k
      · exact hk (hjk ▸ hj)
      · exact hj.2 (hsame j hjk ▸ hj.1)

/-- The keys that workers have after an operation with such a call. -/
def outAfter (out : RecordKey → Prop) : Option Event → RecordKey → Prop
  | some (.handed _ k), j => j = k ∨ out j
  | some (.returned _ k), j => j ≠ k ∧ out j
  | _, j => out j

/-- What an operation with such a call makes of the queue. -/
structure Steps (q : WorkQueue) (e : Option Event) (q' : WorkQueue) : Prop where
  call : queuedKeys e.toList = []
  listed : q'.Listed
  /-- The line grows at its end and shrinks at its front. -/
  line : q.ready ++ newlyQueued q q' = handedKeys e.toList ++ q'.ready
  due : ∀ j, q'.Due j ↔ e = some (.added j) ∨ j ∉ handedKeys e.toList ∧ q.Due j
  handed : ∀ w k, e = some (.handed w k) → q.state? k = some .queued
  out : ∀ j, q'.IsOut j ↔ outAfter q.IsOut e j

variable {q : WorkQueue}

theorem keys_add (h : q.Listed) (k : RecordKey) : (Assoc.keys (q.add k).states).Nodup := by
  unfold WorkQueue.add
  split
  · exact h.keys
  · split
    · exact Assoc.nodup_put _ _ h.keys
    · exact Assoc.nodup_put _ _ h.keys
    · exact h.keys

theorem steps_add (h : q.Listed) (k : RecordKey) : Steps q (some (.added k)) (q.add k) := by
  have hopen := h.proper.isOpen
  have hout (j : RecordKey) : (q.add k).IsOut j ↔ q.IsOut j := ((h.proper.add k).busy j).symm
  have hnew : newlyQueued q (q.add k) = if q.state? k = none then [k] else [] := by
    rw [newlyQueued_eq (keys_add h k) k fun j hj => by rw [state?_add hopen, if_neg hj],
      state?_add hopen, if_pos rfl]
    rcases q.state? k with - | - | - | - <;> simp [afterAdd]
  refine ⟨rfl, ⟨keys_add h k, (h.proper.add k).congr fun j => (hout j).symm⟩, ?_, ?_, ?_, hout⟩
  · rw [hnew, ready_add hopen]
    split <;> simp [handedKeys, Event.handedKey?]
  · intro j
    by_cases hj : j = k
    · subst hj
      simp [due_add hopen]
    · unfold Due
      rw [state?_add hopen, if_neg hj]
      simp [handedKeys, Event.handedKey?, Ne.symm hj]
  · rintro w j ⟨⟩

/-- Failures are counted beside the keys. -/
theorem steps_failures (h : q.Listed) (failures : List (RecordKey × Nat)) :
    Steps q none { q with failures } where
  call := rfl
  listed := ⟨h.keys, ⟨h.proper.isOpen, h.proper.nodup, h.proper.ready, h.proper.busy⟩⟩
  line := by
    have hnew : newlyQueued q { q with failures } = [] :=
      List.filter_eq_nil_iff.mpr fun k _ hk => by simp [state?] at hk
    simp [hnew, handedKeys]
  due _ := by simp [handedKeys, Due, state?]
  handed := by rintro w k ⟨⟩
  out _ := Iff.rfl

theorem keys_next (h : q.Listed) : (Assoc.keys q.next.2.states).Nodup := by
  unfold WorkQueue.next
  split
  · exact h.keys
  · split
    · exact h.keys
    · exact Assoc.nodup_put _ _ h.keys

theorem steps_handed (h : q.Listed) {k : RecordKey} {q' : WorkQueue}
    (hnext : q.next = (.key k, q')) (w : Nat) : Steps q (some (.handed w k)) q' := by
  obtain ⟨-, hproper, -⟩ := h.proper.next hnext
  obtain ⟨-, hready, hstate⟩ := of_next hnext
  have hqueued : q.state? k = some .queued :=
    (h.proper.ready k).mp (hready ▸ List.mem_cons_self)
  have hkeys := keys_next h
  rw [hnext] at hkeys
  have hout (j : RecordKey) : q'.IsOut j ↔ j = k ∨ q.IsOut j := (hproper.busy j).symm
  refine ⟨rfl, ⟨hkeys, hproper.congr fun j => (hout j).symm⟩, ?_, ?_, ?_, hout⟩
  · have hnew : newlyQueued q q' = [] := by
      rw [newlyQueued_eq hkeys k fun j hj => by rw [hstate, if_neg hj], hstate, if_pos rfl]
      simp
    rw [hnew, hready, List.append_nil]
    rfl
  · intro j
    unfold Due
    rw [hstate]
    by_cases hj : j = k
    · simp [hj, handedKeys, Event.handedKey?]
    · simp [hj, handedKeys, Event.handedKey?]
  · rintro w' j ⟨⟩
    exact hqueued

theorem steps_done (h : q.Listed) (w : Nat) (k : RecordKey) :
    Steps q (some (.returned w k)) (q.done k) := by
  have hdue (j : RecordKey) : (q.done k).Due j ↔ q.Due j := ⟨Due.of_done, fun hj => hj.done k⟩
  by_cases hk : q.IsOut k
  · have hproper := h.proper.done hk
    have hout (j : RecordKey) : (q.done k).IsOut j ↔ j ≠ k ∧ q.IsOut j := (hproper.busy j).symm
    have hkeys : (Assoc.keys (q.done k).states).Nodup := by
      unfold WorkQueue.done
      split
      · exact Assoc.nodup_put _ _ h.keys
      · exact Assoc.nodup_remove _ h.keys
      · exact h.keys
    refine ⟨rfl, ⟨hkeys, hproper.congr fun j => (hout j).symm⟩, ?_, ?_, ?_, hout⟩
    · -- a key that was added meanwhile goes to the end of the line
      rw [newlyQueued_eq hkeys k fun j hj => by rw [state?_done, if_neg hj], state?_done,
        if_pos rfl]
      rcases hk with hflight | hdirty
      · simp [hflight, WorkQueue.done, handedKeys, Event.handedKey?]
      · simp [hdirty, WorkQueue.done, h.proper.isOpen, handedKeys, Event.handedKey?]
    · intro j
      simp [hdue, handedKeys, Event.handedKey?]
    · rintro w' j ⟨⟩
  · -- nobody has the key: nothing happens
    have hsame : q.done k = q := by
      unfold IsOut at hk
      unfold WorkQueue.done
      rcases hst : q.state? k with - | - | - | - <;> simp [hst] at hk ⊢
    have hline := (steps_failures h q.failures).line
    refine ⟨rfl, hsame.symm ▸ h, ?_, ?_, ?_, ?_⟩
    · rw [hsame]
      exact hline
    · intro j
      simp [hdue, handedKeys, Event.handedKey?]
    · rintro w' j ⟨⟩
    · intro j
      rw [hsame]
      exact ⟨fun hj => ⟨fun heq => hk (heq ▸ hj), hj⟩, And.right⟩

/-- Each operation is one such step. -/
theorem Operation.steps {t : TimedQueue} (h : t.queue.Listed) (op : Operation) :
    Steps t.queue (op.call? t) (op.apply t).queue := by
  have hidle : Steps t.queue none t.queue := steps_failures h t.queue.failures
  have hdelayed (k : RecordKey) (delay : Nat) :
      Steps t.queue (if delay = 0 then some (.added k) else none) (t.addAfter k delay).queue := by
    unfold TimedQueue.addAfter
    split
    · exact steps_add h k
    · exact hidle
  cases op with
  | add k => exact steps_add h k
  | addAfter k delay => exact hdelayed k delay
  | addRateLimited k =>
      have hcounted := (steps_failures h (t.queue.countFailure k).2.failures).listed
      show Steps t.queue (if (t.queue.countFailure k).1 = 0 then some (.added k) else none)
        (t.addRateLimited k).2.queue
      rw [addRateLimited_eq]
      unfold TimedQueue.addAfter
      by_cases hzero : (t.queue.countFailure k).1 = 0
      · rw [if_pos hzero, if_pos hzero]
        obtain ⟨-, hlisted, hline, hdue, hhanded, hout⟩ := steps_add hcounted k
        exact ⟨rfl, hlisted, hline, hdue, hhanded, hout⟩
      · rw [if_neg hzero, if_neg hzero]
        exact steps_failures h _
  | goOff i =>
      show Steps t.queue ((t.due? i).map .added) (t.goOff i).queue
      unfold TimedQueue.goOff
      cases t.due? i with
      | none => exact hidle
      | some k => exact steps_add h k
  | pass => exact hidle
  | forget k => exact steps_failures h _
  | next w =>
      show Steps t.queue (match t.queue.next.1 with
        | .key k => some (.handed w k)
        | .pending | .closed => none) t.queue.next.2
      rcases next_cases t.queue with ⟨k, q', hnext⟩ | ⟨hnone, hsame⟩
      · rw [hnext]
        exact steps_handed h hnext w
      · rw [hsame]
        split
        · next k hk => exact absurd hk (hnone k)
        · exact hidle
        · exact hidle
  | done w k => exact steps_done h w k

/-! ## The queue and its ledger -/

/-- The ledger tells the keys of the queue. -/
structure Accounts (q : WorkQueue) (log : List Event) : Prop where
  listed : q.Listed
  line : queuedKeys log = handedKeys log ++ q.ready
  due : ∀ k, q.Due k ↔ Outstanding log k
  justified : Justified log

/-- Workers have the keys that are out, and no key is with two of them. -/
structure Exclusive (q : WorkQueue) (log : List Event) : Prop where
  nodup : ((holders log).map (·.2)).Nodup
  out : ∀ k, q.IsOut k ↔ k ∈ (holders log).map (·.2)

variable {q' : WorkQueue} {log : List Event} {e : Option Event}

theorem queuedKeys_entries (e : Option Event) (keys : List RecordKey) :
    queuedKeys (e.toList ++ keys.map .queued) = queuedKeys e.toList ++ keys := by
  rw [queuedKeys_append]
  simp [queuedKeys, Event.queuedKey?, Function.comp_def]

theorem handedKeys_entries (e : Option Event) (keys : List RecordKey) :
    handedKeys (e.toList ++ keys.map .queued) = handedKeys e.toList := by
  rw [handedKeys_append]
  simp [handedKeys, Event.handedKey?, Function.comp_def]

theorem Accounts.step (h : Accounts q log) (hstep : Steps q e q') :
    Accounts q' (log ++ (e.toList ++ (newlyQueued q q').map .queued)) where
  listed := hstep.listed
  line := by
    calc queuedKeys (log ++ (e.toList ++ (newlyQueued q q').map .queued))
        = queuedKeys log ++ newlyQueued q q' := by
          rw [queuedKeys_append, queuedKeys_entries, hstep.call, List.nil_append]
      _ = handedKeys log ++ (handedKeys e.toList ++ q'.ready) := by
          rw [h.line, List.append_assoc, hstep.line]
      _ = handedKeys (log ++ (e.toList ++ (newlyQueued q q').map .queued)) ++ q'.ready := by
          rw [handedKeys_append, handedKeys_entries, List.append_assoc]
  due j := by
    rw [hstep.due, ← List.append_assoc, outstanding_queued]
    cases e with
    | none => simp [handedKeys, h.due]
    | some e => simp [outstanding_concat, h.due]
  justified := by
    rw [← List.append_assoc]
    refine Justified.queued ?_ _
    cases e with
    | none => simpa using h.justified
    | some e =>
        refine each_concat.mpr ⟨h.justified, fun w k he => ?_⟩
        rw [← h.due]
        exact .inl (hstep.handed w k (congrArg some he))

/-- Giving back the one key leaves the others. -/
theorem mem_keys_erase {held : List (Nat × RecordKey)} (hnodup : (held.map (·.2)).Nodup)
    {w : Nat} {k : RecordKey} (hk : (w, k) ∈ held) (j : RecordKey) :
    j ∈ (held.erase (w, k)).map (·.2) ↔ j ≠ k ∧ j ∈ held.map (·.2) := by
  have herase (p : Nat × RecordKey) : p ∈ held.erase (w, k) ↔ p ≠ (w, k) ∧ p ∈ held :=
    (List.Nodup.of_map _ hnodup).mem_erase_iff
  constructor
  · intro hj
    obtain ⟨p, hp, rfl⟩ := List.mem_map.mp hj
    obtain ⟨hne, hmem⟩ := (herase p).mp hp
    exact ⟨fun heq => hne (List.inj_on_of_nodup_map hnodup hmem hk heq), List.mem_map_of_mem hmem⟩
  · rintro ⟨hne, hj⟩
    obtain ⟨p, hp, rfl⟩ := List.mem_map.mp hj
    exact List.mem_map_of_mem ((herase p).mpr ⟨fun heq => hne (congrArg Prod.snd heq), hp⟩)

theorem Exclusive.step (h : Exclusive q log) (hstep : Steps q e q')
    (hdisciplined : Disciplined (log ++ (e.toList ++ (newlyQueued q q').map .queued))) :
    Exclusive q' (log ++ (e.toList ++ (newlyQueued q q').map .queued)) := by
  rw [← List.append_assoc] at hdisciplined ⊢
  have hholders := holders_queued (log ++ e.toList) (newlyQueued q q')
  suffices hnew : Exclusive q' (log ++ e.toList) by
    exact ⟨hholders.symm ▸ hnew.nodup, hholders.symm ▸ hnew.out⟩
  have hd : Disciplined (log ++ e.toList) := hdisciplined.of_append
  cases e with
  | none =>
      rw [Option.toList_none, List.append_nil]
      exact ⟨h.nodup, fun k => (hstep.out k).trans (h.out k)⟩
  | some e =>
      rw [Option.toList_some] at hd ⊢
      cases e with
      | added k | queued k =>
          have hsame := holders_concat log
          refine ⟨?_, fun j => ?_⟩
          · rw [hsame]
            exact h.nodup
          · rw [hsame]
            exact (hstep.out j).trans (h.out j)
      | handed w k =>
          -- the key waited, so no worker had it
          have hfree : k ∉ (holders log).map (·.2) := by
            rw [← h.out]
            have hqueued := hstep.handed w k rfl
            rintro (hk | hk) <;> cases hqueued.symm.trans hk
          refine ⟨?_, fun j => ?_⟩
          · rw [holders_concat, List.map_cons, List.nodup_cons]
            exact ⟨hfree, h.nodup⟩
          · rw [hstep.out, holders_concat, List.map_cons, List.mem_cons, ← h.out]
            rfl
      | returned w k =>
          have hmem : (w, k) ∈ holders log := (each_concat.mp hd).2 w k rfl
          refine ⟨?_, fun j => ?_⟩
          · rw [holders_concat]
            exact h.nodup.sublist (List.erase_sublist.map _)
          · rw [hstep.out, holders_concat]
            show j ≠ k ∧ q.IsOut j ↔ _
            rw [h.out, mem_keys_erase h.nodup hmem]

/-! ## Every run -/

variable (backoff : Backoff) (ops : List Operation)

theorem accounts_replay : Accounts (replay backoff ops).queue (ledger backoff ops) := by
  induction ops using List.reverseRecOn with
  | nil =>
      refine ⟨listed_new backoff, rfl, fun k => ⟨?_, ?_⟩, ?_⟩
      · rintro (hk | hk) <;> cases hk
      · rintro ⟨before, after, hlog, -⟩
        exact absurd hlog (by simp [ledger, ledgerFrom])
      · exact each_nil _
  | append_singleton ops op ih =>
      rw [replay_concat, ledger_concat]
      exact ih.step (op.steps ih.listed)

theorem exclusive_replay (h : Disciplined (ledger backoff ops)) :
    Exclusive (replay backoff ops).queue (ledger backoff ops) := by
  induction ops using List.reverseRecOn with
  | nil =>
      refine ⟨List.nodup_nil, fun k => ⟨?_, fun hk => (by cases hk)⟩⟩
      rintro (hk | hk) <;> cases hk
  | append_singleton ops op ih =>
      rw [ledger_concat] at h
      rw [replay_concat, ledger_concat]
      exact (ih h.of_append).step (op.steps (accounts_replay backoff ops).listed) h

/-- Whatever is done to an open queue, in whatever order: its line holds the keys that wait, each
once, and is what began to wait and was not handed out yet, first come first; a key is due exactly
when an add of it was not followed by a hand-out, and every hand-out answers an add; and while
workers give back only what they have, no key is with two of them. -/
theorem hand_out :
    ((replay backoff ops).queue.ready.Nodup ∧
        (∀ k, k ∈ (replay backoff ops).queue.ready ↔
          (replay backoff ops).queue.state? k = some .queued) ∧
        (replay backoff ops).queue.length = (replay backoff ops).queue.ready.length ∧
        queuedKeys (ledger backoff ops) =
          handedKeys (ledger backoff ops) ++ (replay backoff ops).queue.ready) ∧
      ((∀ k, (replay backoff ops).queue.state? k = some .queued ∨
          (replay backoff ops).queue.state? k = some .dirty ↔
            Outstanding (ledger backoff ops) k) ∧
        Justified (ledger backoff ops)) ∧
      (Disciplined (ledger backoff ops) → ((holders (ledger backoff ops)).map (·.2)).Nodup) := by
  have h := accounts_replay backoff ops
  refine ⟨⟨h.listed.proper.nodup, h.listed.proper.ready, h.listed.length_eq, h.line⟩,
    ⟨h.due, h.justified⟩, ?_⟩
  intro hdisciplined
  exact (exclusive_replay backoff ops hdisciplined).nodup

/-- Two workers share two keys: one is added again while a worker has it, waits again when it comes
back and goes to the other worker; the other is added by a timer. -/
def shared : List Operation := [
  .add ⟨"a", "r"⟩, .next 1, .add ⟨"a", "r"⟩, .next 2, .addRateLimited ⟨"a", "s"⟩,
  .done 1 ⟨"a", "r"⟩, .next 2] ++ List.replicate 100 .pass ++ [.goOff 0, .next 1]

theorem hand_out_shared : Disciplined (ledger .default shared) ∧
    holders (ledger .default shared) = [(1, ⟨"a", "s"⟩), (2, ⟨"a", "r"⟩)] ∧
    ((holders (ledger .default shared)).map (·.2)).Nodup :=
  ⟨by decide +kernel, by decide +kernel, (hand_out .default shared).2.2 (by decide +kernel)⟩

end TimedQueue

end ReleaseControl
