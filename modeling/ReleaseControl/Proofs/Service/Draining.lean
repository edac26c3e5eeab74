import Mathlib.Algebra.GroupWithZero.Nat
import Mathlib.Algebra.Order.BigOperators.Group.List
import ReleaseControl.Proofs.Reconcile.SideBySide
import ReleaseControl.Proofs.Service.Running

/-! # Draining the queue

The Releases of a batch are queued, and workers take their keys, make attempts and give the keys
back, with nothing else going on. Every move brings one of the keys nearer to its end (`Standing`)
and touches no other, so the queue is drained after a number of moves that the batch bounds, each
key was handed out once and in line, and what is left in the slots of a Release depends on the
store that the batch was queued on. -/

namespace ReleaseControl.Service

open Program Store Reconcile

/-! ## The worker loop -/

/-- No key waits or is with a worker, and none is to come. -/
structure Idle (v : Service) : Prop where
  isOpen : v.work.queue.isClosed = false
  ready : v.work.queue.ready = []
  states : v.work.queue.states = []
  timers : v.work.timers = []
  attempts : v.attempts = []

instance (v : Service) : Decidable v.Idle :=
  decidable_of_iff (v.work.queue.isClosed = false ∧ v.work.queue.ready = [] ∧
      v.work.queue.states = [] ∧ v.work.timers = [] ∧ v.attempts.isEmpty)
    ⟨fun ⟨hopen, hready, hstates, htimers, hattempts⟩ =>
      ⟨hopen, hready, hstates, htimers, List.isEmpty_iff.mp hattempts⟩,
    fun h => ⟨h.isOpen, h.ready, h.states, h.timers, List.isEmpty_iff.mpr h.attempts⟩⟩

/-- The service with keys queued, in order. -/
def queueing (keys : List RecordKey) (v : Service) : Service :=
  { v with work := v.work.modify (Worker.addAll keys) }

/-- What so many workers can do: calls are answered, attempts do not crash and nobody else moves. -/
inductive Applies (workers : Nat) (v : Service) : Move → Prop where
  | take {k : RecordKey} {queue : WorkQueue} (now : String) (hfree : v.attempts.length < workers)
      (hnext : v.work.queue.next = (.key k, queue)) : Applies workers v (.take now)
  | call {k : RecordKey} {c : StoreCall}
      {next : Except StoreError c.Reply → Program (Except ReconcileError Unit)} (uid now : String)
      (hk : Assoc.get? k v.attempts = some (.going (.call c next))) :
      Applies workers v (.call k uid now .answered)
  | conclude {k : RecordKey} {p : Progress} {o : Outcome (Except ReconcileError Unit)}
      (hk : Assoc.get? k v.attempts = some p) (ho : p.outcome? = some o) :
      Applies workers v (.conclude k)

/-- Whether a move is one that the workers can make. -/
def applies (workers : Nat) (v : Service) : Move → Bool
  | .take _ =>
    match v.work.queue.next.1 with
    | .key _ => v.attempts.length < workers
    | _ => false
  | .call k _ _ .answered =>
    match Assoc.get? k v.attempts with
    | some (.going (.call ..)) => true
    | _ => false
  | .conclude k => ((Assoc.get? k v.attempts).bind Progress.outcome?).isSome
  | _ => false

theorem applies_iff {workers : Nat} {v : Service} {m : Move} :
    v.applies workers m ↔ Applies workers v m := by
  constructor
  · intro h
    cases m with
    | client | tick | receive | resync | panic => cases h
    | take now =>
        cases hnext : v.work.queue.next with
        | mk n queue =>
            rw [applies, hnext] at h
            cases n with
            | pending | closed => cases h
            | key k => exact .take now (of_decide_eq_true h) hnext
    | call k uid now fate =>
        cases fate with
        | failed | lost => cases h
        | answered =>
            rw [applies] at h
            split at h
            · next hk => exact .call uid now hk
            · cases h
    | conclude k =>
        obtain ⟨o, ho⟩ := Option.isSome_iff_exists.mp h
        obtain ⟨p, hk, ho⟩ := Option.bind_eq_some_iff.mp ho
        exact .conclude hk ho
  · intro h
    cases h with
    | take now hfree hnext =>
        rw [applies, hnext]
        exact decide_eq_true hfree
    | call uid now hk => rw [applies, hk]
    | conclude hk ho =>
        rw [applies, hk, Option.bind_some, ho]
        rfl

instance (workers : Nat) (v : Service) (m : Move) : Decidable (Applies workers v m) :=
  decidable_of_iff _ applies_iff

/-- Moves of the workers, one after the other. -/
inductive Works (workers : Nat) : Service → List Move → Prop where
  | nil (v : Service) : Works workers v []
  | cons {v : Service} {m : Move} {rest : List Move} (hm : Applies workers v m)
      (hrest : Works workers (v.step m) rest) : Works workers v (m :: rest)

theorem works_cons {workers : Nat} {v : Service} {m : Move} {rest : List Move} :
    Works workers v (m :: rest) ↔ Applies workers v m ∧ Works workers (v.step m) rest := by
  constructor
  · rintro (_ | ⟨hm, hrest⟩)
    exact ⟨hm, hrest⟩
  · rintro ⟨hm, hrest⟩
    exact .cons hm hrest

instance decidableWorks (workers : Nat) :
    (v : Service) → (moves : List Move) → Decidable (Works workers v moves)
  | v, [] => isTrue (.nil v)
  | v, m :: rest =>
    have := decidableWorks workers (v.step m) rest
    decidable_of_iff _ works_cons.symm

/-- The key that is handed out, if one is. -/
def taken? (v : Service) : Move → Option RecordKey
  | .take _ =>
    match v.work.queue.next.1 with
    | .key k => some k
    | _ => none
  | _ => none

/-- The keys of the attempts that moves begin, in order. -/
def begun : Service → List Move → List RecordKey
  | _, [] => []
  | v, m :: rest => (v.taken? m).toList ++ begun (v.step m) rest

/-! ## Batches -/

/-- Releases of a store, under their keys; attempts on them have no slot in common. -/
structure Batch (s₀ : Store) where
  keys : List RecordKey
  nodup : keys.Nodup
  release : RecordKey → Release
  read : ∀ k ∈ keys, s₀.read? Release k = some (release k)
  apart : ∀ k ∈ keys, ∀ j ∈ keys, j ≠ k → ∀ x, Owns j (release j) x → ¬ Owns k (release k) x

/-- A worker takes a key, its attempt makes seven calls at most, and the worker gives it back. -/
def movesPerKey : Nat := 9

/-- How many moves the key needs at most until it is done with. -/
inductive Standing (policy : AmbiguityPolicy) (s₀ : Store) (k : RecordKey) (r : Release)
    (v : Service) : Nat → Prop where
  | waiting (hqueued : v.work.queue.state? k = some .queued) (h : Spares k r s₀ v.store) :
      Standing policy s₀ k r v movesPerKey
  | underWay {n : Nat} {rest : Program (Except ReconcileError Unit)}
      (hflight : v.work.queue.state? k = some .inFlight)
      (hk : Assoc.get? k v.attempts = some (.going rest))
      (h : Proceeds (.on policy s₀ r) s₀ v.store k r n rest) : Standing policy s₀ k r v (n + 1)
  | finished (hfree : v.work.queue.state? k = none)
      (h : Leaves (.on policy s₀ r) s₀ v.store k r) : Standing policy s₀ k r v 0

variable {policy : AmbiguityPolicy} {s₀ : Store} {v v' : Service} {k : RecordKey} {r : Release}

namespace Standing

variable {n : Nat}

theorem of_queued (h : Standing policy s₀ k r v n)
    (hqueued : v.work.queue.state? k = some .queued) :
    n = movesPerKey ∧ Spares k r s₀ v.store := by
  cases h with
  | waiting _ h => exact ⟨rfl, h⟩
  | underWay hflight => cases hqueued.symm.trans hflight
  | finished hfree => cases hqueued.symm.trans hfree

theorem of_free (h : Standing policy s₀ k r v n) (hfree : v.work.queue.state? k = none) :
    Leaves (.on policy s₀ r) s₀ v.store k r := by
  cases h with
  | waiting hqueued => cases hfree.symm.trans hqueued
  | underWay hflight => cases hfree.symm.trans hflight
  | finished _ h => exact h

/-- Moves that leave the key and its slots alone. -/
theorem spared (h : Standing policy s₀ k r v n) (hspares : Spares k r v.store v'.store)
    (hstate : v'.work.queue.state? k = v.work.queue.state? k)
    (hattempt : Assoc.get? k v'.attempts = Assoc.get? k v.attempts) :
    Standing policy s₀ k r v' n := by
  cases h with
  | waiting hqueued h => exact .waiting (hstate.trans hqueued) (h.trans hspares)
  | underWay hflight hk h =>
      exact .underWay (hstate.trans hflight) (hattempt.trans hk) (h.spared hspares)
  | finished hfree h => exact .finished (hstate.trans hfree) (h.spared hspares)

end Standing

/-- A service that works on a batch; `left` bounds the moves that each key still needs. -/
structure Draining (policy : AmbiguityPolicy) (b : Batch s₀) (left : RecordKey → Nat)
    (v : Service) : Prop where
  samePolicy : v.policy = policy
  sound : v.store.Sound
  links : Agrees ReleaseLink.kind s₀ v.store
  strategies : Agrees ReleaseStrategy.kind s₀ v.store
  timers : v.work.timers = []
  proper : v.work.queue.Proper fun k => (Assoc.get? k v.attempts).isSome
  standing : ∀ k ∈ b.keys, Standing policy s₀ k (b.release k) v (left k)
  strangers : ∀ k ∉ b.keys, v.work.queue.state? k = none
  elsewhere : ∀ x, (∀ k ∈ b.keys, ¬ Owns k (b.release k) x) →
    Assoc.get? x v.store.slots = Assoc.get? x s₀.slots

namespace Draining

variable {b : Batch s₀} {left : RecordKey → Nat} {workers : Nat}

/-- A key that is waiting or with a worker is of the batch. -/
theorem mem (h : Draining policy b left v) {state : KeyState}
    (hk : v.work.queue.state? k = some state) : k ∈ b.keys := by
  by_contra hnot
  rw [h.strangers k hnot] at hk
  cases hk

/-- An attempt is on a key of the batch, which stands accordingly. -/
theorem underWay (h : Draining policy b left v) {p : Progress}
    (hk : Assoc.get? k v.attempts = some p) :
    k ∈ b.keys ∧ v.work.queue.state? k = some .inFlight ∧
      ∃ n rest, left k = n + 1 ∧ p = .going rest ∧
        Proceeds (.on policy s₀ (b.release k)) s₀ v.store k (b.release k) n rest := by
  have hbusy : v.work.queue.state? k = some .inFlight ∨ v.work.queue.state? k = some .dirty :=
    (h.proper.busy k).mp (hk ▸ rfl)
  have hmem : k ∈ b.keys := hbusy.elim h.mem h.mem
  refine ⟨hmem, ?_⟩
  generalize hleft : left k = n
  have hstanding := h.standing k hmem
  rw [hleft] at hstanding
  cases hstanding with
  | waiting hqueued => rcases hbusy with hbusy | hbusy <;> cases hqueued.symm.trans hbusy
  | finished hfree => rcases hbusy with hbusy | hbusy <;> cases hfree.symm.trans hbusy
  | @underWay n rest hflight hgoing hproceeds =>
      cases hk.symm.trans hgoing
      exact ⟨hflight, n, rest, rfl, rfl, hproceeds⟩

/-! ## The beginning -/

/-- The keys of the batch are queued, in any order. -/
theorem queueing (hs : v.store.Sound) (hidle : v.Idle) (b : Batch v.store)
    {order : List RecordKey} (horder : order.Perm b.keys) :
    Draining v.policy b (fun _ => movesPerKey) (v.queueing order) ∧
      (v.queueing order).work.queue.ready = order := by
  have hnone (k : RecordKey) : v.work.queue.state? k = none := by
    rw [WorkQueue.state?, hidle.states]
    rfl
  have hidling : v.work.queue.Proper fun k => (Assoc.get? k v.attempts).isSome := by
    refine ⟨hidle.isOpen, hidle.ready ▸ List.nodup_nil, ?_, ?_⟩
    · intro k
      rw [hidle.ready, hnone]
      simp
    · intro k
      rw [hidle.attempts, hnone]
      simp
  obtain ⟨hready, hstate⟩ := Worker.addAll_fresh hidle.isOpen (horder.nodup_iff.mpr b.nodup)
    fun k _ => hnone k
  refine ⟨⟨rfl, hs, .refl _ _, .refl _ _, hidle.timers, hidling.foldl_add order, ?_, ?_,
    fun _ _ => rfl⟩, ?_⟩
  · intro k hk
    refine .waiting ?_ (.refl k _ _)
    exact (hstate k).trans (if_pos (horder.mem_iff.mpr hk))
  · intro k hk
    exact ((hstate k).trans (if_neg fun hmem => hk (horder.mem_iff.mp hmem))).trans (hnone k)
  · rw [hidle.ready] at hready
    exact hready

/-! ## One move -/

/-- A move that brings one key nearer to its end and leaves the others alone. -/
theorem advance (h : Draining policy b left v) (hk : k ∈ b.keys) {n : Nat} (hn : n < left k)
    (hpolicy : v'.policy = v.policy) (hsound : v'.store.Sound)
    (hconfined : Confined k (b.release k) v.store v'.store) (htimers : v'.work.timers = [])
    (hproper : v'.work.queue.Proper fun j => (Assoc.get? j v'.attempts).isSome)
    (hstates : ∀ j, j ≠ k → v'.work.queue.state? j = v.work.queue.state? j)
    (hattempts : ∀ j, j ≠ k → Assoc.get? j v'.attempts = Assoc.get? j v.attempts)
    (hstanding : Standing policy s₀ k (b.release k) v' n) :
    ∃ left', Draining policy b left' v' ∧ (b.keys.map left').sum < (b.keys.map left).sum := by
  refine ⟨Function.update left k n, ⟨hpolicy.trans h.samePolicy, hsound, h.links.trans
    hconfined.links, h.strategies.trans hconfined.strategies, htimers, hproper, ?_, ?_, ?_⟩, ?_⟩
  · intro j hj
    by_cases heq : j = k
    · subst heq
      rw [Function.update_self]
      exact hstanding
    · rw [Function.update_of_ne heq]
      exact (h.standing j hj).spared (hconfined.spares (b.apart k hk j hj heq)) (hstates j heq)
        (hattempts j heq)
  · intro j hj
    have heq : j ≠ k := fun heq => hj (heq ▸ hk)
    rw [hstates j heq]
    exact h.strangers j hj
  · intro x hx
    rw [hconfined.slots x (hx k hk)]
    exact h.elsewhere x hx
  · refine List.sum_lt_sum _ _ (fun j hj => ?_) ⟨k, hk, ?_⟩
    · by_cases heq : j = k
      · rw [heq, Function.update_self]
        exact Nat.le_of_lt hn
      · rw [Function.update_of_ne heq]
    · rw [Function.update_self]
      exact hn

/-- What a move of the workers does: it gets ahead, and it hands out the keys in line. -/
def Advances (policy : AmbiguityPolicy) (b : Batch s₀) (left : RecordKey → Nat) (v : Service)
    (m : Move) : Prop :=
  (∃ left', Draining policy b left' (v.step m) ∧
    (b.keys.map left').sum < (b.keys.map left).sum) ∧
  (v.taken? m).toList ++ (v.step m).work.queue.ready = v.work.queue.ready

theorem take (h : Draining policy b left v) {queue : WorkQueue} (now : String)
    (hnext : v.work.queue.next = (.key k, queue)) :
    Advances policy b left v (.take now) := by
  obtain ⟨-, hready, hstate⟩ := WorkQueue.of_next hnext
  obtain ⟨-, hproper, -⟩ := h.proper.next hnext
  have hqueued : v.work.queue.state? k = some .queued :=
    (h.proper.ready k).mp (hready ▸ List.mem_cons_self)
  have hmem := h.mem hqueued
  have hstep : v.step (.take now) = { v with
      work := { v.work with queue }
      attempts := Assoc.put k (.going (attempt v.policy now k)) v.attempts } := by
    rw [step, hnext]
  have htaken : v.taken? (.take now) = some k := by
    rw [taken?, hnext]
  refine ⟨?_, ?_⟩
  · rw [hstep]
    obtain ⟨hleft, hspares⟩ := (h.standing k hmem).of_queued hqueued
    have hlt : 8 < left k := hleft ▸ Nat.lt_succ_self 8
    refine h.advance hmem hlt rfl h.sound (.refl k _ _) h.timers (hproper.congr ?_) ?_ ?_ ?_
    · intro j
      rw [Assoc.get?_put]
      by_cases hj : j = k <;> simp [hj]
    · intro j hj
      rw [hstate, if_neg hj]
    · intro j hj
      exact Assoc.get?_put_ne hj _ _
    · have hproceeds := Proceeds.unread now hspares (judges_verdict v.policy s₀ (b.release k))
      rw [← h.samePolicy]
      refine .underWay ?_ (Assoc.get?_put_self k _ _) hproceeds
      rw [hstate, if_pos rfl]
  · rw [htaken, hstep, hready]
    rfl

theorem call (h : Draining policy b left v) {c : StoreCall}
    {next : Except StoreError c.Reply → Program (Except ReconcileError Unit)} (uid now : String)
    (hk : Assoc.get? k v.attempts = some (.going (.call c next))) :
    Advances policy b left v (.call k uid now .answered) := by
  obtain ⟨hmem, hflight, n, rest, hleft, hp, hproceeds⟩ := h.underWay hk
  cases hp
  obtain ⟨hconfined, m, hm, hproceeds'⟩ :=
    hproceeds.call h.sound (b.read k hmem) h.links h.strategies uid now
  have hstep : v.step (.call k uid now .answered) = v.makeCall k uid now .answered c next := by
    rw [step, hk]
  rw [Advances, hstep]
  refine ⟨?_, rfl⟩
  have hlt : m + 1 < left k := by omega
  have hsound := (perform_effect uid now v.store c).sound h.sound
  refine h.advance hmem hlt rfl hsound hconfined h.timers
    (h.proper.congr (Running.busy_put hk _)) (fun j _ => rfl) ?_ ?_
  · intro j hj
    exact Assoc.get?_put_ne hj _ _
  · exact .underWay hflight (Assoc.get?_put_self k _ _) hproceeds'

theorem conclude (h : Draining policy b left v) {p : Progress}
    {o : Outcome (Except ReconcileError Unit)} (hk : Assoc.get? k v.attempts = some p)
    (ho : p.outcome? = some o) : Advances policy b left v (.conclude k) := by
  obtain ⟨hmem, hflight, n, rest, hleft, rfl, hproceeds⟩ := h.underWay hk
  cases rest with
  | call c next => cases ho
  | done result =>
      cases ho
      -- it ended well, so the key is done with
      obtain ⟨rfl, hleaves⟩ := hproceeds.of_done
      have hbusy : (Assoc.get? k v.attempts).isSome := by rw [hk]; rfl
      have hstep : v.step (.conclude k) = { v with
          work := Worker.conclude k (.returned (.ok ())) v.work
          attempts := Assoc.remove k v.attempts } := by
        rw [step, hk]
        rfl
      have hstate (j : RecordKey) : (Worker.conclude k (.returned (.ok ())) v.work).queue.state? j =
          if j = k then none else v.work.queue.state? j := by
        have hdone := WorkQueue.state?_done v.work.queue j k
        rw [hflight] at hdone
        exact hdone
      have hready : (v.work.queue.done k).ready = v.work.queue.ready := by
        rw [WorkQueue.done, hflight]
      rw [Advances, hstep]
      refine ⟨?_, hready⟩
      have hlt : 0 < left k := by omega
      refine h.advance hmem hlt rfl h.sound (.refl k _ _) h.timers
        ((Worker.proper_conclude h.proper hbusy _).congr ?_) ?_ ?_ ?_
      · intro j
        rw [Assoc.get?_remove]
        by_cases hj : j = k <;> simp [hj]
      · intro j hj
        rw [hstate, if_neg hj]
      · intro j hj
        exact Assoc.get?_remove_ne hj _
      · refine .finished ?_ hleaves
        rw [hstate, if_pos rfl]

theorem step (h : Draining policy b left v) {m : Move} (hm : Applies workers v m) :
    Advances policy b left v m := by
  cases hm with
  | take now _ hnext => exact h.take now hnext
  | call uid now hk => exact h.call uid now hk
  | conclude hk ho => exact h.conclude hk ho

/-! ## Whole runs -/

theorem run (h : Draining policy b left v) {moves : List Move} (hmoves : Works workers v moves) :
    (∃ left', Draining policy b left' (v.run moves) ∧
      (b.keys.map left').sum + moves.length ≤ (b.keys.map left).sum) ∧
    v.begun moves ++ (v.run moves).work.queue.ready = v.work.queue.ready := by
  induction hmoves generalizing left with
  | nil v => exact ⟨⟨left, h, Nat.le_refl _⟩, rfl⟩
  | @cons v m rest hm hrest ih =>
      obtain ⟨⟨left₁, h₁, hlt⟩, hline⟩ := h.step hm
      obtain ⟨⟨left₂, h₂, hle⟩, hline'⟩ := ih h₁
      refine ⟨⟨left₂, h₂, ?_⟩, ?_⟩
      · rw [List.length_cons]
        omega
      · rw [begun, List.append_assoc, ← hline]
        exact congrArg _ hline'

/-- An attempt that is under way has a call to make or its key to give back. -/
theorem attempts_of_stuck (h : Draining policy b left v)
    (hstuck : ∀ m, ¬ Applies workers v m) : v.attempts = [] := by
  cases hattempts : v.attempts with
  | nil => rfl
  | cons e rest =>
      have hk : Assoc.get? e.1 v.attempts = some e.2 := by
        rw [hattempts]
        exact if_pos rfl
      obtain ⟨-, -, n, p, -, hp, -⟩ := h.underWay hk
      rw [hp] at hk
      cases p with
      | call c next => exact (hstuck _ (.call "" "" hk)).elim
      | done result => exact (hstuck _ (.conclude hk rfl)).elim

/-- A key that waits is taken when a worker is free. -/
theorem ready_of_stuck (h : Draining policy b left v) (hfree : v.attempts.length < workers)
    (hstuck : ∀ m, ¬ Applies workers v m) : v.work.queue.ready = [] := by
  cases hready : v.work.queue.ready with
  | nil => rfl
  | cons k rest =>
      have hnext : v.work.queue.next.1 = .key k := by
        simp only [WorkQueue.next, h.proper.isOpen, hready]
        rfl
      exact (hstuck (.take "") (.take "" hfree (Prod.ext hnext rfl))).elim

/-- The workers can always go on until the service is idle. -/
theorem idle_iff (h : Draining policy b left v) (hworkers : 0 < workers) :
    v.Idle ↔ ∀ m, ¬ Applies workers v m := by
  constructor
  · intro hidle m hm
    cases hm with
    | take now _ hnext =>
        have hready := (WorkQueue.of_next hnext).2.1
        rw [hidle.ready] at hready
        cases hready
    | call uid now hk =>
        rw [hidle.attempts] at hk
        cases hk
    | conclude hk ho =>
        rw [hidle.attempts] at hk
        cases hk
  · intro hstuck
    have hattempts := h.attempts_of_stuck hstuck
    have hfree : v.attempts.length < workers := by
      rw [hattempts]
      exact hworkers
    have hready := h.ready_of_stuck hfree hstuck
    refine ⟨h.proper.isOpen, hready, h.proper.states_eq_nil hready fun k hk => ?_, h.timers,
      hattempts⟩
    rw [hattempts] at hk
    cases hk

/-- What is there in the end. -/
theorem leaves (h : Draining policy b left v) (hidle : v.Idle) (hk : k ∈ b.keys) :
    Leaves (.on policy s₀ (b.release k)) s₀ v.store k (b.release k) := by
  have hstate : v.work.queue.state? k = none := by
    rw [WorkQueue.state?, hidle.states]
    rfl
  exact (h.standing k hk).of_free hstate

end Draining

end ReleaseControl.Service
