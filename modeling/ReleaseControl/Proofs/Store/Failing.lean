import ReleaseControl.Deployment.Fault
import ReleaseControl.Proofs.Store.Program
import ReleaseControl.Watch.Log

/-! # Stores that fail

A store may fail in any way that leaves it a store: a call is answered, fails with any error before
or after it was made, or takes the caller along (`Store.Handled`). A `FailingStore` is whatever
decides about that, as part of a state, together with the store that this leaves. Planned failures
are one such thing, and publishing what was written keeps it so. -/

namespace ReleaseControl

open Program

namespace Store

/-- What can become of a call. -/
inductive Handled (s : Store) :
    (c : StoreCall) → Outcome (Except StoreError c.Reply) → Store → Prop where
  | answered (uid now : String) (c : StoreCall) :
      Handled s c (.returned (s.perform uid now c).1) (s.perform uid now c).2
  | failed (c : StoreCall) (e : StoreError) : Handled s c (.returned (.error e)) s
  | lost (uid now : String) (c : StoreCall) (e : StoreError) :
      Handled s c (.returned (.error e)) (s.perform uid now c).2
  | stopped (c : StoreCall) : Handled s c .crashed s
  | stoppedAfter (uid now : String) (c : StoreCall) :
      Handled s c .crashed (s.perform uid now c).2

variable {s s' : Store} {c : StoreCall}

theorem Handled.effect {outcome : Outcome (Except StoreError c.Reply)}
    (h : s.Handled c outcome s') : ∃ uid now, Effect uid now s c s' := by
  cases h with
  | failed | stopped => exact ⟨"", "", .nothing c⟩
  | answered uid now | lost uid now | stoppedAfter uid now =>
      exact ⟨uid, now, perform_effect uid now s c⟩

/-- An answer is an error or what the store says. -/
theorem Handled.returned_cases {answer : Except StoreError c.Reply}
    (h : s.Handled c (.returned answer) s') :
    (∃ e, answer = .error e) ∨
      ∃ uid now, answer = (s.perform uid now c).1 ∧ s' = (s.perform uid now c).2 := by
  cases h with
  | failed c e | lost uid now c e => exact .inl ⟨e, rfl⟩
  | answered uid now => exact .inr ⟨uid, now, rfl, rfl⟩

/-- The store is as it was, or the call has been made. -/
theorem Handled.store_cases {outcome : Outcome (Except StoreError c.Reply)}
    (h : s.Handled c outcome s') : s' = s ∨ ∃ uid now, s' = (s.perform uid now c).2 := by
  cases h with
  | failed | stopped => exact .inl rfl
  | answered uid now | lost uid now | stoppedAfter uid now => exact .inr ⟨uid, now, rfl⟩

/-- Reading changes nothing. -/
theorem Handled.of_isRead {outcome : Outcome (Except StoreError c.Reply)}
    (h : s.Handled c outcome s') (hread : c.isRead) : s' = s := by
  rcases h.store_cases with hsame | ⟨uid, now, hmade⟩
  · exact hsame
  · rw [hmade, perform_snd_of_isRead hread]

/-- Looking at a key changes nothing, and an answer that is no error is what is there. -/
theorem Handled.of_get {kind : String} {key : RecordKey}
    {outcome : Outcome (Except StoreError (Option StoredRecord))}
    (h : s.Handled (.get kind key) outcome s') :
    s' = s ∧ ∀ found, outcome = .returned (.ok found) → found = s.get? kind key := by
  cases h with
  | answered =>
      refine ⟨rfl, ?_⟩
      intro found hfound
      cases hfound
      rfl
  | failed | lost | stopped | stoppedAfter =>
      refine ⟨rfl, ?_⟩
      intro found hfound
      cases hfound

end Store

structure FailingStore (σ : Type) where
  handler : Handler σ
  store : σ → Store
  handled : ∀ c w, (store w).Handled c (handler c w).1 (store (handler c w).2)

namespace FailingStore

variable {σ α : Type}

/-- A program that makes a call gets an answer and goes on, or it crashes. -/
theorem run_call_cases (f : FailingStore σ) (c : StoreCall)
    (next : Except StoreError c.Reply → Program α) (w : σ) :
    (∃ w', (call c next).run f.handler w = (.crashed, w') ∧ f.handler c w = (.crashed, w') ∧
        (f.store w).Handled c .crashed (f.store w')) ∨
      ∃ answer w', (call c next).run f.handler w = (next answer).run f.handler w' ∧
        f.handler c w = (.returned answer, w') ∧
        (f.store w).Handled c (.returned answer) (f.store w') := by
  have h := f.handled c w
  rw [run]
  generalize f.handler c w = handled at h ⊢
  obtain ⟨outcome, w'⟩ := handled
  cases outcome with
  | crashed => exact .inl ⟨w', rfl, rfl, h⟩
  | returned answer => exact .inr ⟨answer, w', rfl, rfl, h⟩

/-- The store with a channel on which its writes are published. -/
def published (f : FailingStore σ) : FailingStore (σ × Channel) where
  handler := f.handler.published
  store w := f.store w.1
  handled c w := by
    have h := f.handled c w.1
    unfold Handler.published
    dsimp only
    generalize f.handler c w.1 = handled at h ⊢
    obtain ⟨outcome, w'⟩ := handled
    cases outcome <;> exact h

/-- A program crashes at its first call, or it gets an answer, which is published, and goes on. -/
theorem run_published_cases (f : FailingStore σ) (c : StoreCall)
    (next : Except StoreError c.Reply → Program α) (w : σ) (channel : Channel) :
    (∃ w', (call c next).run f.handler.published (w, channel) = (.crashed, w', channel) ∧
        (f.store w).Handled c .crashed (f.store w')) ∨
      ∃ answer w', (call c next).run f.handler.published (w, channel) =
          (next answer).run f.handler.published (w', channel.publish c answer) ∧
        (f.store w).Handled c (.returned answer) (f.store w') := by
  have h := f.handled c w
  rw [run, Handler.published]
  generalize f.handler c w = handled at h ⊢
  obtain ⟨outcome, w'⟩ := handled
  cases outcome with
  | crashed => exact .inl ⟨w', rfl, h⟩
  | returned answer => exact .inr ⟨answer, w', rfl, h⟩

/-- Nothing is published about a look at a key. -/
theorem published_get (f : FailingStore σ) (kind : String) (key : RecordKey) (w : σ)
    (channel : Channel) :
    f.published.handler (.get kind key) (w, channel) =
      ((f.handler (.get kind key) w).1, (f.handler (.get kind key) w).2, channel) := by
  show f.handler.published (.get kind key) (w, channel) = _
  unfold Handler.published
  dsimp only
  generalize f.handler (.get kind key) w = handled
  obtain ⟨outcome, w'⟩ := handled
  rcases outcome with (e | found) | - <;> rfl

end FailingStore

/-! ## Planned failures -/

/-- Counting plans down leaves what holds of them whatever their counts are. -/
theorem Fault.forall_plan {P : Fault → Prop} (hskip : ∀ f n, P f → P { f with skip := n })
    (htimes : ∀ f n, P f → P { f with times := n }) {c : StoreCall} {faults : List Fault}
    (h : ∀ f ∈ faults, P f) :
    (∀ f ∈ (plan c faults).1, P f) ∧ ∀ f ∈ (plan c faults).2, P f := by
  induction faults with
  | nil => exact ⟨fun f hf => (by cases hf), h⟩
  | cons f rest ih =>
      obtain ⟨hf, hrest⟩ := List.forall_mem_cons.mp h
      unfold plan
      split
      · split
        · refine ⟨fun g hg => (by cases hg), List.forall_mem_cons.mpr ⟨hskip f _ hf, hrest⟩⟩
        · refine ⟨?_, List.forall_mem_cons.mpr ⟨htimes f _ hf, hrest⟩⟩
          intro g hg
          cases hg
          exact hf
      · exact ⟨(ih hrest).1, List.forall_mem_cons.mpr ⟨hf, (ih hrest).2⟩⟩

/-- A store whose plans make no writes of their own. -/
theorem FaultyStore.handled_answer {s : FaultyStore} (h : ∀ f ∈ s.faults, f.writes = [])
    (c : StoreCall) :
    (s.store.Handled c (answer c s).1 (answer c s).2.store) ∧
      ∀ f ∈ (answer c s).2.faults, f.writes = [] := by
  obtain ⟨hhit, hrest⟩ := Fault.forall_plan (c := c) (fun _ _ h => h) (fun _ _ h => h) h
  unfold answer
  generalize Fault.plan c s.faults = planned at hhit hrest
  obtain ⟨hit, faults⟩ := planned
  cases hit with
  | none => exact ⟨.answered _ _ c, hrest⟩
  | some f =>
      simp only [hhit f rfl, performAll, List.foldl_nil]
      cases f.effect with
      | pass => exact ⟨.answered _ _ c, hrest⟩
      | crash => exact ⟨.stopped c, hrest⟩
      | failBefore e => exact ⟨.failed c e, hrest⟩
      | failAfter e => exact ⟨.lost _ _ c e, hrest⟩

def FailingStore.planned : FailingStore { s : FaultyStore // ∀ f ∈ s.faults, f.writes = [] } where
  handler c s :=
    ((FaultyStore.answer c s.1).1, ⟨(FaultyStore.answer c s.1).2,
      (FaultyStore.handled_answer s.2 c).2⟩)
  store s := s.1.store
  handled c s := (FaultyStore.handled_answer s.2 c).1

end ReleaseControl
