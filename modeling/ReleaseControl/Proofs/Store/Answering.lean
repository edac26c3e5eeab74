import ReleaseControl.Proofs.Store.Failing

/-! # Stores that answer

A store that answers every call fails none on its own account. The uids and clock readings that
its creations use are its own choice, call by call; a program that runs on it always comes to its
end. -/

namespace ReleaseControl.FailingStore

open Program

variable {σ α : Type} {f : FailingStore σ}

/-- Every call is made with some uid and clock reading, and what the store says is returned. -/
def Answers (f : FailingStore σ) : Prop :=
  ∀ c w, ∃ uid now, (f.handler c w).1 = .returned ((f.store w).perform uid now c).1 ∧
    f.store (f.handler c w).2 = ((f.store w).perform uid now c).2

theorem Answers.run_call (hf : f.Answers) (c : StoreCall)
    (next : Except StoreError c.Reply → Program α) (w : σ) :
    ∃ uid now w', f.store w' = ((f.store w).perform uid now c).2 ∧
      (call c next).run f.handler w =
        (next ((f.store w).perform uid now c).1).run f.handler w' := by
  have h := hf c w
  rw [run]
  generalize f.handler c w = handled at h ⊢
  obtain ⟨outcome, w'⟩ := handled
  obtain ⟨uid, now, rfl, hstore⟩ := h
  exact ⟨uid, now, w', hstore, rfl⟩

/-- A store without plans: uids are numbered, and the clock stands. -/
def plain : FailingStore FaultyStore where
  handler c s := (.returned (s.perform c).1, (s.perform c).2)
  store := FaultyStore.store
  handled c s := .answered (numberedUid (s.created + 1)) s.now c

theorem answers_plain : plain.Answers := fun _ s => ⟨numberedUid (s.created + 1), s.now, rfl, rfl⟩

end ReleaseControl.FailingStore
