/-! # Properties of each entry at its time

A list of what happened, in order, is looked at from one of its entries: what came before is the
past of the entry. `Each` says a property of every entry together with its past. -/

namespace ReleaseControl.Timeline

variable {α : Type} {P : List α → α → Prop} {l before after : List α} {a e : α}

/-- An entry of a list with one more is the new one or one of the others. -/
theorem concat_eq_iff : l ++ [e] = before ++ a :: after ↔
    (after = [] ∧ before = l ∧ a = e) ∨ ∃ rest, after = rest ++ [e] ∧ l = before ++ a :: rest := by
  constructor
  · intro h
    rcases List.eq_nil_or_concat after with rfl | ⟨rest, last, rfl⟩
    · obtain ⟨rfl, hlast⟩ := List.append_inj' h rfl
      exact .inl ⟨rfl, rfl, (List.cons.inj hlast).1.symm⟩
    · rw [List.concat_eq_append, ← List.cons_append, ← List.append_assoc] at h
      obtain ⟨hl, hlast⟩ := List.append_inj' h rfl
      exact .inr ⟨rest, by rw [List.concat_eq_append, hlast], hl⟩
  · rintro (⟨rfl, rfl, rfl⟩ | ⟨rest, rfl, rfl⟩)
    · rfl
    · rw [List.append_assoc, List.cons_append]

/-- Every entry has the property at its time. -/
def Each (P : List α → α → Prop) (l : List α) : Prop :=
  ∀ before a after, l = before ++ a :: after → P before a

theorem each_nil (P : List α → α → Prop) : Each P [] := by
  intro before a after h
  exact absurd h.symm (by simp)

theorem each_concat : Each P (l ++ [e]) ↔ Each P l ∧ P l e := by
  constructor
  · intro h
    exact ⟨fun before a after hl => h before a (after ++ [e]) (by rw [hl]; simp), h l e [] rfl⟩
  · rintro ⟨h, he⟩ before a after hl
    rcases concat_eq_iff.mp hl with ⟨-, rfl, rfl⟩ | ⟨rest, -, hl⟩
    · exact he
    · exact h before a rest hl

theorem Each.of_append {l' : List α} (h : Each P (l ++ l')) : Each P l := by
  intro before a after hl
  exact h before a (after ++ l') (by rw [hl, List.append_assoc, List.cons_append])

end ReleaseControl.Timeline
