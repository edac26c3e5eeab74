import ReleaseControl.Assoc

/-! # Keys and entries of finite maps

`get?` after `put` and `remove` in one equation each, and what the entries of a map have to do
with `get?` when no key is listed twice. -/

namespace ReleaseControl.Assoc

variable {κ α : Type} [DecidableEq κ]

theorem get?_put (j k : κ) (v : α) (m : List (κ × α)) :
    get? j (put k v m) = if j = k then some v else get? j m := by
  by_cases h : j = k
  · rw [if_pos h, h, get?_put_self]
  · rw [if_neg h, get?_put_ne h]

theorem get?_remove (j k : κ) (m : List (κ × α)) :
    get? j (remove k m) = if j = k then none else get? j m := by
  by_cases h : j = k
  · rw [if_pos h, h, get?_remove_self]
  · rw [if_neg h, get?_remove_ne h]

/-- What is found after a value was put was put or was there. -/
theorem eq_or_of_get?_put {j k : κ} {v w : α} {m : List (κ × α)}
    (h : get? j (put k v m) = some w) : (j = k ∧ v = w) ∨ get? j m = some w := by
  rw [get?_put] at h
  split at h
  · next hj => exact .inl ⟨hj, Option.some.inj h⟩
  · exact .inr h

/-- What is found after a key was removed is under another key. -/
theorem of_get?_remove {j k : κ} {w : α} {m : List (κ × α)}
    (h : get? j (remove k m) = some w) : j ≠ k ∧ get? j m = some w := by
  rw [get?_remove] at h
  split at h
  · cases h
  · next hj => exact ⟨hj, h⟩

theorem mem_of_get? {k : κ} {v : α} {m : List (κ × α)} (h : get? k m = some v) : (k, v) ∈ m := by
  induction m with
  | nil => simp at h
  | cons e rest ih =>
      obtain ⟨n, w⟩ := e
      by_cases hn : n = k
      · simp only [get?, if_pos hn, Option.some.injEq] at h
        rw [hn, h]
        exact List.mem_cons_self
      · simp only [get?, if_neg hn] at h
        exact List.mem_cons_of_mem _ (ih h)

theorem get?_eq_none_iff {k : κ} {m : List (κ × α)} : get? k m = none ↔ k ∉ keys m := by
  induction m with
  | nil => simp [keys]
  | cons e rest ih =>
      obtain ⟨n, w⟩ := e
      simp only [keys, List.map_cons, List.mem_cons, not_or] at ih ⊢
      by_cases hn : n = k
      · simp [get?, hn]
      · unfold get?
        rw [if_neg hn, ih]
        exact ⟨fun h => ⟨Ne.symm hn, h⟩, And.right⟩

theorem eq_nil_of_get? {m : List (κ × α)} (h : ∀ k, get? k m = none) : m = [] := by
  cases m with
  | nil => rfl
  | cons e rest =>
      have hnone : get? e.1 (e :: rest) = some e.2 := if_pos rfl
      cases hnone.symm.trans (h e.1)

theorem get?_of_mem {k : κ} {v : α} {m : List (κ × α)} (hnodup : (keys m).Nodup)
    (h : (k, v) ∈ m) : get? k m = some v := by
  induction m with
  | nil => simp at h
  | cons e rest ih =>
      obtain ⟨n, w⟩ := e
      obtain ⟨hn, hrest⟩ := List.nodup_cons.mp hnodup
      rcases List.mem_cons.mp h with heq | h
      · cases heq
        simp [get?]
      · have hne : n ≠ k := fun heq => hn (heq ▸ List.mem_map.mpr ⟨_, h, rfl⟩)
        unfold get?
        rw [if_neg hne]
        exact ih hrest h

/-- Putting lists a key at most once more than before, and only if it was not there. -/
theorem keys_put (k : κ) (v : α) (m : List (κ × α)) :
    keys (put k v m) = if k ∈ keys m then keys m else keys m ++ [k] := by
  induction m with
  | nil => rfl
  | cons e rest ih =>
      obtain ⟨n, w⟩ := e
      by_cases hn : n = k
      · simp [put, keys, hn]
      · have hput : keys (put k v ((n, w) :: rest)) = n :: keys (put k v rest) := by
          simp [put, hn, keys]
        have hmem : k ∈ keys ((n, w) :: rest) ↔ k ∈ keys rest := by simp [keys, Ne.symm hn]
        rw [hput, ih]
        by_cases hk : k ∈ keys rest
        · rw [if_pos hk, if_pos (hmem.mpr hk)]
          rfl
        · rw [if_neg hk, if_neg (mt hmem.mp hk)]
          rfl

theorem nodup_put (k : κ) (v : α) {m : List (κ × α)} (h : (keys m).Nodup) :
    (keys (put k v m)).Nodup := by
  rw [keys_put]
  split
  · exact h
  · next hk =>
      refine List.nodup_append.mpr ⟨h, by simp, ?_⟩
      rintro a ha b hb rfl
      rw [List.mem_singleton] at hb
      exact hk (hb ▸ ha)

theorem nodup_remove (k : κ) {m : List (κ × α)} (h : (keys m).Nodup) :
    (keys (remove k m)).Nodup :=
  h.sublist (List.filter_sublist.map _)

/-- At most one value has a property if no two keys hold such values. -/
theorem length_filter_le_one_iff {p : α → Bool} {m : List (κ × α)} (hnodup : (keys m).Nodup) :
    ((m.map (·.2)).filter p).length ≤ 1 ↔ ∀ j k v w, get? j m = some v → p v →
      get? k m = some w → p w → j = k := by
  have hlength : ((m.map (·.2)).filter p).length = (m.filter fun e => p e.2).length := by
    rw [List.filter_map, List.length_map]
    rfl
  rw [hlength]
  constructor
  · intro h j k v w hj hv hk hw
    -- both entries pass the filter, which leaves one
    have hj' : (j, v) ∈ m.filter fun e => p e.2 := List.mem_filter.mpr ⟨mem_of_get? hj, hv⟩
    have hk' : (k, w) ∈ m.filter fun e => p e.2 := List.mem_filter.mpr ⟨mem_of_get? hk, hw⟩
    generalize m.filter (fun e => p e.2) = l at *
    rcases l with - | ⟨e, - | ⟨d, rest⟩⟩
    · cases hj'
    · exact congrArg Prod.fst
        ((List.mem_singleton.mp hj').trans (List.mem_singleton.mp hk').symm)
    · simp at h
  · intro h
    have heq : ∀ e ∈ m.filter (fun e => p e.2), ∀ d ∈ m.filter (fun e => p e.2), e.1 = d.1 := by
      intro e he d hd
      obtain ⟨he, hpe⟩ := List.mem_filter.mp he
      obtain ⟨hd, hpd⟩ := List.mem_filter.mp hd
      exact h e.1 d.1 e.2 d.2 (get?_of_mem hnodup he) hpe (get?_of_mem hnodup hd) hpd
    have hkeys : ((m.filter fun e => p e.2).map (·.1)).Nodup :=
      hnodup.sublist (List.filter_sublist.map _)
    generalize m.filter (fun e => p e.2) = l at *
    rcases l with - | ⟨e, - | ⟨d, rest⟩⟩
    · simp
    · simp
    · have := heq e (by simp) d (by simp)
      simp [this] at hkeys

end ReleaseControl.Assoc
