/-! # Finite maps as association lists

Keys need only decidable equality. `put` replaces in place or appends, `remove` drops; each is
described by what `get?` finds afterwards. -/

namespace ReleaseControl.Assoc

variable {κ α : Type} [DecidableEq κ]

def get? (k : κ) : List (κ × α) → Option α
  | [] => none
  | (n, v) :: rest => if n = k then some v else get? k rest

/-- Sets the value of a key. -/
def put (k : κ) (v : α) : List (κ × α) → List (κ × α)
  | [] => [(k, v)]
  | (n, w) :: rest => if n = k then (k, v) :: rest else (n, w) :: put k v rest

def remove (k : κ) (m : List (κ × α)) : List (κ × α) := m.filter fun e => e.1 ≠ k

def keys (m : List (κ × α)) : List κ := m.map (·.1)

def contains (k : κ) (m : List (κ × α)) : Bool := (get? k m).isSome

@[simp] theorem get?_nil (k : κ) : get? k ([] : List (κ × α)) = none := rfl

@[simp] theorem get?_put_self (k : κ) (v : α) (m : List (κ × α)) :
    get? k (put k v m) = some v := by
  induction m with
  | nil => simp [put, get?]
  | cons e rest ih => obtain ⟨n, w⟩ := e; by_cases h : n = k <;> simp [put, get?, h, ih]

theorem get?_put_ne {j k : κ} (h : j ≠ k) (v : α) (m : List (κ × α)) :
    get? j (put k v m) = get? j m := by
  induction m with
  | nil => simp [put, get?, Ne.symm h]
  | cons e rest ih =>
    obtain ⟨n, w⟩ := e
    by_cases hk : n = k
    · subst hk; simp [put, get?, Ne.symm h]
    · simp only [put, if_neg hk, get?, ih]

@[simp] theorem get?_remove_self (k : κ) (m : List (κ × α)) : get? k (remove k m) = none := by
  induction m with
  | nil => rfl
  | cons e rest ih =>
    obtain ⟨n, w⟩ := e
    by_cases h : n = k
    · simpa [remove, h] using ih
    · simpa [remove, get?, h] using ih

theorem get?_remove_ne {j k : κ} (h : j ≠ k) (m : List (κ × α)) :
    get? j (remove k m) = get? j m := by
  induction m with
  | nil => rfl
  | cons e rest ih =>
    obtain ⟨n, w⟩ := e
    by_cases hk : n = k
    · subst hk
      simpa [remove, get?, Ne.symm h] using ih
    · have hcons : remove k ((n, w) :: rest) = (n, w) :: remove k rest := by simp [remove, hk]
      simp only [hcons, get?, ih]

end ReleaseControl.Assoc
