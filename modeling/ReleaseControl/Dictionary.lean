/-! # Dictionaries — values under names, ascending

A dictionary lists each name once, in ascending order. `insert` keeps that order
(`ascending_insert`), so two dictionaries with the same entries are the same list. -/

namespace ReleaseControl.Dictionary

variable {α : Type}

/-- Names strictly ascend along the list. -/
def Ascending (entries : List (String × α)) : Prop :=
  entries.Pairwise fun a b => a.1 < b.1

instance (entries : List (String × α)) : Decidable (Ascending entries) :=
  inferInstanceAs (Decidable (entries.Pairwise _))

/-- Puts a value under a name; an older value there is replaced. -/
def insert (name : String) (value : α) : List (String × α) → List (String × α)
  | [] => [(name, value)]
  | (n, v) :: rest =>
    if name < n then (name, value) :: (n, v) :: rest
    else if name = n then (name, value) :: rest
    else (n, v) :: insert name value rest

def erase (name : String) (entries : List (String × α)) : List (String × α) :=
  entries.filter fun e => e.1 ≠ name

/-- The dictionary of the given entries; of two entries with one name the later stays. -/
def ofList (entries : List (String × α)) : List (String × α) :=
  entries.foldl (fun d e => insert e.1 e.2 d) []

def get? (name : String) : List (String × α) → Option α
  | [] => none
  | (n, v) :: rest => if n = name then some v else get? name rest

/-! ## Order -/

theorem mem_insert {name : String} {value : α} {entries : List (String × α)} {e : String × α}
    (h : e ∈ insert name value entries) : e = (name, value) ∨ e ∈ entries := by
  induction entries with
  | nil => simpa [insert] using h
  | cons x rest ih =>
    obtain ⟨n, v⟩ := x
    simp only [insert] at h
    split at h
    · simpa using h
    · split at h
      · rcases List.mem_cons.1 h with h | h
        · exact .inl h
        · exact .inr (List.mem_cons_of_mem _ h)
      · rcases List.mem_cons.1 h with h | h
        · exact .inr (h ▸ List.mem_cons_self)
        · rcases ih h with h | h
          · exact .inl h
          · exact .inr (List.mem_cons_of_mem _ h)

theorem ascending_insert (name : String) (value : α) {entries : List (String × α)}
    (h : Ascending entries) : Ascending (insert name value entries) := by
  induction entries with
  | nil => simp [insert, Ascending]
  | cons x rest ih =>
    obtain ⟨n, v⟩ := x
    obtain ⟨hn, hrest⟩ := List.pairwise_cons.1 h
    simp only [insert]
    split
    · next hlt =>
      refine List.pairwise_cons.2 ⟨?_, h⟩
      intro e he
      rcases List.mem_cons.1 he with rfl | he
      · exact hlt
      · exact String.lt_trans hlt (hn e he)
    · next hlt =>
      split
      · next heq =>
        subst heq
        exact List.pairwise_cons.2 ⟨fun e he => hn e he, hrest⟩
      · next hne =>
        refine List.pairwise_cons.2 ⟨?_, ih hrest⟩
        intro e he
        have hgt : n < name := by
          have := String.not_lt.1 hlt
          have := fun h' => hne (String.le_antisymm h' this)
          grind
        rcases mem_insert he with rfl | he
        · exact hgt
        · exact hn e he

theorem ascending_erase (name : String) {entries : List (String × α)}
    (h : Ascending entries) : Ascending (erase name entries) := h.filter _

theorem ascending_ofList (entries : List (String × α)) : Ascending (ofList entries) := by
  have go : ∀ (es d : List (String × α)), Ascending d →
      Ascending (es.foldl (fun d e => insert e.1 e.2 d) d) := by
    intro es
    induction es with
    | nil => exact fun _ h => h
    | cons e es ih => exact fun d h => ih _ (ascending_insert e.1 e.2 h)
  exact go entries [] List.Pairwise.nil

end ReleaseControl.Dictionary
