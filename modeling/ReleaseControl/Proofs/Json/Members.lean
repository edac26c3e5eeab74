import ReleaseControl.Json.Basic

/-! # Members of objects

What is found in an object after a member was set or taken out, and in an object built from its
fields. Nothing here asks the members to be in order: the first member of a name is the one that
counts, and `insert` and `erase` leave every other name alone in any list. -/

namespace ReleaseControl

namespace Dictionary

variable {α : Type}

@[simp] theorem get?_insert_self (name : String) (value : α) (es : List (String × α)) :
    get? name (insert name value es) = some value := by
  induction es with
  | nil => simp [insert, get?]
  | cons e rest ih =>
      obtain ⟨n, v⟩ := e
      simp only [insert]
      split
      · simp [get?]
      · split
        · simp [get?]
        · next hne => simp [get?, Ne.symm hne, ih]

theorem get?_insert_ne {m n : String} (h : m ≠ n) (value : α) (es : List (String × α)) :
    get? m (insert n value es) = get? m es := by
  induction es with
  | nil => simp [insert, get?, Ne.symm h]
  | cons e rest ih =>
      obtain ⟨k, v⟩ := e
      simp only [insert]
      split
      · simp [get?, Ne.symm h]
      · split
        · next heq => subst heq; simp [get?, Ne.symm h]
        · simp only [get?, ih]

/-- The later of two values under a name is kept. -/
@[simp] theorem insert_insert (name : String) (a b : α) (es : List (String × α)) :
    insert name b (insert name a es) = insert name b es := by
  induction es with
  | nil => simp [insert]
  | cons e rest ih =>
      obtain ⟨n, v⟩ := e
      by_cases hlt : name < n
      · simp [insert, hlt]
      · by_cases heq : name = n <;> simp [insert, hlt, heq, ih]

@[simp] theorem get?_erase_self (name : String) (es : List (String × α)) :
    get? name (erase name es) = none := by
  induction es with
  | nil => rfl
  | cons e rest ih =>
      obtain ⟨n, v⟩ := e
      by_cases h : n = name
      · simpa [erase, h] using ih
      · simpa [erase, get?, h] using ih

theorem get?_erase_ne {m n : String} (h : m ≠ n) (es : List (String × α)) :
    get? m (erase n es) = get? m es := by
  induction es with
  | nil => rfl
  | cons e rest ih =>
      obtain ⟨k, v⟩ := e
      by_cases hk : k = n
      · subst hk
        simpa [erase, get?, Ne.symm h] using ih
      · have hcons : erase n ((k, v) :: rest) = (k, v) :: erase n rest := by simp [erase, hk]
        simp only [hcons, get?, ih]

/-- In order, every entry is the one that is found. -/
theorem get?_of_mem {es : List (String × α)} (h : Ascending es) {name : String} {value : α}
    (hmem : (name, value) ∈ es) : get? name es = some value := by
  induction es with
  | nil => cases hmem
  | cons e rest ih =>
      obtain ⟨n, v⟩ := e
      obtain ⟨hn, hrest⟩ := List.pairwise_cons.mp h
      rcases List.mem_cons.mp hmem with heq | hmem
      · cases heq
        simp [get?]
      · have hne : n ≠ name := fun heq => String.lt_irrefl n (by simpa [← heq] using hn _ hmem)
        unfold get?
        rw [if_neg hne]
        exact ih hrest hmem

end Dictionary

namespace Json

theorem exists_members {v : Json} (h : v.isObject) : ∃ members, v = .obj members := by
  cases v <;> simp_all [isObject]

theorem isObject_of_get? {v w : Json} {name : String} (h : v.get? name = some w) :
    v.isObject := by
  cases v <;> simp_all [get?, isObject]

@[simp] theorem isObject_set (v : Json) (name : String) (w : Json) :
    (v.set name w).isObject = v.isObject := by
  cases v <;> rfl

@[simp] theorem isObject_remove (v : Json) (name : String) :
    (v.remove name).isObject = v.isObject := by
  cases v <;> rfl

theorem get?_set_self {v : Json} (h : v.isObject) (name : String) (w : Json) :
    (v.set name w).get? name = some w := by
  obtain ⟨members, rfl⟩ := exists_members h
  exact Dictionary.get?_insert_self name w members

theorem get?_set_ne {m n : String} (h : m ≠ n) (v w : Json) :
    (v.set n w).get? m = v.get? m := by
  cases v <;> simp [set, get?, Dictionary.get?_insert_ne h]

@[simp] theorem set_set (v : Json) (name : String) (w w' : Json) :
    (v.set name w).set name w' = v.set name w' := by
  cases v <;> simp [set]

@[simp] theorem get?_remove_self (v : Json) (name : String) : (v.remove name).get? name = none := by
  cases v <;> simp [remove, get?]

theorem get?_remove_ne {m n : String} (h : m ≠ n) (v : Json) :
    (v.remove n).get? m = v.get? m := by
  cases v <;> simp [remove, get?, Dictionary.get?_erase_ne h]

/-! ## Order -/

/-- The members of an object are in order, each name once. -/
def Ordered : Json → Prop
  | .obj members => Dictionary.Ascending members
  | _ => True

theorem ordered_set {v : Json} (h : v.Ordered) (name : String) (w : Json) :
    (v.set name w).Ordered := by
  cases v with
  | obj members => exact Dictionary.ascending_insert name w h
  | _ => trivial

theorem ordered_remove {v : Json} (h : v.Ordered) (name : String) : (v.remove name).Ordered := by
  cases v with
  | obj members => exact Dictionary.ascending_erase name h
  | _ => trivial

/-! ## Objects built from fields -/

@[simp] theorem get?_ofFields_nil (name : String) : (ofFields []).get? name = none := rfl

/-- A field that is left out does not hide a later one of its name. -/
@[simp] theorem get?_ofFields_cons (name n : String) (v : Option Json)
    (fields : List (String × Option Json)) :
    (ofFields ((n, v) :: fields)).get? name =
      if n = name then v.or ((ofFields fields).get? name) else (ofFields fields).get? name := by
  cases v with
  | none => simp [ofFields, get?]
  | some w => simp [ofFields, get?, Dictionary.get?]

/-- With different names every field that is there is found. -/
theorem get?_ofFields_of_mem {fields : List (String × Option Json)}
    (hnames : (fields.map (·.1)).Nodup) {m : String × Json}
    (hm : m ∈ fields.filterMap fun f => f.2.map (f.1, ·)) :
    (ofFields fields).get? m.1 = some m.2 := by
  induction fields with
  | nil => simp at hm
  | cons f rest ih =>
      obtain ⟨n, v⟩ := f
      obtain ⟨hn, hrest⟩ := List.nodup_cons.mp hnames
      rw [get?_ofFields_cons]
      rcases (List.mem_filterMap.mp hm) with ⟨⟨n', v'⟩, hf, h⟩
      obtain ⟨w, rfl, rfl⟩ := Option.map_eq_some_iff.mp h
      rcases List.mem_cons.mp hf with heq | hf
      · cases heq
        simp
      · have hne : n ≠ n' := fun h => hn (h ▸ List.mem_map.mpr ⟨_, hf, rfl⟩)
        rw [if_neg hne]
        exact ih hrest (List.mem_filterMap.mpr ⟨_, hf, h⟩)

/-- Fields that are named in order make an object in order. -/
theorem ordered_ofFields {fields : List (String × Option Json)}
    (h : (fields.map (·.1)).Pairwise (· < ·)) : (ofFields fields).Ordered := by
  refine List.Pairwise.filterMap _ ?_ (List.pairwise_map.mp h)
  intro f g hlt m hm m' hm'
  obtain ⟨w, -, rfl⟩ := Option.map_eq_some_iff.mp hm
  obtain ⟨w', -, rfl⟩ := Option.map_eq_some_iff.mp hm'
  exact hlt

@[simp] theorem isObject_ofFields (fields : List (String × Option Json)) :
    (ofFields fields).isObject := rfl

end Json

end ReleaseControl
