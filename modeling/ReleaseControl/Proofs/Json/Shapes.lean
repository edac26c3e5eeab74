import ReleaseControl.Json.Decode
import ReleaseControl.Proofs.Json.Members

/-! # When a record is read

A shape looks at the members of an object one by one and then puts the record together from those
it finds by name. For the shapes that are built from fields the second step implies the first for
the members it finds (`Shape.Lawful`), so that reading an object that was written field by field,
or had one member replaced, comes down to what each field finds. -/

namespace ReleaseControl

namespace Decoder

variable {α β : Type}

theorem mapM_eq_ok_of_forall {f : α → Except DecodeError β} {g : β → α}
    (h : ∀ b, f (g b) = .ok b) (bs : List β) : (bs.map g).mapM f = .ok bs := by
  induction bs with
  | nil => rfl
  | cons b rest ih => simp [List.mapM_cons, h, ih, bind, Except.bind, pure, Except.pure]

/-- Reading undoes writing for lists as soon as it does for their items. -/
theorem list_arr_map {decode : Decoder α} {write : α → Json}
    (h : ∀ a, decode (write a) = .ok a) (as : List α) :
    list decode (.arr (as.map write)) = .ok as :=
  mapM_eq_ok_of_forall h as

theorem nullable_of_ne_null {decode : Decoder α} {v : Json} (h : v ≠ .null) :
    nullable decode v = (decode v).map some := by
  cases v <;> simp_all [nullable]

@[simp] theorem int64_toInt (g : Int64) : int64 (.int g.toInt) = .ok g := by
  have hlow : -(2 ^ 63) ≤ g.toInt := g.le_toInt
  have hhigh : g.toInt < 2 ^ 63 := g.toInt_lt
  simp only [int64]
  rw [if_pos ⟨hlow, hhigh⟩, Int64.ofInt_toInt]

@[simp] theorem nullable_int64_toInt (g : Int64) :
    nullable int64 (.int g.toInt) = .ok (some g) := by
  rw [nullable_of_ne_null (by simp), int64_toInt]
  rfl

end Decoder

namespace Shape

variable {α β : Type}

/-! ## Finding a field -/

theorem build_map {f : α → β} {s : Shape α} {find : String → Option Json} {a : α}
    (h : s.build find = .ok a) : (f <$> s).build find = .ok (f a) := by
  show (s.build find).map f = .ok (f a)
  rw [h]
  rfl

theorem build_seq {s : Shape (α → β)} {t : Shape α} {find : String → Option Json} {f : α → β}
    {a : α} (hs : s.build find = .ok f) (ht : t.build find = .ok a) :
    (s <*> t).build find = .ok (f a) := by
  show (do let f ← s.build find; let a ← t.build find; return f a) = .ok (f a)
  rw [hs, ht]
  rfl

theorem of_build_map {f : α → β} {s : Shape α} {find : String → Option Json} {b : β}
    (h : (f <$> s).build find = .ok b) : ∃ a, s.build find = .ok a ∧ f a = b := by
  change (s.build find).map f = .ok b at h
  cases hs : s.build find with
  | error e => simp [hs, Except.map] at h
  | ok a => exact ⟨a, rfl, by simpa [hs, Except.map] using h⟩

theorem of_build_seq {s : Shape (α → β)} {t : Shape α} {find : String → Option Json} {b : β}
    (h : (s <*> t).build find = .ok b) :
    ∃ f a, s.build find = .ok f ∧ t.build find = .ok a ∧ f a = b := by
  change (do let f ← s.build find; let a ← t.build find; return f a) = .ok b at h
  cases hs : s.build find with
  | error e => simp [hs, bind, Except.bind] at h
  | ok f =>
      cases ht : t.build find with
      | error e => simp [hs, ht, bind, Except.bind] at h
      | ok a =>
          exact ⟨f, a, rfl, rfl, by simpa [hs, ht, bind, Except.bind, pure, Except.pure] using h⟩

theorem build_required {name : String} {decode : Decoder α} {find : String → Option Json} {a : α} :
    (required name decode).build find = .ok a ↔ ∃ v, find name = some v ∧ decode v = .ok a := by
  simp only [required, field]
  cases find name <;> simp

theorem build_withDefault {name : String} {decode : Decoder α} {default : α}
    {find : String → Option Json} {a : α} :
    (withDefault name decode default).build find = .ok a ↔
      (find name = none ∧ default = a) ∨ ∃ v, find name = some v ∧ decode v = .ok a := by
  simp only [withDefault, field]
  cases find name <;> simp

/-- An optional field that was written when it was there. -/
theorem build_optional (write : α → Json) {name : String} {decode : Decoder α}
    {find : String → Option Json} {a : Option α}
    (hread : ∀ b, Decoder.nullable decode (write b) = .ok (some b))
    (h : find name = a.map write) : (optional name decode).build find = .ok a := by
  refine build_withDefault.mpr ?_
  cases a with
  | none => exact .inl ⟨h, rfl⟩
  | some b => exact .inr ⟨_, h, hread b⟩

/-! ## Lawful shapes -/

/-- Whatever the record was put together from passes the look at the single members. -/
class Lawful (s : Shape α) : Prop where
  check_of_build : ∀ {find : String → Option Json} {a : α}, s.build find = .ok a →
    ∀ {n : String} {v : Json}, find n = some v → s.check n v = .ok ()

instance (name : String) (decode : Decoder α) (absent : Except DecodeError α) (short : Option α) :
    Lawful (field name decode absent short) where
  check_of_build := by
    intro find a hbuild n v hfind
    simp only [field] at hbuild ⊢
    by_cases hn : n = name
    · subst hn
      rw [hfind] at hbuild
      have hread : decode v = .ok a := hbuild
      rw [if_pos rfl, hread]
      rfl
    · exact if_neg hn

instance (name : String) (decode : Decoder α) : Lawful (required name decode) :=
  inferInstanceAs (Lawful (field ..))

instance (name : String) (decode : Decoder α) (default : α) :
    Lawful (withDefault name decode default) :=
  inferInstanceAs (Lawful (field ..))

instance (name : String) (decode : Decoder α) : Lawful (optional name decode) :=
  inferInstanceAs (Lawful (withDefault ..))

instance (f : α → β) (s : Shape α) [hs : Lawful s] : Lawful (f <$> s) where
  check_of_build := by
    intro find b hbuild n v hfind
    obtain ⟨a, ha, -⟩ := of_build_map hbuild
    exact hs.check_of_build ha hfind

instance (s : Shape (α → β)) (t : Shape α) [hs : Lawful s] [ht : Lawful t] :
    Lawful (s <*> t) where
  check_of_build := by
    intro find b hbuild n v hfind
    obtain ⟨f, a, hf, ha, -⟩ := of_build_seq hbuild
    show (do s.check n v; t.check n v) = .ok ()
    rw [hs.check_of_build hf hfind]
    exact ht.check_of_build ha hfind

/-! ## Reading -/

theorem forM_eq_ok {f : α → Except DecodeError Unit} (as : List α) :
    as.forM f = .ok () ↔ ∀ a ∈ as, f a = .ok () := by
  induction as with
  | nil => simp [pure, Except.pure]
  | cons a rest ih =>
      show (f a >>= fun _ => rest.forM f) = .ok () ↔ _
      cases h : f a with
      | error e => simp [h, bind, Except.bind]
      | ok u => simpa [h, bind, Except.bind] using ih

theorem decode_obj {type : String} {s : Shape α} {members : List (String × Json)} {a : α} :
    s.decode type (.obj members) = .ok a ↔
      (∀ m ∈ members, s.check m.1 m.2 = .ok ()) ∧
        s.build (fun n => Dictionary.get? n members) = .ok a := by
  simp only [decode]
  rw [← forM_eq_ok]
  generalize members.forM (fun m => s.check m.1 m.2) = checked
  cases checked <;> simp [bind, Except.bind]

/-- What an object is read as, its fields say. -/
theorem build_of_decode {type : String} {s : Shape α} {v : Json} {a : α} (hv : v.isObject)
    (h : s.decode type v = .ok a) : s.build (fun n => v.get? n) = .ok a := by
  obtain ⟨members, rfl⟩ := Json.exists_members hv
  exact (decode_obj.mp h).2

/-- Reading an object that was written field by field. -/
theorem decode_ofFields {type : String} {s : Shape α} [hs : Lawful s]
    {fields : List (String × Option Json)} {a : α} (hnames : (fields.map (·.1)).Nodup)
    (hbuild : s.build (fun n => (Json.ofFields fields).get? n) = .ok a) :
    s.decode type (.ofFields fields) = .ok a := by
  refine decode_obj.mpr ⟨?_, hbuild⟩
  intro m hm
  exact hs.check_of_build hbuild (Json.get?_ofFields_of_mem hnames hm)

/-- An object in order is read as its fields say. -/
theorem decode_of_build {type : String} {s : Shape α} [hs : Lawful s] {v : Json} {a : α}
    (hv : v.isObject) (hordered : v.Ordered) (hbuild : s.build (fun n => v.get? n) = .ok a) :
    s.decode type v = .ok a := by
  obtain ⟨members, rfl⟩ := Json.exists_members hv
  refine decode_obj.mpr ⟨?_, hbuild⟩
  intro m hm
  exact hs.check_of_build hbuild (Dictionary.get?_of_mem hordered hm)

/-- An object with one member replaced is read as its fields now say. -/
theorem decode_set {type : String} {s : Shape α} [hs : Lawful s] {v w : Json} {name : String}
    {a b : α} (hv : v.isObject) (hread : s.decode type v = .ok a)
    (hbuild : s.build (fun n => (v.set name w).get? n) = .ok b) :
    s.decode type (v.set name w) = .ok b := by
  have hfind := Json.get?_set_self hv name w
  obtain ⟨members, rfl⟩ := Json.exists_members hv
  refine decode_obj.mpr ⟨?_, hbuild⟩
  intro m hm
  -- the member that was set is the one that is found, the others were read before
  rcases Dictionary.mem_insert hm with rfl | hm
  · exact hs.check_of_build hbuild hfind
  · exact (decode_obj.mp hread).1 m hm

/-- So is an object with one member taken out. -/
theorem decode_remove {type : String} {s : Shape α} {v : Json} {name : String} {a b : α}
    (hv : v.isObject) (hread : s.decode type v = .ok a)
    (hbuild : s.build (fun n => (v.remove name).get? n) = .ok b) :
    s.decode type (v.remove name) = .ok b := by
  obtain ⟨members, rfl⟩ := Json.exists_members hv
  refine decode_obj.mpr ⟨?_, hbuild⟩
  intro m hm
  exact (decode_obj.mp hread).1 m ((List.mem_filter.mp hm).1)

end Shape

end ReleaseControl
