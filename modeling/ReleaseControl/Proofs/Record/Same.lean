import ReleaseControl.Proofs.Record.Codec
import ReleaseControl.Record.Release

/-! # Specs that the store takes for equal

The store compares specs by `Json.same` and counts a generation when they differ. Two specs that
are the same are read alike, so an update that counts no generation leaves a Release as readable,
and with the same link, as it was. -/

namespace ReleaseControl

namespace Json

theorem string_of_same {v w : Json} (h : v.same w) {s : String} :
    Decoder.string v = .ok s ↔ Decoder.string w = .ok s := by
  cases v <;> cases w <;> simp_all [same, Decoder.string]

/-- Members of one name are found in both objects or in neither. -/
theorem get?_of_sameMembers (name : String) {ms ns : List (String × Json)}
    (h : sameMembers ms ns) :
    (Dictionary.get? name ms = none ∧ Dictionary.get? name ns = none) ∨
      ∃ v w, Dictionary.get? name ms = some v ∧ Dictionary.get? name ns = some w ∧
        v.same w := by
  induction ms generalizing ns with
  | nil =>
      cases ns with
      | nil => exact .inl ⟨rfl, rfl⟩
      | cons => simp [sameMembers] at h
  | cons m rest ih =>
      cases ns with
      | nil => simp [sameMembers] at h
      | cons n rest' =>
          obtain ⟨a, v⟩ := m
          obtain ⟨b, w⟩ := n
          simp only [sameMembers, Bool.and_eq_true, beq_iff_eq] at h
          obtain ⟨⟨rfl, hsame⟩, hrest⟩ := h
          by_cases ha : a = name
          · refine .inr ⟨v, w, ?_, ?_, hsame⟩ <;> simp [Dictionary.get?, ha]
          · simpa [Dictionary.get?, ha] using ih hrest

end Json

namespace ReleaseSpec

open Shape Decoder Json

/-- The look at a single member of a spec. -/
theorem check_eq_ok {type : String} {v : Json} :
    (mk <$> required "releaseLink" string).check type v = .ok () ↔
      (type = "releaseLink" → ∃ s, string v = .ok s) := by
  show (if type = "releaseLink" then (string v).map fun _ => () else .ok ()) = .ok () ↔ _
  by_cases h : type = "releaseLink"
  · rw [if_pos h]
    cases string v <;> simp [h, Except.map]
  · simp [h]

theorem checks_of_sameMembers {ms ns : List (String × Json)} (h : sameMembers ms ns) :
    (∀ m ∈ ms, m.1 = "releaseLink" → ∃ s, string m.2 = .ok s) ↔
      ∀ n ∈ ns, n.1 = "releaseLink" → ∃ s, string n.2 = .ok s := by
  induction ms generalizing ns with
  | nil =>
      cases ns with
      | nil => rfl
      | cons => simp [sameMembers] at h
  | cons m rest ih =>
      cases ns with
      | nil => simp [sameMembers] at h
      | cons n rest' =>
          simp only [sameMembers, Bool.and_eq_true, beq_iff_eq] at h
          obtain ⟨⟨hname, hsame⟩, hrest⟩ := h
          simp only [List.forall_mem_cons, ih hrest, hname, string_of_same hsame]

theorem decode_obj_eq_ok {members : List (String × Json)} {spec : ReleaseSpec} :
    decode (.obj members) = .ok spec ↔
      (∀ m ∈ members, m.1 = "releaseLink" → ∃ s, string m.2 = .ok s) ∧
        ∃ v, Dictionary.get? "releaseLink" members = some v ∧
          string v = .ok spec.releaseLink := by
  unfold decode
  rw [decode_obj]
  simp only [check_eq_ok]
  refine and_congr_right fun _ => ⟨?_, ?_⟩
  · intro h
    obtain ⟨link, hlink, rfl⟩ := of_build_map h
    exact build_required.mp hlink
  · intro h
    exact build_map (build_required.mpr h)

theorem decode_arr_eq_ok {items : List Json} {spec : ReleaseSpec} :
    decode (.arr items) = .ok spec ↔ ∃ v, items = [v] ∧ string v = .ok spec.releaseLink := by
  rcases items with - | ⟨v, rest⟩
  · constructor
    · intro h
      cases h
    · rintro ⟨v, h, -⟩
      cases h
  · have htake : decode (.arr (v :: rest)) = ((string v).bind fun s =>
        if rest.isEmpty then .ok ⟨s⟩
        else .error (.wrongLength (rest.length + 1) "fewer elements in array")) := by
      simp only [decode, Shape.decode]
      show ((((string v).map fun s => (s, rest)).map fun p => (mk p.1, p.2)).bind _) = _
      cases string v <;> rfl
    rw [htake]
    cases hv : string v with
    | error e => simp [Except.bind, hv]
    | ok s =>
        cases rest with
        | nil =>
            simp only [Except.bind, List.isEmpty_nil, if_true, Except.ok.injEq]
            constructor
            · rintro rfl
              exact ⟨v, rfl, hv⟩
            · rintro ⟨w, hw, hs⟩
              cases hw
              rw [hv, Except.ok.injEq] at hs
              rw [hs]
        | cons => simp [Except.bind]

/-- Specs that are the same are read as the same. -/
theorem decode_of_same {v w : Json} (h : v.same w) {spec : ReleaseSpec} :
    decode v = .ok spec ↔ decode w = .ok spec := by
  cases v with
  | obj ms =>
      cases w with
      | obj ns =>
          have hmembers : sameMembers ms ns := by simpa [same] using h
          rw [decode_obj_eq_ok, decode_obj_eq_ok, checks_of_sameMembers hmembers]
          apply and_congr_right
          intro _
          rcases get?_of_sameMembers "releaseLink" hmembers with ⟨hms, hns⟩ |
            ⟨a, b, hms, hns, hsame⟩
          · simp [hms, hns]
          · simp [hms, hns, string_of_same hsame]
      | _ => simp [same] at h
  | arr as =>
      cases w with
      | arr bs =>
          rw [decode_arr_eq_ok, decode_arr_eq_ok]
          -- a spec has one field, so only lists of one item are read
          rcases as with - | ⟨a, - | ⟨a', as⟩⟩ <;> rcases bs with - | ⟨b, - | ⟨b', bs⟩⟩ <;>
            simp [same, sameItems] at h ⊢
          exact string_of_same h
      | _ => simp [same] at h
  | _ =>
      -- the other values are no specs, nor are those that are the same as one of them
      cases w <;> first
        | (simp [same] at h; done)
        | exact iff_of_false (fun hv => by cases hv) (fun hw => by cases hw)

end ReleaseSpec

end ReleaseControl
