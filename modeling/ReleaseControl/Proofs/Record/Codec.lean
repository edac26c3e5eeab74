import ReleaseControl.Proofs.Json.Shapes
import ReleaseControl.Record.PipelineRun

/-! # Reading what was written

Every part of a record that the store or the controller writes is read back as it was. An object
keeps what is read of it when its metadata or its status is replaced by a written one, apart from
the part that was replaced; this is all that the store ever does to an object. -/

namespace ReleaseControl

namespace Dictionary

variable {α : Type}

theorem insert_of_all_lt {name : String} {value : α} {es : List (String × α)}
    (h : ∀ e ∈ es, e.1 < name) : insert name value es = es ++ [(name, value)] := by
  induction es with
  | nil => rfl
  | cons e rest ih =>
      obtain ⟨n, v⟩ := e
      have hn : n < name := h (n, v) List.mem_cons_self
      have hnot : ¬ name < n := fun hlt => String.lt_irrefl _ (String.lt_trans hn hlt)
      have hne : name ≠ n := fun heq => String.lt_irrefl _ (heq ▸ hn)
      simp only [insert, if_neg hnot, if_neg hne, List.cons_append]
      rw [ih fun e he => h e (List.mem_cons_of_mem _ he)]

/-- A list in order is the dictionary of its own entries. -/
theorem ofList_of_ascending {es : List (String × α)} (h : Ascending es) : ofList es = es := by
  have go : ∀ (es d : List (String × α)), Ascending (d ++ es) →
      es.foldl (fun d e => insert e.1 e.2 d) d = d ++ es := by
    intro es
    induction es with
    | nil => simp
    | cons e rest ih =>
        intro d hd
        have hlt : ∀ x ∈ d, x.1 < e.1 := fun x hx =>
          (List.pairwise_append.mp hd).2.2 x hx e List.mem_cons_self
        rw [List.foldl_cons, insert_of_all_lt hlt, ih _ (by simpa using hd)]
        simp
  exact go es [] h

end Dictionary

namespace Labels

@[simp] theorem get?_insert_self (name value : String) (l : Labels) :
    (l.insert name value).get? name = some value :=
  Dictionary.get?_insert_self name value l.entries

theorem get?_insert_ne {m n : String} (h : m ≠ n) (value : String) (l : Labels) :
    (l.insert n value).get? m = l.get? m :=
  Dictionary.get?_insert_ne h value l.entries

@[simp] theorem decode_toJson (l : Labels) : decode l.toJson = .ok l := by
  have hmembers : Decoder.textMembers l.toJson = .ok l.entries :=
    Decoder.mapM_eq_ok_of_forall (g := fun e : String × String => (e.1, Json.str e.2))
      (fun _ => rfl) l.entries
  obtain ⟨entries, hascending⟩ := l
  simp only [decode, hmembers, Except.map, ofList, Dictionary.ofList_of_ascending hascending]

/-- A member for the labels is left out only when there are none. -/
theorem build_toField {name : String} {find : String → Option Json} (l : Labels)
    (h : find name = l.toField) :
    (Shape.withDefault name decode Labels.empty).build find = .ok l := by
  refine Shape.build_withDefault.mpr ?_
  obtain ⟨entries, hascending⟩ := l
  cases entries with
  | nil => exact .inl ⟨h, rfl⟩
  | cons e rest => exact .inr ⟨_, h, decode_toJson _⟩

end Labels

open Shape

namespace Metadata

@[simp] theorem decode_toJson (m : Metadata) : decode m.toJson = .ok m := by
  refine decode_ofFields (by simp) ?_
  refine build_seq (build_seq (build_seq (build_seq (build_seq (build_seq (build_map ?_) ?_) ?_)
    ?_) ?_) ?_) ?_
  · exact build_required.mpr ⟨.str m.workspace, by simp, rfl⟩
  · exact build_required.mpr ⟨.str m.name, by simp, rfl⟩
  · exact build_optional Json.str (fun _ => rfl) (by simp)
  · exact build_optional (fun g => .int g.toInt) Decoder.nullable_int64_toInt (by simp)
  · exact build_optional Json.str (fun _ => rfl) (by simp)
  · exact Labels.build_toField m.labels (by simp)
  · exact build_optional Json.str (fun _ => rfl) (by simp)

end Metadata

namespace Condition

@[simp] theorem decode_status_text (c : ConditionStatus) :
    ConditionStatus.decode (.str c.text) = .ok c := by
  cases c <;> rfl

@[simp] theorem decode_toJson (c : Condition) : decode c.toJson = .ok c := by
  refine decode_ofFields (by simp) ?_
  refine build_seq (build_seq (build_seq (build_seq (build_seq (build_map ?_) ?_) ?_) ?_) ?_) ?_
  · exact build_required.mpr ⟨.str c.type, by simp, rfl⟩
  · exact build_required.mpr ⟨.str c.status.text, by simp, decode_status_text _⟩
  · exact build_withDefault.mpr (.inr ⟨.str c.reason, by simp, rfl⟩)
  · exact build_withDefault.mpr (.inr ⟨.str c.message, by simp, rfl⟩)
  · exact build_optional Json.str (fun _ => rfl) (by simp)
  · exact build_optional (fun g => .int g.toInt) Decoder.nullable_int64_toInt (by simp)

end Condition

/-- A list of records that is left out when it is empty. -/
theorem Shape.build_list {α : Type} {name : String} {decode : Decoder α} {write : α → Json}
    {find : String → Option Json} {as : List α} (hread : ∀ a, decode (write a) = .ok a)
    (h : find name = if as.isEmpty then none else some (.arr (as.map write))) :
    (withDefault name (Decoder.list decode) []).build find = .ok as := by
  refine build_withDefault.mpr ?_
  cases as with
  | nil => exact .inl ⟨h, rfl⟩
  | cons a rest => exact .inr ⟨_, h, Decoder.list_arr_map hread _⟩

namespace ReleaseStatus

@[simp] theorem decode_toJson (s : ReleaseStatus) : decode s.toJson = .ok s := by
  refine decode_ofFields (by simp) ?_
  refine build_seq (build_seq (build_map ?_) ?_) ?_
  · exact build_list Condition.decode_toJson (by simp)
  · exact build_optional Json.str (fun _ => rfl) (by simp)
  · exact build_optional Json.str (fun _ => rfl) (by simp)

end ReleaseStatus

namespace PipelineRunSpec

theorem decode_param_toJson (p : PipelineRunParam) : PipelineRunParam.decode p.toJson = .ok p := by
  refine decode_ofFields (by simp) ?_
  refine build_seq (build_map ?_) ?_
  · exact build_required.mpr ⟨.str p.name, by simp, rfl⟩
  · refine build_required.mpr ⟨p.value.toJson, by simp, ?_⟩
    cases p.value with
    | single value => rfl
    | list values =>
        have hvalues : (values.map Json.str).mapM Json.asString? = some values := by
          induction values with
          | nil => rfl
          | cons v rest ih => simp [List.mapM_cons, ih, Json.asString?]
        simp only [ParamValue.toJson, ParamValue.decode, hvalues]

@[simp] theorem decode_toJson (s : PipelineRunSpec) : decode s.toJson = .ok s := by
  refine decode_ofFields (by simp) ?_
  refine build_seq (build_seq (build_map ?_) ?_) ?_
  · refine build_required.mpr ⟨s.pipelineRef.toJson, by simp, ?_⟩
    refine decode_ofFields (by simp) (build_seq (build_map ?_) ?_)
    · exact build_required.mpr ⟨.str s.pipelineRef.name, by simp, rfl⟩
    · exact build_optional Json.str (fun _ => rfl) (by simp)
  · exact build_list decode_param_toJson (by simp)
  · exact build_optional Json.str (fun _ => rfl) (by simp)

end PipelineRunSpec

end ReleaseControl
