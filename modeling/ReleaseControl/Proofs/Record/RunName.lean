import ReleaseControl.Proofs.Name

/-! # The names of runs

The name of a run is the label of `release-<workspace>-<name>`, cut to leave room for a dash and
for the suffix that stands for the uid. Both ends survive every cut: the front because it has no
dash in it that could be trimmed away (`prefix_trimDashes`), the suffix because it is joined last.
So a name is admissible whatever texts the Release brings, and names with different suffixes of one
length differ (`name_told_by_uid`). -/

namespace ReleaseControl

namespace Name

/-- A front without dashes is not trimmed. -/
theorem prefix_trimDashes {front cs : List Char} (hfront : ∀ c ∈ front, c ≠ '-')
    (h : front <+: cs) : front <+: trimDashes cs := by
  obtain ⟨rest, rfl⟩ := h
  have hkept : front.reverse.dropWhile (· == '-') = front.reverse := by
    rw [List.dropWhile_eq_self_iff]
    intro hlength
    simpa using hfront _ (List.mem_reverse.mp (List.getElem_mem hlength))
  unfold trimDashes
  rw [List.reverse_append, List.dropWhile_append]
  split
  · simp only [hkept, List.reverse_reverse, List.prefix_rfl]
  · rw [List.reverse_append, List.reverse_reverse]
    exact List.prefix_append _ _

/-- A front without dashes is not collapsed. -/
theorem prefix_squeeze {front : List Char} (hfront : ∀ c ∈ front, c ≠ '-') (held : Bool)
    (rest : List Char) : front <+: squeeze held (front ++ rest) := by
  induction front generalizing held with
  | nil => exact List.nil_prefix
  | cons c front ih =>
      obtain ⟨hc, hfront⟩ := List.forall_mem_cons.mp hfront
      rw [List.cons_append, squeeze, if_neg hc]
      exact List.cons_prefix_cons.mpr ⟨rfl, ih hfront false⟩

/-- A short front of letters and digits in lower case stays in front of the label. -/
theorem prefix_labelChars {front : List Char} (hedge : ∀ c ∈ front, isEdge c)
    (hlength : front.length ≤ maxLength) (rest : List Char) :
    front <+: labelChars (front ++ rest) := by
  have hdash : ∀ c ∈ front, c ≠ '-' := fun c hc => ne_dash_of_isEdge (hedge c hc)
  have hfold : front.map foldChar = front := by
    refine (List.map_congr_left ?_).trans (List.map_id _)
    intro c hc
    rw [foldChar, toLower_of_isEdge (hedge c hc), if_pos (hedge c hc), id]
  unfold labelChars
  refine prefix_trimDashes hdash ?_
  rw [List.map_append, hfold]
  exact List.prefix_take_iff.mpr ⟨prefix_squeeze hdash true _, hlength⟩

end Name

namespace PipelineRun

open Name

/-- Joining keeps a short front. -/
theorem prefix_joinName {front label suffix : List Char} (hfront : ∀ c ∈ front, c ≠ '-')
    (hlength : front.length + suffix.length < maxLength) (h : front <+: label) :
    front <+: joinName label suffix := by
  unfold joinName
  split
  · exact h
  · have hcut : front <+: label.take (maxLength - suffix.length - 1) :=
      List.prefix_take_iff.mpr ⟨h, by omega⟩
    exact (prefix_trimDashes hfront hcut).trans (List.prefix_append _ _)

theorem suffix_joinName {label suffix : List Char} (h : suffix ≠ []) :
    '-' :: suffix <:+ joinName label suffix := by
  unfold joinName
  rw [if_neg (by simpa using h)]
  exact List.suffix_append _ _

theorem uidSuffix_ne_nil {uid : List Char} (h : ∃ c ∈ uid, c.isAlphanum) : uidSuffix uid ≠ [] := by
  simpa [uidSuffix, uidLength] using h

/-- What every name starts with. -/
def nameFront : List Char := ['r', 'e', 'l', 'e', 'a', 's', 'e']

theorem isEdge_of_mem_nameFront : ∀ c ∈ nameFront, isEdge c := by
  rw [← List.all_eq_true]
  rfl

theorem prefix_nameFor (r : Release) : nameFront <+: (nameFor r).toList := by
  have htext : (s!"release-{r.metadata.workspace}-{r.metadata.name}").toList =
      nameFront ++ ("-" ++ r.metadata.workspace ++ "-" ++ r.metadata.name).toList := by
    simp [toString, nameFront]
  have hlabel : nameFront <+: labelChars
      (nameFront ++ ("-" ++ r.metadata.workspace ++ "-" ++ r.metadata.name).toList) :=
    prefix_labelChars isEdge_of_mem_nameFront (by decide) _
  have hsuffix : (uidSuffix (r.metadata.uid.getD "").toList).length ≤ 8 := length_uidSuffix_le _
  have hlength : nameFront.length = 7 := rfl
  rw [nameFor, htext, String.toList_ofList]
  refine prefix_joinName (fun c hc => ne_dash_of_isEdge (isEdge_of_mem_nameFront c hc)) ?_ hlabel
  rw [hlength, maxLength]
  omega

/-- Whatever texts a Release brings for workspace, name and uid: the name of its run is admissible,
starts with `release` and, if there is a letter or digit in the uid, ends in a dash and the first
eight of them in lower case; and if these differ from those of another Release, as many in number,
so do the names. -/
theorem name_told_by_uid (r : Release) :
    let suffix (r : Release) : List Char :=
      (((r.metadata.uid.getD "").toList.filter Char.isAlphanum).take 8).map Char.toLower
    (Name.check (nameFor r) = .ok () ∧ Name.IsLabel (nameFor r)) ∧
      "release".toList <+: (nameFor r).toList ∧
      ((∃ c ∈ (r.metadata.uid.getD "").toList, c.isAlphanum) →
        '-' :: suffix r <:+ (nameFor r).toList) ∧
      ∀ r', (suffix r').length = (suffix r).length → suffix r' ≠ suffix r →
        nameFor r' ≠ nameFor r := by
  intro suffix
  refine ⟨⟨check_nameFor r, check_eq_ok_iff.mp (check_nameFor r)⟩, prefix_nameFor r, ?_, ?_⟩
  · intro huid
    rw [nameFor, String.toList_ofList]
    exact suffix_joinName (uidSuffix_ne_nil huid)
  · intro r' hlength hdiffer hname
    exact hdiffer (uidSuffix_eq_of_nameFor hlength hname)

/-- A Release of a workspace whose name alone fills the label. -/
def crowded (name uid : String) : Release :=
  let r := Release.new ⟨"Équipe " ++ String.ofList (List.replicate 60 'x'), name⟩ "l"
  { r with metadata := { r.metadata with uid := some uid } }

/-- The labels of two Releases are cut to one text, and the runs are told apart by the uids. -/
theorem name_told_by_uid_crowded :
    nameFor (crowded "r" "") = nameFor (crowded "s" "") ∧
      nameFor (crowded "r" "00000001-A") =
        "release-quipe-xxxxxxxxxxxxxxxxxxxxxxxxxxxxxxxxxxxxxxxx-00000001" ∧
      nameFor (crowded "s" "00000002-A") ≠ nameFor (crowded "r" "00000001-A") :=
  ⟨by decide +kernel, by decide +kernel,
    (name_told_by_uid (crowded "r" "00000001-A")).2.2.2 _ (by decide +kernel) (by decide +kernel)⟩

end PipelineRun

end ReleaseControl
