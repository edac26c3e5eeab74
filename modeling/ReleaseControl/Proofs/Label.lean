import ReleaseControl.Proofs.Name

/-! # Labels are names

What `Name.label` makes of a text is within the grammar of names, or empty. A text is its own label
if and only if it looks like one (`labelChars_eq_self_iff`): the characters and the length of a
name, no dash at either end and, which a name need not observe, no two dashes in a row. Each stage
of the normalisation puts one of these right and spoils none that an earlier stage put right, so a
label is its own label, and the empty label is left for texts without a letter or digit. -/

namespace ReleaseControl.Name

theorem isAlphanum_iff {c : Char} : c.isAlphanum ↔ isEdge c.toLower := by
  refine ⟨isEdge_toLower, fun h => ?_⟩
  by_cases hupper : 'A'.val ≤ c.val ∧ c.val ≤ 'Z'.val
  · have : c.isUpper := by rw [isUpper_eq]; exact decide_eq_true hupper
    simp [Char.isAlphanum, isAlpha_eq, this]
  · have hsame : c.toLower = c := dif_neg hupper
    rw [hsame] at h
    exact isAlphanum_of_isEdge h

/-- Two dashes in a row. -/
def doubleDash : List Char := ['-', '-']

/-! ## Folding -/

theorem foldChar_of_isInner {c : Char} (h : isInner c) : foldChar c = c := by
  by_cases hdash : c = '-'
  · rw [hdash]
    decide
  · have hedge := isEdge_of_isInner h hdash
    rw [foldChar, toLower_of_isEdge hedge, if_pos hedge]

theorem foldChar_eq_dash_iff {c : Char} : foldChar c = '-' ↔ c.isAlphanum = false := by
  rw [← Bool.not_eq_true, isAlphanum_iff, foldChar]
  split
  · next h => exact iff_of_false (ne_dash_of_isEdge h) (not_not_intro h)
  · next h => exact iff_of_true rfl h

/-! ## Collapsing -/

theorem doubleDash_infix_cons {c : Char} {cs : List Char} :
    doubleDash <:+: c :: cs ↔ c = '-' ∧ cs.head? = some '-' ∨ doubleDash <:+: cs := by
  rw [List.infix_cons_iff]
  refine or_congr_left ?_
  cases cs <;> simp [doubleDash, eq_comm]

theorem head?_squeeze_true (cs : List Char) : (squeeze true cs).head? ≠ some '-' := by
  induction cs with
  | nil => simp [squeeze]
  | cons c rest ih =>
      rw [squeeze]
      split
      · exact ih
      · next hc => simpa using hc

theorem not_infix_squeeze (held : Bool) (cs : List Char) :
    ¬ doubleDash <:+: squeeze held cs := by
  induction cs generalizing held with
  | nil => simp [squeeze, doubleDash]
  | cons c rest ih =>
      rw [squeeze]
      split
      · split
        · exact ih true
        · -- the dash that is written is held from now on
          rw [doubleDash_infix_cons, not_or]
          exact ⟨fun h => head?_squeeze_true rest h.2, ih true⟩
      · next hc =>
          rw [doubleDash_infix_cons, not_or]
          exact ⟨fun h => hc h.1, ih false⟩

/-- What has no dash to collapse stays. -/
theorem squeeze_eq_self {held : Bool} {cs : List Char} (hheld : held → cs.head? ≠ some '-')
    (h : ¬ doubleDash <:+: cs) : squeeze held cs = cs := by
  induction cs generalizing held with
  | nil => rfl
  | cons c rest ih =>
      rw [doubleDash_infix_cons, not_or, not_and] at h
      rw [squeeze]
      split
      · next hc =>
          have hfree : ¬ held = true := fun hh => hheld hh (congrArg some hc)
          rw [if_neg hfree, ih (fun _ => h.1 hc) h.2, hc]
      · rw [ih (by simp) h.2]

theorem squeeze_true_eq_nil_iff {cs : List Char} : squeeze true cs = [] ↔ ∀ c ∈ cs, c = '-' := by
  induction cs with
  | nil => simp [squeeze]
  | cons c rest ih =>
      rw [squeeze, List.forall_mem_cons]
      split
      · next hc => rw [if_pos rfl, ih, and_iff_right hc]
      · next hc => exact iff_of_false (by simp) fun h => hc h.1

/-! ## Trimming -/

theorem getLast?_trimDashes (cs : List Char) : (trimDashes cs).getLast? ≠ some '-' := by
  have hnot := List.head?_dropWhile_not (· == '-') cs.reverse
  rw [trimDashes, List.getLast?_reverse]
  intro h
  rw [h] at hnot
  simp at hnot

theorem trimDashes_eq_self {cs : List Char} (h : cs.getLast? ≠ some '-') : trimDashes cs = cs := by
  have hkept : cs.reverse.dropWhile (· == '-') = cs.reverse := by
    rw [List.dropWhile_eq_self_iff]
    intro hlength hdash
    rw [← List.head?_reverse, List.head?_eq_getElem?, List.getElem?_eq_getElem hlength] at h
    simp_all
  rw [trimDashes, hkept, List.reverse_reverse]

/-! ## Labels -/

/-- What a label looks like. -/
structure Labelled (cs : List Char) : Prop where
  length : cs.length ≤ maxLength
  inner : ∀ c ∈ cs, isInner c
  first : cs.head? ≠ some '-'
  last : cs.getLast? ≠ some '-'
  separated : ¬ doubleDash <:+: cs

/-- What is left of the front of a list starts as the list does, unless nothing is left. -/
theorem head?_of_isPrefix {cs ds : List Char} (h : cs <+: ds) (hne : cs ≠ []) :
    cs.head? = ds.head? := by
  obtain ⟨rest, rfl⟩ := h
  rw [List.head?_append, Option.or_of_isSome (by simpa using hne)]

theorem labelled_labelChars (cs : List Char) : Labelled (labelChars cs) := by
  have hfront : labelChars cs <+: squeeze true (cs.map foldChar) :=
    (trimDashes_isPrefixOf _).trans (List.take_prefix _ _)
  refine ⟨length_labelChars_le cs, ?_, ?_, getLast?_trimDashes _, ?_⟩
  · intro c hc
    obtain ⟨d, -, rfl⟩ := List.mem_map.mp (mem_of_mem_squeeze (hfront.subset hc))
    exact isInner_foldChar d
  · by_cases hnil : labelChars cs = []
    · simp [hnil]
    · rw [head?_of_isPrefix hfront hnil]
      exact head?_squeeze_true _
  · intro h
    exact not_infix_squeeze true _ (h.trans hfront.isInfix)

theorem Labelled.labelChars_eq {cs : List Char} (h : Labelled cs) : labelChars cs = cs := by
  have hfold : cs.map foldChar = cs :=
    (List.map_congr_left fun c hc => foldChar_of_isInner (h.inner c hc)).trans (List.map_id cs)
  rw [labelChars, hfold, squeeze_eq_self (fun _ => h.first) h.separated,
    List.take_of_length_le h.length, trimDashes_eq_self h.last]

theorem labelChars_eq_self_iff {cs : List Char} : labelChars cs = cs ↔ Labelled cs := by
  refine ⟨fun h => ?_, Labelled.labelChars_eq⟩
  rw [← h]
  exact labelled_labelChars cs

theorem labelChars_eq_nil_iff {cs : List Char} :
    labelChars cs = [] ↔ ∀ c ∈ cs, c.isAlphanum = false := by
  have hsqueezed : squeeze true (cs.map foldChar) = [] ↔ ∀ c ∈ cs, c.isAlphanum = false := by
    simp only [squeeze_true_eq_nil_iff, List.forall_mem_map, foldChar_eq_dash_iff]
  rw [← hsqueezed]
  constructor
  · intro hnil
    -- the first character that is written is no dash, and neither the cut nor the trimming takes it
    cases hwritten : squeeze true (cs.map foldChar) with
    | nil => rfl
    | cons c rest =>
        have hinner : isInner c := by
          have hmem : c ∈ squeeze true (cs.map foldChar) := by simp [hwritten]
          obtain ⟨d, -, rfl⟩ := List.mem_map.mp (mem_of_mem_squeeze hmem)
          exact isInner_foldChar d
        have hdash : c ≠ '-' := by
          have hfirst := head?_squeeze_true (cs.map foldChar)
          simpa [hwritten] using hfirst
        have hkept : (trimDashes ((c :: rest).take maxLength)).head? = some c :=
          head?_trimDashes (isEdge_of_isInner hinner hdash)
        rw [labelChars, hwritten] at hnil
        rw [hnil] at hkept
        cases hkept
  · intro hnil
    rw [labelChars, hnil]
    rfl

/-! ## Names and labels -/

/-- Names without two dashes in a row, and the empty text, look like labels. -/
theorem labelled_iff {text : String} :
    Labelled text.toList ↔
      text = "" ∨ check text = .ok () ∧ ¬ doubleDash <:+: text.toList := by
  constructor
  · intro h
    refine or_iff_not_imp_left.mpr fun hne => ⟨check_eq_ok_iff.mpr ⟨hne, ?_, ?_, h.first, h.last⟩,
      h.separated⟩
    · have hsize := utf8ByteSize_ofList h.inner
      rw [String.ofList_toList] at hsize
      exact hsize.trans_le h.length
    · exact fun c hc => isInner_iff.mp (h.inner c hc)
  · rintro (rfl | ⟨hname, hseparated⟩)
    · exact ⟨by decide, by simp, by simp, by simp, by simp [doubleDash]⟩
    · obtain ⟨-, hsize, hcharacters, hfirst, hlast⟩ := check_eq_ok_iff.mp hname
      have hinner : ∀ c ∈ text.toList, isInner c := fun c hc => isInner_iff.mpr (hcharacters c hc)
      have hlength := utf8ByteSize_ofList hinner
      rw [String.ofList_toList] at hlength
      exact ⟨hlength ▸ hsize, hinner, hfirst, hlast, hseparated⟩

theorem toList_label (text : String) : (label text).toList = labelChars text.toList :=
  String.toList_ofList

theorem label_eq_self_iff {text : String} : label text = text ↔ Labelled text.toList := by
  rw [← labelChars_eq_self_iff, ← toList_label, String.toList_inj]

theorem labelled_label (text : String) : Labelled (label text).toList := by
  rw [toList_label]
  exact labelled_labelChars _

theorem label_ne_empty_iff {text : String} :
    label text ≠ "" ↔ ∃ c ∈ text.toList, c.isAlphanum := by
  rw [ne_eq, ← String.toList_inj, toList_label, String.toList_empty, labelChars_eq_nil_iff]
  simp

/-- The grammar of names and the normalisation of texts agree. Accepted as a name is exactly what
has 1 to 63 bytes, all of them lower case letters, digits or dashes, and no dash at either end. The
label of any text is a name, or empty if the text has no letter or digit; it has no two dashes in
a row and is its own label. What is its own label is empty or a name without two dashes in
a row. -/
theorem label_agrees_with_check (text : String) :
    (check text = .ok () ↔ IsLabel text) ∧
      (label text = "" ∨ check (label text) = .ok ()) ∧
      (label text ≠ "" ↔ ∃ c ∈ text.toList, c.isAlphanum) ∧
      ¬ doubleDash <:+: (label text).toList ∧
      label (label text) = label text ∧
      (label text = text ↔
        text = "" ∨ check text = .ok () ∧ ¬ doubleDash <:+: text.toList) := by
  have hlabel := labelled_label text
  refine ⟨check_eq_ok_iff, ?_, label_ne_empty_iff, hlabel.separated, label_eq_self_iff.mpr hlabel,
    label_eq_self_iff.trans labelled_iff⟩
  exact (labelled_iff.mp hlabel).imp_right And.left

end ReleaseControl.Name
