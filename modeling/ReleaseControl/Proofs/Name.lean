import Mathlib.Data.List.TakeWhile
import ReleaseControl.Record.PipelineRun

/-! # The names that the program makes up are valid

What the store takes for a name is the grammar of DNS-1123 labels (`check_eq_ok_iff`). A label made
from a text has only inner characters, none twice a dash, and loses the dashes at its end; as long
as it starts with a letter or digit it is a record name. The name of a run starts with `release` and
stays within the length, so the store never refuses a run for its name. -/

namespace ReleaseControl

namespace Name

/-! ## Characters -/

theorem isUpper_eq (c : Char) :
    c.isUpper = decide ('A'.val ≤ c.val ∧ c.val ≤ 'Z'.val) := rfl

theorem isLower_eq (c : Char) :
    c.isLower = (decide ('a'.val ≤ c.val) && decide (c.val ≤ 'z'.val)) := rfl

theorem isAlpha_eq (c : Char) : c.isAlpha = (c.isUpper || c.isLower) := rfl

theorem isInner_dash : isInner '-' := by decide

theorem ne_dash_of_isEdge {c : Char} (h : isEdge c) : c ≠ '-' := by
  rintro rfl
  exact absurd h (by decide)

theorem isInner_of_isEdge {c : Char} (h : isEdge c) : isInner c := by simp [isInner, h]

theorem isEdge_of_isInner {c : Char} (h : isInner c) (hdash : c ≠ '-') : isEdge c := by
  simpa [isInner, hdash] using h

/-- Inner characters are ASCII. -/
theorem utf8Size_eq_one {c : Char} (h : isInner c) : c.utf8Size = 1 := by
  rw [Char.utf8Size_eq_one_iff, UInt32.le_iff_toNat_le]
  simp only [isInner, isEdge, isLower_eq, Char.isDigit, Bool.or_eq_true, Bool.and_eq_true,
    decide_eq_true_eq, beq_iff_eq, UInt32.le_iff_toNat_le] at h
  rcases h with (⟨-, h⟩ | ⟨-, h⟩) | rfl
  · exact Nat.le_trans h (by decide)
  · exact Nat.le_trans h (by decide)
  · decide

theorem isInner_foldChar (c : Char) : isInner (foldChar c) := by
  simp only [foldChar]
  split
  · next h => exact isInner_of_isEdge h
  · exact isInner_dash

theorem isEdge_toLower {c : Char} (h : c.isAlphanum) : isEdge c.toLower := by
  simp only [Char.isAlphanum, isAlpha_eq, isUpper_eq, isLower_eq, Char.isDigit,
    Bool.or_eq_true, Bool.and_eq_true, decide_eq_true_eq, ge_iff_le] at h
  unfold isEdge
  rw [Bool.or_eq_true]
  -- upper case is moved into lower case, the rest stays
  by_cases hupper : 'A'.val ≤ c.val ∧ c.val ≤ 'Z'.val
  · have hval : c.toLower.val = c.val + 32 := by
      exact congrArg Char.val (dif_pos hupper)
    have hlow : 65 ≤ c.val.toNat := UInt32.le_iff_toNat_le.mp hupper.1
    have hhigh : c.val.toNat ≤ 90 := UInt32.le_iff_toNat_le.mp hupper.2
    have hnat : (c.val + 32).toNat = c.val.toNat + 32 := by
      rw [UInt32.toNat_add]
      refine Nat.mod_eq_of_lt ?_
      show c.val.toNat + 32 < 2 ^ 32
      omega
    left
    simp only [isLower_eq, Bool.and_eq_true, decide_eq_true_eq, UInt32.le_iff_toNat_le, hval, hnat]
    show 97 ≤ c.val.toNat + 32 ∧ c.val.toNat + 32 ≤ 122
    omega
  · have hsame : c.toLower = c := dif_neg hupper
    rw [hsame]
    rcases h with (h | h) | h
    · exact absurd h hupper
    · left
      simpa [isLower_eq] using h
    · right
      simpa [Char.isDigit] using h

theorem isAlphanum_of_isEdge {c : Char} (h : isEdge c) : c.isAlphanum := by
  rcases Bool.or_eq_true _ _ ▸ h with h | h
  · simp [Char.isAlphanum, isAlpha_eq, h]
  · simp [Char.isAlphanum, h]

theorem toLower_of_isEdge {c : Char} (h : isEdge c) : c.toLower = c := by
  refine dif_neg fun hupper => ?_
  have hlow : 65 ≤ c.val.toNat := UInt32.le_iff_toNat_le.mp hupper.1
  have hhigh : c.val.toNat ≤ 90 := UInt32.le_iff_toNat_le.mp hupper.2
  simp only [isEdge, isLower_eq, Char.isDigit, Bool.or_eq_true, Bool.and_eq_true,
    decide_eq_true_eq, UInt32.le_iff_toNat_le] at h
  rcases h with ⟨h, -⟩ | ⟨-, h⟩
  · exact absurd (Nat.le_trans h hhigh) (by decide)
  · exact absurd (Nat.le_trans hlow h) (by decide)

/-! ## Checking -/

theorem utf8ByteSize_ofList {cs : List Char} (h : ∀ c ∈ cs, isInner c) :
    (String.ofList cs).utf8ByteSize = cs.length := by
  induction cs with
  | nil => rfl
  | cons c rest ih =>
      rw [String.ofList_cons, String.utf8ByteSize_append, String.utf8ByteSize_singleton,
        utf8Size_eq_one (h c List.mem_cons_self), ih fun d hd => h d (List.mem_cons_of_mem _ hd),
        List.length_cons, Nat.add_comm]

theorem wellFormed_iff {cs : List Char} :
    wellFormed cs ↔
      (∀ c ∈ cs, isInner c) ∧ cs.head?.any isEdge ∧ cs.getLast?.any isEdge := by
  simp [wellFormed, and_assoc]

/-- Well-formed characters that are not too many are a name. -/
theorem check_ofList {cs : List Char} (hwell : wellFormed cs) (hlength : cs.length ≤ maxLength) :
    check (String.ofList cs) = .ok () := by
  obtain ⟨hinner, hhead, -⟩ := wellFormed_iff.mp hwell
  have hne : (String.ofList cs).isEmpty = false := by
    cases cs with
    | nil => simp at hhead
    | cons c rest => simp
  simp only [check, hne, utf8ByteSize_ofList hinner, String.toList_ofList, hwell]
  rw [if_neg (by simp), if_neg (by omega)]
  rfl

/-- The grammar of record names, spelled out. -/
structure IsLabel (name : String) : Prop where
  nonempty : name ≠ ""
  size : name.utf8ByteSize ≤ 63
  characters : ∀ c ∈ name.toList,
    ('a' ≤ c ∧ c ≤ 'z') ∨ ('0' ≤ c ∧ c ≤ '9') ∨ c = '-'
  first : name.toList.head? ≠ some '-'
  last : name.toList.getLast? ≠ some '-'

theorem isInner_iff {c : Char} :
    isInner c ↔ ('a' ≤ c ∧ c ≤ 'z') ∨ ('0' ≤ c ∧ c ≤ '9') ∨ c = '-' := by
  simp [isInner, isEdge, isLower_eq, Char.isDigit, Char.le_def, or_assoc]

/-- The outermost characters of a name are no dashes if and only if they may stand there. -/
theorem any_isEdge_iff {cs : List Char} (hinner : ∀ c ∈ cs, isInner c) {outer? : Option Char}
    (hmem : ∀ c, outer? = some c → c ∈ cs) (hsome : outer?.isSome) :
    outer?.any isEdge ↔ outer? ≠ some '-' := by
  obtain ⟨c, rfl⟩ := Option.isSome_iff_exists.mp hsome
  rw [Option.any_some, ne_eq, Option.some.injEq]
  constructor
  · rintro hedge rfl
    exact absurd hedge (by decide)
  · exact isEdge_of_isInner (hinner c (hmem c rfl))

theorem check_eq_ok_iff {name : String} : check name = .ok () ↔ IsLabel name := by
  have hwell (hname : name ≠ "") : wellFormed name.toList ↔ (∀ c ∈ name.toList, isInner c) ∧
      name.toList.head? ≠ some '-' ∧ name.toList.getLast? ≠ some '-' := by
    have hne : name.toList ≠ [] := by simpa using hname
    rw [wellFormed_iff]
    refine and_congr_right fun hinner => and_congr ?_ ?_
    · exact any_isEdge_iff hinner (fun c => List.mem_of_head?) (by simpa using hne)
    · exact any_isEdge_iff hinner (fun c => List.mem_of_getLast?) (by simpa using hne)
  unfold check
  constructor
  · intro h
    split at h
    · cases h
    · next hempty =>
        have hname : name ≠ "" := by simpa using hempty
        split at h
        · cases h
        · next hsize =>
            split at h
            · next hform =>
                obtain ⟨hinner, hfirst, hlast⟩ := (hwell hname).mp hform
                exact ⟨hname, Nat.not_lt.mp hsize, fun c hc => isInner_iff.mp (hinner c hc),
                  hfirst, hlast⟩
            · cases h
  · rintro ⟨hname, hsize, hcharacters, hfirst, hlast⟩
    have hshort : ¬ name.utf8ByteSize > maxLength := Nat.not_lt.mpr hsize
    have hform := (hwell hname).mpr
      ⟨fun c hc => isInner_iff.mpr (hcharacters c hc), hfirst, hlast⟩
    rw [if_neg (by simpa using hname), if_neg hshort, if_pos hform]

theorem slash_notMem {name : String} (h : check name = .ok ()) : '/' ∉ name.toList := by
  intro hslash
  have hcharacter := (check_eq_ok_iff.mp h).characters '/' hslash
  revert hcharacter
  decide

/-! ## Normalising -/

theorem mem_of_mem_squeeze {held : Bool} {c : Char} {cs : List Char}
    (h : c ∈ squeeze held cs) : c ∈ cs := by
  induction cs generalizing held with
  | nil => simp [squeeze] at h
  | cons d rest ih =>
      simp only [squeeze] at h
      split at h
      · next hd =>
          split at h
          · exact List.mem_cons_of_mem _ (ih h)
          · rcases List.mem_cons.mp h with heq | h
            · rw [heq, hd]
              exact List.mem_cons_self
            · exact List.mem_cons_of_mem _ (ih h)
      · rcases List.mem_cons.mp h with heq | h
        · rw [heq]
          exact List.mem_cons_self
        · exact List.mem_cons_of_mem _ (ih h)

theorem trimDashes_isPrefixOf (cs : List Char) : trimDashes cs <+: cs := by
  have hsuffix : cs.reverse.dropWhile (· == '-') <:+ cs.reverse := List.dropWhile_suffix _
  simpa [trimDashes] using List.reverse_prefix.mpr hsuffix

/-- What starts with an edge character keeps it when the dashes at the end go. -/
theorem head?_trimDashes {cs : List Char} (h : cs.head?.any isEdge) :
    (trimDashes cs).head? = cs.head? := by
  cases cs with
  | nil => rfl
  | cons c rest =>
      obtain ⟨more, hmore⟩ := trimDashes_isPrefixOf (c :: rest)
      have hne : trimDashes (c :: rest) ≠ [] := by
        intro hnil
        simp only [trimDashes, List.reverse_eq_nil_iff, List.dropWhile_eq_nil_iff] at hnil
        exact ne_dash_of_isEdge h (by simpa using hnil c (by simp))
      obtain ⟨d, tail, hd⟩ := List.exists_cons_of_ne_nil hne
      rw [hd, List.cons_append, List.cons.injEq] at hmore
      rw [hd, List.head?_cons, List.head?_cons, hmore.1]

theorem wellFormed_trimDashes {cs : List Char} (hinner : ∀ c ∈ cs, isInner c)
    (hhead : cs.head?.any isEdge) : wellFormed (trimDashes cs) := by
  refine wellFormed_iff.mpr ⟨fun c hc => hinner c ((trimDashes_isPrefixOf cs).subset hc), ?_, ?_⟩
  · rw [head?_trimDashes hhead]
    exact hhead
  · -- the first character that is left when the dashes are dropped from the back
    have hnot := List.head?_dropWhile_not (· == '-') cs.reverse
    unfold trimDashes
    rw [List.getLast?_reverse]
    have hsome : (cs.reverse.dropWhile (· == '-')).head?.isSome := by
      have := head?_trimDashes hhead
      cases hcs : cs.reverse.dropWhile (· == '-') with
      | nil =>
          unfold trimDashes at this
          rw [hcs, List.reverse_nil, List.head?_nil] at this
          rw [← this] at hhead
          exact absurd hhead (by simp)
      | cons => rfl
    obtain ⟨d, hd⟩ := Option.isSome_iff_exists.mp hsome
    rw [hd] at hnot ⊢
    have hmem : d ∈ cs := by
      have := List.mem_of_mem_head? hd
      exact List.mem_reverse.mp ((List.dropWhile_suffix _).subset this)
    exact isEdge_of_isInner (hinner d hmem) (by simpa using hnot)

theorem length_labelChars_le (cs : List Char) : (labelChars cs).length ≤ maxLength :=
  Nat.le_trans (trimDashes_isPrefixOf _).length_le (List.length_take_le _ _)

/-- A text that starts with a letter or digit has a well-formed label. -/
theorem wellFormed_labelChars {c : Char} (cs : List Char) (h : isEdge c.toLower) :
    wellFormed (labelChars (c :: cs)) := by
  have hne : c.toLower ≠ '-' := ne_dash_of_isEdge h
  refine wellFormed_trimDashes ?_ ?_
  · intro d hd
    obtain ⟨e, -, rfl⟩ := List.mem_map.mp (mem_of_mem_squeeze (List.mem_of_mem_take hd))
    exact isInner_foldChar e
  · rw [List.map_cons, foldChar, if_pos h, squeeze, if_neg hne, maxLength, List.take_succ_cons,
      List.head?_cons]
    exact h

end Name

namespace PipelineRun

open Name

theorem isEdge_of_mem_uidSuffix {c : Char} {uid : List Char} (h : c ∈ uidSuffix uid) :
    isEdge c := by
  obtain ⟨d, hd, rfl⟩ := List.mem_map.mp h
  exact isEdge_toLower (List.mem_filter.mp (List.mem_of_mem_take hd)).2

theorem length_uidSuffix_le (uid : List Char) : (uidSuffix uid).length ≤ uidLength := by
  unfold uidSuffix
  rw [List.length_map]
  exact List.length_take_le _ _

/-- Joining keeps the label's start, ends in the suffix and stays within the length. -/
theorem check_joinName {label suffix : List Char} (hlabel : wellFormed label)
    (hlength : label.length ≤ maxLength) (hsuffix : ∀ c ∈ suffix, isEdge c)
    (hshort : suffix.length ≤ uidLength) :
    Name.check (String.ofList (joinName label suffix)) = .ok () := by
  cases suffix with
  | nil => exact check_ofList hlabel hlength
  | cons s rest =>
      obtain ⟨hinner, hhead, -⟩ := wellFormed_iff.mp hlabel
      have hjoin : joinName label (s :: rest) =
          trimDashes (label.take (maxLength - (s :: rest).length - 1)) ++ '-' :: s :: rest := rfl
      -- the label is cut to leave room for a dash and the suffix
      have hroom : 0 < maxLength - (s :: rest).length - 1 := by
        have : (s :: rest).length ≤ 8 := hshort
        simp only [maxLength]
        omega
      have hcut : (label.take (maxLength - (s :: rest).length - 1)).head? = label.head? :=
        List.head?_take.trans (if_neg (by omega))
      obtain ⟨hinner', hhead', -⟩ := wellFormed_iff.mp <|
        wellFormed_trimDashes (fun c hc => hinner c (List.mem_of_mem_take hc))
          (by rw [hcut]; exact hhead)
      rw [hjoin]
      refine check_ofList (wellFormed_iff.mpr ⟨?_, ?_, ?_⟩) ?_
      · intro c hc
        rcases List.mem_append.mp hc with hc | hc
        · exact hinner' c hc
        · rcases List.mem_cons.mp hc with rfl | hc
          · exact isInner_dash
          · exact isInner_of_isEdge (hsuffix c hc)
      · rw [List.head?_append]
        generalize (trimDashes (label.take (maxLength - (s :: rest).length - 1))).head? = first
          at hhead' ⊢
        cases first with
        | none => exact absurd hhead' (by simp)
        | some c => exact hhead'
      · rw [List.getLast?_append, List.getLast?_cons_cons]
        have hlast : (s :: rest).getLast? = some ((s :: rest).getLast (by simp)) :=
          List.getLast?_eq_some_getLast (by simp)
        rw [hlast]
        exact hsuffix _ (List.getLast_mem _)
      · have hcutLength := (trimDashes_isPrefixOf
          (label.take (maxLength - (s :: rest).length - 1))).length_le
        have := List.length_take_le (maxLength - (s :: rest).length - 1) label
        simp only [List.length_append, List.length_cons, maxLength] at *
        omega

/-- The name of the run of any Release is a record name. -/
theorem check_nameFor (r : Release) : Name.check (nameFor r) = .ok () := by
  have htext : (s!"release-{r.metadata.workspace}-{r.metadata.name}").toList =
      'r' :: ("elease-" ++ r.metadata.workspace ++ "-" ++ r.metadata.name).toList := by
    simp [toString]
  unfold nameFor
  rw [htext]
  exact check_joinName (wellFormed_labelChars _ (by decide)) (length_labelChars_le _)
    (fun c => isEdge_of_mem_uidSuffix) (length_uidSuffix_le _)

/-- A uid that starts with lower case letters and digits starts with its suffix. -/
theorem uidSuffix_eq_take {uid : List Char} (hlength : uidLength ≤ uid.length)
    (h : ∀ c ∈ uid.take uidLength, isEdge c) : uidSuffix uid = uid.take uidLength := by
  have hkept : (uid.take uidLength).filter Char.isAlphanum = uid.take uidLength :=
    List.filter_eq_self.mpr fun c hc => isAlphanum_of_isEdge (h c hc)
  have hfirst : (uid.filter Char.isAlphanum).take uidLength = uid.take uidLength := by
    calc (uid.filter Char.isAlphanum).take uidLength
        = ((uid.take uidLength ++ uid.drop uidLength).filter Char.isAlphanum).take uidLength := by
          rw [List.take_append_drop]
      _ = uid.take uidLength := by
          rw [List.filter_append, hkept]
          exact List.take_left' (List.length_take_of_le hlength)
  unfold uidSuffix
  rw [hfirst]
  exact (List.map_congr_left fun c hc => toLower_of_isEdge (h c hc)).trans (List.map_id _)

/-- The suffix can be read off a joined name, if its length is known. -/
theorem suffix_eq_of_joinName {label label' suffix suffix' : List Char}
    (hlength : suffix.length = suffix'.length)
    (h : joinName label suffix = joinName label' suffix') : suffix = suffix' := by
  cases suffix with
  | nil => exact (List.length_eq_zero_iff.mp hlength.symm).symm
  | cons c rest =>
      cases suffix' with
      | nil => cases hlength
      | cons c' rest' =>
          have hends : ('-' :: c :: rest).length = ('-' :: c' :: rest').length := by
            simpa using hlength
          exact (List.cons.inj (List.append_inj_right' h hends)).2

/-- Runs of one name were made for Releases whose uids look the same from the start, whatever their
workspaces and names. -/
theorem uidSuffix_eq_of_nameFor {r r' : Release}
    (hlength : (uidSuffix (r.metadata.uid.getD "").toList).length =
      (uidSuffix (r'.metadata.uid.getD "").toList).length)
    (h : nameFor r = nameFor r') :
    uidSuffix (r.metadata.uid.getD "").toList = uidSuffix (r'.metadata.uid.getD "").toList :=
  suffix_eq_of_joinName hlength (String.ofList_injective h)

end PipelineRun

end ReleaseControl
