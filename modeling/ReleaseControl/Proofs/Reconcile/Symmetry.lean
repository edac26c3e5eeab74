import ReleaseControl.Proofs.Reconcile.TargetLookup

/-! # Looking back

To pair with each other is symmetric (`pairsWith_comm`), so a link that was found as a counterpart
finds the way back: it has a counterpart, namely the link that led to it, or several of which that
is one (`Mirrored`). The lookup goes by what the index lists, so the way back is lost if the first
link is not listed, or if it seems to be the only one since others are not (`Retraced`). Where the
index lists all counterparts there is no such exception (`lookup_mirrored`, `one_way`). -/

namespace ReleaseControl

open Reconcile Store

/-- To pair is mutual. -/
theorem ReleaseLink.pairsWith_comm (a b : ReleaseLink) : a.pairsWith b = b.pairsWith a := by
  rw [Bool.eq_iff_iff]
  simp only [pairsWith, Bool.and_eq_true, beq_iff_eq]
  constructor
  · rintro ⟨⟨hspace, htarget⟩, happlication⟩
    exact ⟨⟨htarget.symm, hspace.symm⟩, happlication.symm⟩
  · rintro ⟨⟨hspace, htarget⟩, happlication⟩
    exact ⟨⟨htarget.symm, hspace.symm⟩, happlication.symm⟩

namespace Chain

/-- What a lookup has to come to if `a` is one of the counterparts. -/
structure Mirrored (policy : AmbiguityPolicy) (C : ReleaseLink → Prop) (a : ReleaseLink)
    (result : Except ReconcileError ReleaseLink) : Prop where
  found : ∀ target workspace application,
    result ≠ .error (.noMatchingTarget target workspace application)
  only : policy = .strict → (result = .ok a ↔ ∀ c, C c → c = a)
  several : policy = .strict → ∀ c, C c → c ≠ a → ∃ target application names,
    result = .error (.ambiguousTarget target application names) ∧ a.metadata.name ∈ names
  first : policy = .firstByName → ∃ c, result = .ok c ∧
    c.metadata.workspace = a.metadata.workspace ∧ c.metadata.name ≤ a.metadata.name

section Mirrors

variable {link a : ReleaseLink} {C V : ReleaseLink → Prop}
  {result : Except ReconcileError ReleaseLink}

/-- Who decides about a part of the counterparts has to know of `a`, and of another one if there is
one. -/
theorem Selects.mirrored_strict_iff (h : Selects .strict link V result) (hsub : ∀ c, V c → C c)
    (hapart : NamesApart C) (ha : C a) :
    Mirrored .strict C a result ↔ V a ∧ ∀ c, C c → ¬ V c → ∃ d, V d ∧ d ≠ a := by
  constructor
  · intro hmirror
    have hknown : V a := by
      by_contra hleft
      have hmissed : result ≠ .ok a := by
        rintro rfl
        exact hleft h.of_ok.1
      obtain ⟨c, hc⟩ := not_forall.mp fun hall => hmissed ((hmirror.only rfl).mpr hall)
      obtain ⟨hc, hne⟩ := Classical.not_imp.mp hc
      obtain ⟨target, application, names, rfl, hname⟩ := hmirror.several rfl c hc hne
      obtain ⟨d, hd, hsame⟩ := (h.of_ambiguous.2 _).mp hname
      exact hleft (hapart d a (hsub d hd) ha hsame ▸ hd)
    refine ⟨hknown, fun c hc hleft => ?_⟩
    have hne : c ≠ a := by
      rintro rfl
      exact hleft hknown
    obtain ⟨target, application, names, rfl, -⟩ := hmirror.several rfl c hc hne
    obtain ⟨d, e, hd, he, hapart⟩ := h.of_ambiguous.1
    by_cases hfirst : d = a
    · exact ⟨e, he, fun hsecond => hapart (hfirst.trans hsecond.symm)⟩
    · exact ⟨d, hd, hfirst⟩
  · rintro ⟨hknown, hothers⟩
    cases h with
    | none hnone => exact absurd hknown (hnone a)
    | only honly =>
        obtain rfl := (honly a).mp hknown
        have hall : ∀ c, C c → c = a := by
          intro c hc
          by_contra hne
          obtain ⟨d, hd, hother⟩ := hothers c hc fun hv => hne ((honly c).mp hv)
          exact hother ((honly d).mp hd)
        exact {
          found := nofun
          only := fun _ => ⟨fun _ => hall, fun _ => rfl⟩
          several := fun _ c hc hne => absurd (hall c hc) hne
          first := nofun }
    | ambiguous _ hseveral _ hnames =>
        obtain ⟨c, d, hc, hd, hne⟩ := hseveral
        exact {
          found := nofun
          only := fun _ => ⟨nofun, fun hall =>
            absurd ((hall c (hsub c hc)).trans (hall d (hsub d hd)).symm) hne⟩
          several := fun _ _ _ _ => ⟨_, _, _, rfl, (hnames _).mpr ⟨a, hknown, rfl⟩⟩
          first := nofun }
    | first hfirst => cases hfirst

theorem Selects.mirrored_firstByName_iff (h : Selects .firstByName link V result)
    (hspace : ∀ c, V c → c.metadata.workspace = a.metadata.workspace) :
    Mirrored .firstByName C a result ↔ ∃ d, V d ∧ d.metadata.name ≤ a.metadata.name := by
  constructor
  · intro hmirror
    obtain ⟨c, rfl, -, hname⟩ := hmirror.first rfl
    exact ⟨c, h.of_ok.1, hname⟩
  · rintro ⟨d, hd, hname⟩
    obtain ⟨c, rfl⟩ := h.exists_ok hd
    obtain ⟨hc, hleast⟩ := h.of_ok
    exact {
      found := nofun
      only := nofun
      several := nofun
      first := fun _ => ⟨c, rfl, hspace c hc, (hleast d hd).trans hname⟩ }

end Mirrors

/-- The index lists enough of the counterparts of `b` to lead back to `a`. -/
def Retraced (s : Store) (a b : ReleaseLink) : AmbiguityPolicy → Prop
  | .strict => ¬ s.Hides a ∧
    ∀ c, s.Counterpart b c → s.Hides c → ∃ d, s.Shows b d ∧ d ≠ a
  | .firstByName => ∃ d, s.Shows b d ∧ d.metadata.name ≤ a.metadata.name

theorem retraced_of_shown {s : Store} {a b : ReleaseLink} (ha : s.Counterpart b a)
    (hshown : ∀ c, s.Counterpart b c → ¬ s.Hides c) (policy : AmbiguityPolicy) :
    Retraced s a b policy := by
  cases policy with
  | strict => exact ⟨hshown a ha, fun c hc hhidden => absurd hhidden (hshown c hc)⟩
  | firstByName => exact ⟨a, ⟨ha, hshown a ha⟩, le_rfl⟩

/-- A counterpart that is found is stored and leads back if, and only if, the index lists enough of
its own counterparts; it does if it lists them all. -/
theorem lookup_mirrored {indexes : FieldIndexes} {requests : List Request}
    (hkinds : ∀ q ∈ requests, '/' ∉ q.call.kind.toList)
    (hindex : indexes.contains ReleaseLink.kind ReleaseLink.targetField)
    (hreadable : (after indexes requests).LinksReadable) {policy : AmbiguityPolicy}
    {a b : ReleaseLink} (ha : (after indexes requests).Has a)
    (hfound : (findTarget policy a).on (after indexes requests) = .ok b) :
    (after indexes requests).Has b ∧
    (Mirrored policy ((after indexes requests).Counterpart b) a
        ((findTarget policy b).on (after indexes requests)) ↔
      Retraced (after indexes requests) a b policy) ∧
    ((∀ c, (after indexes requests).Counterpart b c → ¬ (after indexes requests).Hides c) →
      Mirrored policy ((after indexes requests).Counterpart b) a
        ((findTarget policy b).on (after indexes requests))) := by
  have hs := (reachable_after indexes requests).sound
  obtain ⟨hb, hpairs⟩ := has_of_findTarget hs hfound
  have hback : (after indexes requests).Counterpart b a :=
    ⟨ha, (ReleaseLink.pairsWith_comm a b).symm.trans hpairs⟩
  have hselects := selects_findTarget hkinds hindex policy (hreadable.not_garbles b)
  have hmirror : Mirrored policy ((after indexes requests).Counterpart b) a
      ((findTarget policy b).on (after indexes requests)) ↔
      Retraced (after indexes requests) a b policy := by
    cases policy with
    | strict =>
        rw [hselects.mirrored_strict_iff (fun c hc => hc.1) (namesApart_counterpart hs b) hback]
        refine and_congr ⟨fun h => h.2, fun h => ⟨hback, h⟩⟩ ?_
        exact forall₂_congr fun c hc => imp_congr_left hc.not_shows_iff
    | firstByName =>
        refine hselects.mirrored_firstByName_iff fun c hc => ?_
        rw [workspace_of_pairsWith hc.1.2, workspace_of_pairsWith hback.2]
  exact ⟨hb, hmirror, fun hshown => hmirror.mpr (retraced_of_shown hback hshown policy)⟩

/-- The spec of the record is written as an array. -/
def listsSpec (stored : StoredRecord) : Bool :=
  (stored.object.get? "spec").any fun spec => spec matches .arr _

theorem not_hides_of_slots {s : Store} (h : ∀ p ∈ s.slots, ¬ listsSpec p.2) (c : ReleaseLink) :
    ¬ s.Hides c := by
  rintro ⟨x, stored, items, hget, -, hitems⟩
  apply h _ (Assoc.mem_of_get? hget)
  rw [listsSpec, hitems]
  rfl

/-- Two links on one counterpart, and a link that is its own. -/
def origins : List Request := [
  requestFor "1" (ReleaseLink.new ⟨"a", "k"⟩ "b" "app" none),
  requestFor "2" (ReleaseLink.new ⟨"a", "l"⟩ "b" "app" none),
  requestFor "3" (ReleaseLink.new ⟨"b", "m"⟩ "a" "app" none),
  requestFor "4" (ReleaseLink.new ⟨"a", "o"⟩ "a" "own" none)]

theorem lookup_mirrored_origins :
    (∀ q ∈ origins, '/' ∉ q.call.kind.toList) ∧
    indexes.contains ReleaseLink.kind ReleaseLink.targetField ∧
    (after indexes origins).LinksReadable ∧
    ∀ key ∈ [(⟨"a", "l"⟩ : RecordKey), ⟨"a", "o"⟩], ∃ a b,
      (after indexes origins).read? ReleaseLink key = some a ∧
      (findTarget .strict a).on (after indexes origins) = .ok b ∧
      Mirrored .strict ((after indexes origins).Counterpart b) a
        ((findTarget .strict b).on (after indexes origins)) := by
  have hkinds : ∀ q ∈ origins, '/' ∉ q.call.kind.toList := by decide
  have hindex : indexes.contains ReleaseLink.kind ReleaseLink.targetField := by decide
  have hreadable : (after indexes origins).LinksReadable := by decide +kernel
  have hlisted : ∀ p ∈ (after indexes origins).slots, ¬ listsSpec p.2 := by decide +kernel
  have hlinks : ∀ key ∈ [(⟨"a", "l"⟩ : RecordKey), ⟨"a", "o"⟩],
      ((after indexes origins).read? ReleaseLink key).any fun a =>
        ((findTarget .strict a).on (after indexes origins)).toOption.isSome := by
    decide +kernel
  refine ⟨hkinds, hindex, hreadable, fun key hkey => ?_⟩
  obtain ⟨a, hread, hfound⟩ := (Option.any_eq_true _ _).mp (hlinks key hkey)
  obtain ⟨b, hb⟩ := Option.isSome_iff_exists.mp hfound
  have hfound := eq_ok_of_toOption hb
  obtain ⟨-, -, hmirror⟩ := lookup_mirrored hkinds hindex hreadable (has_of_read? hread) hfound
  exact ⟨a, b, hread, hfound, hmirror fun c _ => not_hides_of_slots hlisted c⟩

/-- The link with an array for a spec finds its counterpart, which finds nothing. -/
theorem one_way :
    (∀ q ∈ unseen, '/' ∉ q.call.kind.toList) ∧
    indexes.contains ReleaseLink.kind ReleaseLink.targetField ∧
    (after indexes unseen).LinksReadable ∧
    ∀ policy, ∃ a b, (after indexes unseen).read? ReleaseLink ⟨"b", "n"⟩ = some a ∧
      (findTarget policy a).on (after indexes unseen) = .ok b ∧
      (∃ target workspace application, (findTarget policy b).on (after indexes unseen) =
        .error (.noMatchingTarget target workspace application)) ∧
      ¬ Mirrored policy ((after indexes unseen).Counterpart b) a
        ((findTarget policy b).on (after indexes unseen)) := by
  refine ⟨by decide, by decide, by decide +kernel, fun policy => ?_⟩
  have hways : ((after indexes unseen).read? ReleaseLink ⟨"b", "n"⟩).any fun a =>
      ((findTarget policy a).on (after indexes unseen)).toOption.any fun b =>
        isNothing ((findTarget policy b).on (after indexes unseen)) := by
    cases policy <;> decide +kernel
  obtain ⟨a, hread, hways⟩ := (Option.any_eq_true _ _).mp hways
  obtain ⟨b, hfound, hnothing⟩ := (Option.any_eq_true _ _).mp hways
  have hnothing := exists_of_isNothing hnothing
  refine ⟨a, b, hread, eq_ok_of_toOption hfound, hnothing, fun hmirror => ?_⟩
  obtain ⟨target, workspace, application, hresult⟩ := hnothing
  exact hmirror.found target workspace application hresult

end Chain

end ReleaseControl
