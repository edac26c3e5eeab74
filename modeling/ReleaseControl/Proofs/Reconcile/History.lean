import Mathlib.Data.List.Induction
import ReleaseControl.Proofs.Reconcile.Runs

/-! # Histories

A history is a list of acts on a store that was empty: calls of clients, who create, update and
delete Releases, links and strategies, and attempts, which alone write runs and the statuses of
Releases. Uids are drawn fresh. What carries every history is the lineage of its records
(`Lineage`): no two records share a uid, a record keeps slot and key for life, and a run is stored
under the name that belongs to the Release whose uid it carries, be that Release still there or
not. -/

namespace ReleaseControl

open Store

/-! ## Acts -/

/-- The kinds of records that clients write. -/
def clientKinds : List String := [Release.kind, ReleaseLink.kind, ReleaseStrategy.kind]

/-- Calls that clients make: they read, and they write the records of their kinds, but no status of
a Release. -/
def StoreCall.IsEdit : StoreCall → Prop
  | .create kind _ | .update kind _ | .delete kind _ => kind ∈ clientKinds
  | .updateStatus kind _ => kind ∈ clientKinds ∧ kind ≠ Release.kind
  | .get .. | .list .. => True

theorem clientKinds_spec {kind : String} (h : kind ∈ clientKinds) :
    '/' ∉ kind.toList ∧ kind ≠ PipelineRun.kind := by
  simp only [clientKinds, List.mem_cons, List.not_mem_nil, or_false] at h
  rcases h with rfl | rfl | rfl
  · exact ⟨slash_notMem_release, by decide⟩
  · exact ⟨slash_notMem_link, by decide⟩
  · exact ⟨slash_notMem_strategy, by decide⟩

instance : (c : StoreCall) → Decidable c.IsEdit
  | .create kind _ | .update kind _ | .delete kind _ =>
    inferInstanceAs (Decidable (kind ∈ clientKinds))
  | .updateStatus kind _ =>
    inferInstanceAs (Decidable (kind ∈ clientKinds ∧ kind ≠ Release.kind))
  | .get .. | .list .. => isTrue trivial

/-- A call of a client reads, or it is about one of the kinds that clients write. -/
theorem StoreCall.IsEdit.cases {c : StoreCall} (h : c.IsEdit) :
    c.isRead ∨ c.kind ∈ clientKinds := by
  cases c with
  | get | list => exact .inl rfl
  | updateStatus => exact .inr h.1
  | create | update | delete => exact .inr h

namespace Reconcile

/-- What happens to a store: a client makes a call, or an attempt is made. -/
inductive Act where
  | call (uid now : String) (c : StoreCall)
  | attempt (a : Attempt)

namespace Act

/-- The uid that a creation would use. -/
def uid : Act → String
  | call uid _ _ => uid
  | attempt a => a.uid

def apply (s : Store) : Act → Store
  | call uid now c => (s.perform uid now c).2
  | attempt a => (a.run s).2

def Allowed : Act → Prop
  | call _ _ c => c.IsEdit
  | attempt _ => True

instance : (act : Act) → Decidable act.Allowed
  | call _ _ c => inferInstanceAs (Decidable c.IsEdit)
  | attempt _ => isTrue trivial

end Act

/-- The store that a list of acts leads to. -/
def replay (acts : List Act) : Store := acts.foldl Act.apply (.empty Chain.indexes)

theorem replay_concat (acts : List Act) (act : Act) :
    replay (acts ++ [act]) = act.apply (replay acts) := by
  unfold replay
  rw [List.foldl_append]
  rfl

/-- Acts that clients and the controller can make, with fresh uids. -/
structure History (acts : List Act) : Prop where
  allowed : ∀ act ∈ acts, act.Allowed
  uids : (acts.map Act.uid).Nodup

theorem History.initial {before acts : List Act} (h : History acts) (hbefore : before <+: acts) :
    History before where
  allowed act hact := h.allowed act (hbefore.subset hact)
  uids := h.uids.sublist (hbefore.sublist.map Act.uid)

end Reconcile

/-! ## What becomes of a record -/

namespace Store

variable {uid now : String} {s s' : Store} {c : StoreCall} {x : String} {q : StoredRecord}

/-- A record was there before, with its uid and key, or was created under the new uid. -/
theorem Effect.heritage (h : Effect uid now s c s') (hs : s.Sound)
    (hx : Assoc.get? x s'.slots = some q) :
    (∃ q₀ m₀ m, Assoc.get? x s.slots = some q₀ ∧ q.uid = q₀.uid ∧
        q₀.object.recordMetadata = .ok m₀ ∧ q.object.recordMetadata = .ok m ∧ m.key = m₀.key) ∨
      ∃ kind object m, c = .create kind object ∧ s.checkNew kind object = .ok m ∧
        x = slot kind m.key ∧ q.uid = uid := by
  have revised (part : Part) {kind : String} {object : Json} {existing : StoredRecord}
      {incoming kept : Metadata} (hrevise : s.revise kind object = .ok (existing, incoming))
      (hkept : existing.object.recordMetadata = .ok kept) :
      ∃ q₀ m₀ m, Assoc.get? (slot kind incoming.key) s.slots = some q₀ ∧
        existing.uid = q₀.uid ∧ q₀.object.recordMetadata = .ok m₀ ∧
        (existing.revised part (toString s.nextVersion) kind incoming kept
          object).object.recordMetadata = .ok m ∧ m.key = m₀.key := by
    obtain ⟨-, -, hget, -⟩ := revise_eq_ok.mp hrevise
    obtain ⟨kind₀, m, hacc⟩ := hs.accounted hget
    obtain rfl : m = kept := Except.ok.inj (hacc.objectMetadata.symm.trans hkept)
    exact ⟨existing, m, _, hget, rfl, hkept,
      (accounted_revised hacc part _ rfl object).objectMetadata, rfl⟩
  rcases h.get?_cases hx with hold | hnew
  · obtain ⟨kind, m, hacc⟩ := hs.accounted hold
    exact .inl ⟨q, m, m, hold, rfl, hacc.objectMetadata, hacc.objectMetadata, rfl⟩
  · cases hnew with
    | created hnew => exact .inr ⟨_, _, _, rfl, hnew, rfl, rfl⟩
    | updated hrevise hkept => exact .inl (revised .spec hrevise hkept)
    | statusUpdated hrevise hkept => exact .inl (revised .status hrevise hkept)

end Store

namespace PipelineRun

/-- The name of a run depends on key and uid of the Release only. -/
theorem nameFor_congr {r r' : Release} (hkey : r'.key = r.key)
    (huid : r'.metadata.uid = r.metadata.uid) : nameFor r' = nameFor r := by
  rw [Release.key, Release.key, Metadata.key, Metadata.key, RecordKey.mk.injEq] at hkey
  rw [nameFor, nameFor, hkey.1, hkey.2, huid]

end PipelineRun

namespace Reconcile

/-! ## Lineage -/

/-- The Release that the runs with its uid were made for, whoever bears the uid now. -/
structure Ancestor (s : Store) (u : String) (r : Release) : Prop where
  uid : r.metadata.uid = some u
  key : ∀ {x : String} {q : StoredRecord} {m : Metadata}, Assoc.get? x s.slots = some q →
    q.uid = u → q.object.recordMetadata = .ok m → m.key = r.key

/-- A creation takes a uid that was not drawn before. -/
def Lineage.Fresh (drawn drawn' : List String) (uid : String) (c : StoreCall) : Prop :=
  drawn ⊆ drawn' ∧ ∀ kind object, c = .create kind object → uid ∉ drawn ∧ uid ∈ drawn'

/-- The uids of the records were drawn, each for one record. -/
structure Identified (drawn : List String) (s : Store) : Prop where
  sound : s.Sound
  uids : ∀ {x : String} {q : StoredRecord}, Assoc.get? x s.slots = some q → q.uid ∈ drawn
  distinct : ∀ {x y : String} {q p : StoredRecord}, Assoc.get? x s.slots = some q →
    Assoc.get? y s.slots = some p → q.uid = p.uid → x = y

theorem identified_empty (indexes : FieldIndexes) : Identified [] (.empty indexes) where
  sound := sound_empty indexes
  uids h := by cases h
  distinct h := by cases h

theorem Identified.mono {drawn drawn' : List String} {s : Store} (h : Identified drawn s)
    (hsub : drawn ⊆ drawn') : Identified drawn' s where
  sound := h.sound
  uids hx := hsub (h.uids hx)
  distinct := h.distinct

theorem Identified.effect {drawn drawn' : List String} {s s' : Store} {uid now : String}
    {c : StoreCall} (h : Identified drawn s) (heffect : Effect uid now s c s')
    (hfresh : Lineage.Fresh drawn drawn' uid c) : Identified drawn' s' where
  sound := heffect.sound h.sound
  uids hx := by
    rcases heffect.heritage h.sound hx with ⟨q₀, -, -, hold, huid, -⟩ |
      ⟨kind, object, -, hc, -, -, huid⟩
    · rw [huid]
      exact hfresh.1 (h.uids hold)
    · rw [huid]
      exact (hfresh.2 kind object hc).2
  distinct {x y q p} hx hy huid := by
    -- what was stored before has a uid that was drawn, what is created has a fresh one
    have clash {x : String} {q₀ : StoredRecord} (hold : Assoc.get? x s.slots = some q₀)
        {kind : String} {object : Json} (hc : c = .create kind object) : q₀.uid ≠ uid := by
      rintro rfl
      exact (hfresh.2 kind object hc).1 (h.uids hold)
    rcases heffect.heritage h.sound hx with ⟨q₀, -, -, hq₀, hq, -⟩ |
      ⟨kind, object, m, hc, hnew, rfl, hq⟩ <;>
    rcases heffect.heritage h.sound hy with ⟨p₀, -, -, hp₀, hp, -⟩ |
      ⟨kind', object', m', hc', hnew', rfl, hp⟩
    · exact h.distinct hq₀ hp₀ (hq.symm.trans (huid.trans hp))
    · exact absurd (hq.symm.trans (huid.trans hp)) (clash hq₀ hc')
    · exact absurd (hp.symm.trans (huid.symm.trans hq)) (clash hp₀ hc)
    · cases hc.symm.trans hc'
      rw [Except.ok.inj (hnew.symm.trans hnew')]

/-- The records descend from those that were created with the uids drawn so far. -/
structure Lineage (drawn : List String) (s : Store) : Prop where
  sound : s.Sound
  uids : ∀ {x : String} {q : StoredRecord}, Assoc.get? x s.slots = some q → q.uid ∈ drawn
  distinct : ∀ {x y : String} {q p : StoredRecord}, Assoc.get? x s.slots = some q →
    Assoc.get? y s.slots = some p → q.uid = p.uid → x = y
  runs : ∀ {u x : String} {q : StoredRecord}, s.Carried u x q → u ∈ drawn ∧
    ∃ w r, x = slot PipelineRun.kind ⟨w, PipelineRun.nameFor r⟩ ∧ Ancestor s u r

theorem lineage_empty (indexes : FieldIndexes) : Lineage [] (.empty indexes) where
  sound := sound_empty indexes
  uids h := by cases h
  distinct h := by cases h
  runs h := by cases h.stored

namespace Lineage

variable {drawn drawn' : List String} {s s' : Store} {uid now : String} {c : StoreCall}

theorem identified (h : Lineage drawn s) : Identified drawn s where
  sound := h.sound
  uids := h.uids
  distinct := h.distinct

theorem mono (h : Lineage drawn s) (hsub : drawn ⊆ drawn') : Lineage drawn' s where
  sound := h.sound
  uids hx := hsub (h.uids hx)
  distinct := h.distinct
  runs hq := ⟨hsub (h.runs hq).1, (h.runs hq).2⟩

/-- Who bore a uid keeps its key. -/
theorem ancestor_of_effect (h : Lineage drawn s) (heffect : Effect uid now s c s')
    (hfresh : Fresh drawn drawn' uid c) {u : String} (hu : u ∈ drawn) {r : Release}
    (hr : Ancestor s u r) : Ancestor s' u r where
  uid := hr.uid
  key {x q m} hx hq hm := by
    rcases heffect.heritage h.sound hx with ⟨q₀, m₀, m', hold, huid, hm₀, hm', hkey⟩ |
      ⟨kind, object, -, hc, -, -, huid⟩
    · cases hm.symm.trans hm'
      rw [hkey]
      exact hr.key hold (huid.symm.trans hq) hm₀
    · -- a new record cannot bear a uid that was drawn
      exact absurd (hq.symm.trans huid ▸ hu) (hfresh.2 kind object hc).1

/-- A call on records that are no runs. -/
theorem effect (h : Lineage drawn s) (heffect : Effect uid now s c s')
    (hfresh : Fresh drawn drawn' uid c) (hslash : '/' ∉ c.kind.toList)
    (hkind : c.kind ≠ PipelineRun.kind) : Lineage drawn' s' where
  sound := heffect.sound h.sound
  uids := (h.identified.effect heffect hfresh).uids
  distinct := (h.identified.effect heffect hfresh).distinct
  runs hq := by
    have hagrees := heffect.agrees slash_notMem_run hslash hkind
    obtain ⟨hu, w, r, hx, hr⟩ := h.runs (hq.of_agrees (heffect.sound h.sound) hagrees)
    exact ⟨hfresh.1 hu, w, r, hx, h.ancestor_of_effect heffect hfresh hu hr⟩

theorem withStatus (h : Lineage drawn s) (r : Release) (status : ReleaseStatus) :
    Lineage drawn (s.withStatus r status) :=
  h.effect (effect_withStatus "" "" s r status) ⟨List.Subset.refl _, fun _ _ hc => by cases hc⟩
    slash_notMem_release (show Release.kind ≠ PipelineRun.kind by decide)

/-- A Release that is stored is the one its uid stands for. -/
theorem ancestor_of_read (h : Lineage drawn s) {key : RecordKey} {r : Release} {u : String}
    (hr : s.read? Release key = some r) (hu : r.metadata.uid = some u) : Ancestor s u r where
  uid := hu
  key {x q m} hx hq hm := by
    obtain ⟨stored, hget, htyped⟩ := read?_eq_some.mp hr
    have hacc := h.sound.accounted_release hget htyped
    have huid : stored.uid = u := Option.some.inj (hacc.uid.symm.trans hu)
    obtain rfl := h.distinct hx hget (hq.trans huid.symm)
    cases hx.symm.trans hget
    rw [Except.ok.inj (hm.symm.trans hacc.objectMetadata)]
    rfl

/-- The runs of a Release that is stored go by the name that belongs to it. -/
theorem exists_workspace (h : Lineage drawn s) {key : RecordKey} {r : Release} {u x : String}
    {q : StoredRecord} (hr : s.read? Release key = some r) (hu : r.metadata.uid = some u)
    (hq : s.Carried u x q) : ∃ w, x = slot PipelineRun.kind ⟨w, PipelineRun.nameFor r⟩ := by
  obtain ⟨-, w, r₀, rfl, hancestor⟩ := h.runs hq
  obtain ⟨stored, hget, htyped⟩ := read?_eq_some.mp hr
  have hacc := h.sound.accounted_release hget htyped
  have hkey : r.key = r₀.key :=
    hancestor.key hget (Option.some.inj (hacc.uid.symm.trans hu)) hacc.objectMetadata
  refine ⟨w, ?_⟩
  rw [PipelineRun.nameFor_congr hkey (hu.trans hancestor.uid.symm)]

theorem withRun (h : Lineage drawn s) {chain : Chain} {key : RecordKey} {r : Release}
    (hr : s.read? Release key = some r) (htarget : chain.link.spec.target ≠ "")
    (hfree : s.get? PipelineRun.kind (runKey chain r) = none) (huid : uid ∉ drawn) :
    Lineage (uid :: drawn) (s.withRun uid now chain r) := by
  have heffect := effect_withRun uid now htarget hfree
  have hfresh : Fresh drawn (uid :: drawn) uid
      (.create PipelineRun.kind (runFor chain r).toJson) :=
    ⟨List.subset_cons_self _ _, fun _ _ _ => ⟨huid, List.mem_cons_self⟩⟩
  have hidentified := h.identified.effect heffect hfresh
  refine ⟨hidentified.sound, hidentified.uids, hidentified.distinct, ?_⟩
  intro u x q hq
  rcases hq.cases_withRun with hold | ⟨rfl, rfl⟩
  · obtain ⟨hu, w, r₀, hx, hr₀⟩ := h.runs hold
    exact ⟨List.mem_cons_of_mem _ hu, w, r₀, hx, h.ancestor_of_effect heffect hfresh hu hr₀⟩
  · -- the new run carries the uid of the Release, which is stored and so was drawn
    obtain ⟨u', hu'⟩ := h.sound.exists_uid hr
    obtain rfl : u' = u := by
      have hlabel := ((accounted_runRecord uid now htarget hfree).carries_iff.mp hq.carries).2
      exact Option.some.inj ((PipelineRun.get?_labelsFor_uid hu').symm.trans hlabel)
    obtain ⟨stored, hget, htyped⟩ := read?_eq_some.mp hr
    have hdrawn : u' ∈ drawn := by
      have hacc := (h.sound.accounted_release hget htyped).uid
      rw [hu', Option.some.injEq] at hacc
      exact hacc ▸ h.uids hget
    exact ⟨List.mem_cons_of_mem _ hdrawn, chain.link.spec.target, r, rfl,
      h.ancestor_of_effect heffect hfresh hdrawn (h.ancestor_of_read hr hu')⟩

end Lineage

/-! ## One act -/

/-- An attempt writes nothing, writes a status, or creates a run first. -/
theorem Attempt.run_cases (a : Attempt) {s : Store} (hs : s.Sound) :
    (a.run s).2 = s ∨ (∃ r status, a.Finds s r ∧ (a.run s).2 = s.withStatus r status) ∨
      ∃ r chain, a.Launches s r chain := by
  have hafter := a.aftermath hs
  generalize a.run s = result at hafter ⊢
  obtain ⟨o, s'⟩ := result
  cases hafter with
  | interrupted | unreadable | idle => exact .inl rfl
  | retried hr => exact .inr (.inl ⟨_, _, hr, rfl⟩)
  | settled hr => exact .inr (.inl ⟨_, _, hr.toFinds, rfl⟩)
  | adopted hr => exact .inr (.inl ⟨_, _, hr.toFinds, rfl⟩)
  | launched hr => exact .inr (.inr ⟨_, _, hr⟩)
  | mislaid hr => exact .inr (.inr ⟨_, _, hr⟩)
  | triggered hr => exact .inr (.inr ⟨_, _, hr⟩)

namespace Lineage

variable {drawn : List String} {s : Store}

theorem attempt (h : Lineage drawn s) (a : Attempt) (huid : a.uid ∉ drawn) :
    Lineage (a.uid :: drawn) (a.run s).2 := by
  have hsub : drawn ⊆ a.uid :: drawn := List.subset_cons_self _ _
  rcases a.run_cases h.sound with hrun | ⟨r, status, -, hrun⟩ | ⟨r, chain, hr⟩
  · rw [hrun]
    exact h.mono hsub
  · rw [hrun]
    exact (h.withStatus r status).mono hsub
  · have hcreated : Lineage (a.uid :: drawn) (s.withRun a.uid a.now chain r) :=
      h.withRun hr.read hr.hasTarget hr.free huid
    rcases hr.run_snd h.sound with hrun | ⟨status, hrun⟩
    · rw [hrun]
      exact hcreated
    · rw [hrun]
      exact hcreated.withStatus r status

theorem step (h : Lineage drawn s) {act : Act} (hact : act.Allowed) (huid : act.uid ∉ drawn) :
    Lineage (act.uid :: drawn) (act.apply s) := by
  cases act with
  | attempt a => exact h.attempt a huid
  | call uid now c =>
      rcases StoreCall.IsEdit.cases hact with hread | hkind
      · have hsame : (s.perform uid now c).2 = s := perform_snd_of_isRead hread uid now s
        show Lineage (uid :: drawn) (s.perform uid now c).2
        rw [hsame]
        exact h.mono (List.subset_cons_self _ _)
      · obtain ⟨hslash, hne⟩ := clientKinds_spec hkind
        exact h.effect (perform_effect uid now s c) ⟨List.subset_cons_self _ _,
          fun _ _ _ => ⟨huid, List.mem_cons_self⟩⟩ hslash hne

end Lineage

/-! ## Whole histories -/

namespace History

variable {acts before after : List Act} {act : Act}

/-- What every history leads to. -/
theorem lineage (h : History acts) : Lineage (acts.map Act.uid) (replay acts) := by
  induction acts using List.reverseRecOn with
  | nil => exact lineage_empty _
  | append_singleton before act ih =>
      have hbefore := ih (h.initial (List.prefix_append _ _))
      have hallowed : act.Allowed := h.allowed act (List.mem_append_right _ List.mem_cons_self)
      have huids := h.uids
      rw [List.map_append, List.map_singleton, List.nodup_append] at huids
      have hfresh : act.uid ∉ before.map Act.uid :=
        fun hmem => huids.2.2 _ hmem _ List.mem_cons_self rfl
      rw [replay_concat]
      -- `step` adds the uid in front, the acts list it at the end
      refine (hbefore.step hallowed hfresh).mono ?_
      rw [List.map_append, List.map_singleton]
      exact List.cons_subset.mpr ⟨List.mem_append_right _ List.mem_cons_self,
        List.subset_append_left _ _⟩

/-- A property holds in every state of a history when each act of it keeps it. -/
theorem induct (h : History acts) {motive : Store → Prop}
    (empty : motive (.empty Chain.indexes))
    (step : ∀ before act after, acts = before ++ act :: after → History before → act.Allowed →
      motive (replay before) → motive (act.apply (replay before))) :
    ∀ before, before <+: acts → motive (replay before) := by
  intro before hbefore
  induction before using List.reverseRecOn with
  | nil => exact empty
  | append_singleton before act ih =>
      obtain ⟨after, hacts⟩ := hbefore
      rw [replay_concat]
      have hsplit : acts = before ++ act :: after := by
        rw [← hacts, List.append_assoc]
        rfl
      have hbefore : before <+: acts := ⟨act :: after, hsplit.symm⟩
      refine step before act after hsplit (h.initial hbefore) ?_ (ih hbefore)
      rw [hsplit] at h
      exact h.allowed act (List.mem_append_right _ List.mem_cons_self)

end History

/-! ## A stage

A Release with a complete chain into one other workspace, for histories that show what an attempt
can come upon. -/

/-- A client creates a record. -/
def Act.create (uid : String) {ρ : Type} [Record ρ] (r : ρ) : Act :=
  .call uid "" (.create (Record.kind ρ) (Record.toJson r))

/-- Two links that pair, the strategy of the second and the Release on the first. -/
def stage : List Act := [
  .create "1" (ReleaseLink.new ⟨"a", "l"⟩ "b" "app" none),
  .create "2" (ReleaseLink.new ⟨"b", "m"⟩ "a" "app" (some "s")),
  .create "3" (ReleaseStrategy.new ⟨"b", "s"⟩ "p" none none []),
  .create "4" (Release.new ⟨"a", "r"⟩ "l")]

/-- An attempt on the Release of the stage. -/
def Attempt.staged (uid : String) (script : List Fate) : Attempt :=
  ⟨.strict, ⟨"a", "r"⟩, "", uid, script⟩

/-- An attempt that creates the run and then fails to write the status. -/
def Attempt.halfDone (uid : String) : Attempt :=
  .staged uid (List.replicate 5 .answered ++ [.refused])

end Reconcile

end ReleaseControl
