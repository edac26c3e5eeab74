import ReleaseControl.Proofs.Reconcile.Finding
import ReleaseControl.Proofs.Reconcile.Runs

/-! # Attempts side by side

An attempt writes to the slot of its Release and to slots of runs with the name of the Release
(`Owns`), and of what others write to it reads nothing. So attempts on Releases whose slots are
apart do not disturb each other: whatever the others do between its calls, an attempt proceeds as it
would on the store that it began with (`Proceeds.call`), and what it leaves in its slots is settled
by that store, but for uids, versions and times (`Leaves`). -/

namespace ReleaseControl

open Program Store

namespace Reconcile

variable {policy : AmbiguityPolicy} {s₀ s s' : Store} {k : RecordKey} {r : Release}

/-! ## Slots of an attempt -/

/-- The slots that an attempt on the Release may write to. -/
def Owns (k : RecordKey) (r : Release) (x : String) : Prop :=
  x = slot Release.kind k ∨
    ∃ workspace, x = slot PipelineRun.kind ⟨workspace, PipelineRun.nameFor r⟩

/-- Slots of runs are told apart by workspaces and names. -/
theorem slot_run_eq_iff {w w' : String} {r r' : Release} :
    slot PipelineRun.kind ⟨w, PipelineRun.nameFor r⟩ =
        slot PipelineRun.kind ⟨w', PipelineRun.nameFor r'⟩ ↔
      w = w' ∧ PipelineRun.nameFor r = PipelineRun.nameFor r' := by
  have hname := Name.slash_notMem (PipelineRun.check_nameFor r)
  have hname' := Name.slash_notMem (PipelineRun.check_nameFor r')
  rw [slot_eq_iff]
  constructor
  · intro htext
    have hkey : (⟨w, PipelineRun.nameFor r⟩ : RecordKey) = ⟨w', PipelineRun.nameFor r'⟩ :=
      RecordKey.text_inj hname hname' htext
    exact RecordKey.mk.inj hkey
  · rintro ⟨rfl, hsame⟩
    rw [hsame]

/-- The slots of the attempt hold the same in both stores. -/
def Spares (k : RecordKey) (r : Release) (s s' : Store) : Prop :=
  ∀ x, Owns k r x → Assoc.get? x s'.slots = Assoc.get? x s.slots

/-- Nothing was written but to the slots of the attempt. -/
structure Confined (k : RecordKey) (r : Release) (s s' : Store) : Prop where
  slots : ∀ x, ¬ Owns k r x → Assoc.get? x s'.slots = Assoc.get? x s.slots
  links : Agrees ReleaseLink.kind s s'
  strategies : Agrees ReleaseStrategy.kind s s'

namespace Spares

theorem refl (k : RecordKey) (r : Release) (s : Store) : Spares k r s s := fun _ _ => rfl

theorem trans (h : Spares k r s₀ s) (h' : Spares k r s s') : Spares k r s₀ s' :=
  fun x hx => (h' x hx).trans (h x hx)

theorem release (h : Spares k r s s') : s'.get? Release.kind k = s.get? Release.kind k :=
  h _ (.inl rfl)

theorem runs (h : Spares k r s s') (workspace : String) :
    s'.get? PipelineRun.kind ⟨workspace, PipelineRun.nameFor r⟩ =
      s.get? PipelineRun.kind ⟨workspace, PipelineRun.nameFor r⟩ :=
  h _ (.inr ⟨workspace, rfl⟩)

end Spares

namespace Confined

theorem refl (k : RecordKey) (r : Release) (s : Store) : Confined k r s s :=
  ⟨fun _ _ => rfl, .refl _ s, .refl _ s⟩

theorem spares (h : Confined k r s s') {j : RecordKey} {r' : Release}
    (hapart : ∀ x, Owns j r' x → ¬ Owns k r x) : Spares j r' s s' :=
  fun x hx => h.slots x (hapart x hx)

theorem withRun (k : RecordKey) (r : Release) (s : Store) (uid time : String) (chain : Chain) :
    Confined k r s (s.withRun uid time chain r) where
  slots x hx := by
    rw [get?_withRun, if_neg]
    rintro rfl
    exact hx (.inr ⟨chain.link.spec.target, rfl⟩)
  links := agrees_withRun slash_notMem_link (by decide) uid time chain r s
  strategies := agrees_withRun slash_notMem_strategy (by decide) uid time chain r s

theorem withStatus (hs : s.Sound) {stored : StoredRecord}
    (hget : s.get? Release.kind k = some stored) (hr : stored.typed = .ok r)
    (status : ReleaseStatus) : Confined k r s (s.withStatus r status) where
  slots x hx := by
    rw [hs.get?_withStatus hget hr, if_neg]
    rintro rfl
    exact hx (.inl rfl)
  links := agrees_withStatus slash_notMem_link (by decide) s r status
  strategies := agrees_withStatus slash_notMem_strategy (by decide) s r status

end Confined

/-! ## What an attempt leaves -/

/-- The runs with the name of the Release: those that were there, and one more if that was
found. -/
inductive RunsLeft (s₀ s : Store) (r : Release) : Finding → Prop where
  | kept {v : Except ReconcileError RecordKey}
      (h : ∀ workspace, s.get? PipelineRun.kind ⟨workspace, PipelineRun.nameFor r⟩ =
        s₀.get? PipelineRun.kind ⟨workspace, PipelineRun.nameFor r⟩) : RunsLeft s₀ s r (.kept v)
  | created {chain : Chain} (uid time version : String)
      (h : ∀ workspace, s.get? PipelineRun.kind ⟨workspace, PipelineRun.nameFor r⟩ =
        if workspace = chain.link.spec.target then
          some (.created uid time version PipelineRun.kind (runFor chain r).toJson
            (runFor chain r).metadata)
        else s₀.get? PipelineRun.kind ⟨workspace, PipelineRun.nameFor r⟩) :
      RunsLeft s₀ s r (.created chain)

/-- What is in the slots of the attempt when it is through. -/
inductive Leaves (f : Finding) (s₀ s : Store) (k : RecordKey) (r : Release) : Prop where
  | untouched (hfinished : r.isFinished = true) (h : Spares k r s₀ s) : Leaves f s₀ s k r
  | reported {stored : StoredRecord} (now version : String) (hopen : r.isFinished = false)
      (hstored : s₀.get? Release.kind k = some stored)
      (hwritten : s.get? Release.kind k =
        some (stored.withStatus version r (reported now r (f.verdict r))))
      (hruns : RunsLeft s₀ s r f) : Leaves f s₀ s k r

variable {f : Finding}

theorem RunsLeft.congr (h : RunsLeft s₀ s r f)
    (hruns : ∀ workspace, s'.get? PipelineRun.kind ⟨workspace, PipelineRun.nameFor r⟩ =
      s.get? PipelineRun.kind ⟨workspace, PipelineRun.nameFor r⟩) : RunsLeft s₀ s' r f := by
  cases h with
  | kept h => exact .kept fun workspace => (hruns workspace).trans (h workspace)
  | created uid time version h =>
      exact .created uid time version fun workspace => (hruns workspace).trans (h workspace)

theorem Leaves.spared (h : Leaves f s₀ s k r) (hspares : Spares k r s s') :
    Leaves f s₀ s' k r := by
  cases h with
  | untouched hfinished h => exact .untouched hfinished (h.trans hspares)
  | reported now version hopen hstored hwritten hruns =>
      exact .reported now version hopen hstored (hspares.release.trans hwritten)
        (hruns.congr hspares.runs)

/-! ## How an attempt proceeds -/

/-- What is left of an attempt that takes at most so many calls more; `s₀` is the store it began
with. -/
inductive Proceeds (f : Finding) (s₀ s : Store) (k : RecordKey) (r : Release) :
    Nat → Program (Except ReconcileError Unit) → Prop where
  | unread {n : Nat} {policy : AmbiguityPolicy} (now : String) (h : Spares k r s₀ s)
      (hp : Judges s₀ r f n (verdict policy r)) :
      Proceeds f s₀ s k r (n + 2) (attempt policy now k)
  | judging {n : Nat} {p : Program (Except ReconcileError RecordKey)} (now : String)
      (hopen : r.isFinished = false) (h : Spares k r s₀ s) (hp : Judges s₀ r f n p) :
      Proceeds f s₀ s k r (n + 1) (p.bind (report now r))
  | created {chain : Chain} (now : String) (hopen : r.isFinished = false)
      (hrelease : s.get? Release.kind k = s₀.get? Release.kind k)
      (hruns : RunsLeft s₀ s r (.created chain)) (hf : f = .created chain) :
      Proceeds f s₀ s k r 1 (report now r (.ok (runKey chain r)))
  | through (h : Leaves f s₀ s k r) : Proceeds f s₀ s k r 0 (.done (.ok ()))

theorem Proceeds.spared {n : Nat} {rest : Program (Except ReconcileError Unit)}
    (h : Proceeds f s₀ s k r n rest) (hspares : Spares k r s s') :
    Proceeds f s₀ s' k r n rest := by
  cases h with
  | unread now h hp => exact .unread now (h.trans hspares) hp
  | judging now hopen h hp => exact .judging now hopen (h.trans hspares) hp
  | created now hopen hrelease hruns hf =>
      exact .created now hopen (hspares.release.trans hrelease) (hruns.congr hspares.runs) hf
  | through h => exact .through (h.spared hspares)

/-- It ends well, with its slots as they are to be left. -/
theorem Proceeds.of_done {n : Nat} {result : Except ReconcileError Unit}
    (h : Proceeds f s₀ s k r n (.done result)) : result = .ok () ∧ Leaves f s₀ s k r := by
  generalize hrest : Program.done result = rest at h
  -- before the last stage there is a call to make
  have hreport {now : String} (hopen : r.isFinished = false)
      {v : Except ReconcileError RecordKey} (hdone : .done result = report now r v) : False := by
    rw [report_call hopen] at hdone
    cases hdone
  cases h with
  | unread now =>
      obtain ⟨next, hattempt, -⟩ := attempt_call _ now k
      cases hrest.trans hattempt
  | judging now hopen h hp =>
      cases hp with
      | through => exact (hreport hopen hrest).elim
      | consults | refused | creates => cases hrest
  | created now hopen => exact (hreport hopen hrest).elim
  | through h =>
      cases hrest
      exact ⟨rfl, h⟩

/-! ## Its next call -/

section Call

variable {c : StoreCall} {next : Except StoreError c.Reply → Program (Except ReconcileError Unit)}
  {n : Nat}

theorem conclusion_of_settled {v : Except ReconcileError RecordKey} (hv : IsSettled v)
    (written : Release) : conclusion v (.ok written) = .ok () := by
  cases v with
  | ok run => rfl
  | error e => simp [conclusion, hv e rfl, Except.map]

/-- The report is written. -/
theorem proceeds_report {now : String} (hs : s.Sound) (hr : s₀.read? Release k = some r)
    (hopen : r.isFinished = false) (hrelease : s.get? Release.kind k = s₀.get? Release.kind k)
    (hruns : RunsLeft s₀ s r f) (hsettled : IsSettled (f.verdict r))
    (hcall : .call c next = report now r (f.verdict r)) (uid time : String) :
    Confined k r s (s.perform uid time c).2 ∧
      Proceeds f s₀ (s.perform uid time c).2 k r 0 (next (s.perform uid time c).1) := by
  obtain ⟨stored, hstored, htyped⟩ := read?_eq_some.mp hr
  have hget : s.get? Release.kind k = some stored := hrelease.trans hstored
  rw [report_call hopen] at hcall
  cases hcall
  generalize hstatus : reported now r (f.verdict r) = status
  have hupdate := hs.updateStatus_release hget htyped status
  have hread := (hs.accounted_release hget htyped).typed_withStatus htyped
    (toString s.nextVersion) status
  refine ⟨.withStatus hs hget htyped status, ?_⟩
  have hnext : conclusion (f.verdict r)
      ((s.updateStatus Release.kind { r with status }.toJson).1.bind StoredRecord.typed) =
        .ok () := by
    rw [hupdate]
    exact (congrArg (conclusion _) hread).trans (conclusion_of_settled hsettled _)
  show Proceeds f s₀ (s.withStatus r status) k r 0 (.done (conclusion (f.verdict r)
    ((s.updateStatus Release.kind { r with status }.toJson).1.bind StoredRecord.typed)))
  rw [hnext]
  refine .through (.reported now (toString s.nextVersion) hopen hstored ?_ ?_)
  · show Assoc.get? _ (s.withStatus r status).slots = _
    rw [hs.get?_withStatus hget htyped, if_pos rfl, hstatus]
  · refine hruns.congr fun workspace => ?_
    exact (agrees_withStatus slash_notMem_run (by decide) s r status).get? _

/-- The run is created. -/
theorem runsLeft_withRun (h : Spares k r s₀ s) (uid time : String) (chain : Chain) :
    RunsLeft s₀ (s.withRun uid time chain r) r (.created chain) := by
  refine .created uid time (toString s.nextVersion) ?_
  intro workspace
  have hget : (s.withRun uid time chain r).get? PipelineRun.kind
      ⟨workspace, PipelineRun.nameFor r⟩ = _ := get?_withRun uid time chain r s _
  have hslot : slot PipelineRun.kind ⟨workspace, PipelineRun.nameFor r⟩ = runSlot chain r ↔
      workspace = chain.link.spec.target := slot_run_eq_iff.trans (and_iff_left rfl)
  rw [hget, if_congr hslot rfl rfl]
  by_cases hspace : workspace = chain.link.spec.target
  · rw [if_pos hspace, if_pos hspace, runRecord]
  · rw [if_neg hspace, if_neg hspace]
    exact h.runs workspace

/-- A call of the attempt writes to its own slots only, and the attempt proceeds. -/
theorem Proceeds.call (h : Proceeds f s₀ s k r n (.call c next)) (hs : s.Sound)
    (hr : s₀.read? Release k = some r) (hlinks : Agrees ReleaseLink.kind s₀ s)
    (hstrategies : Agrees ReleaseStrategy.kind s₀ s) (uid time : String) :
    Confined k r s (s.perform uid time c).2 ∧
      ∃ m < n, Proceeds f s₀ (s.perform uid time c).2 k r m (next (s.perform uid time c).1) := by
  generalize hrest : Program.call c next = rest at h
  cases h with
  | through => cases hrest
  | @unread n policy now h hp =>
      obtain ⟨next', hattempt, -, -, -, htyped⟩ := attempt_call policy now k
      cases hrest.trans hattempt
      obtain ⟨stored, hstored, hread⟩ := read?_eq_some.mp hr
      have hget : s.get? Release.kind k = some stored := h.release.trans hstored
      refine ⟨.refl k r s, ?_⟩
      show ∃ m < n + 2, Proceeds f s₀ s k r m (next' (.ok (s.get? Release.kind k)))
      rw [hget, htyped stored r hread]
      cases hopen : r.isFinished with
      | true => exact ⟨0, by omega, .through (.untouched hopen h)⟩
      | false => exact ⟨n + 1, by omega, .judging now hopen h hp⟩
  | created now hopen hrelease hruns hf =>
      subst hf
      obtain ⟨hconfined, hproceeds⟩ :=
        proceeds_report hs hr hopen hrelease hruns (isSettled_ok _) hrest uid time
      exact ⟨hconfined, 0, by omega, hproceeds⟩
  | judging now hopen h hp =>
      have hresembles : Resembles r s₀ s := ⟨hlinks, hstrategies, h.runs⟩
      cases hp with
      | through n hv =>
          obtain ⟨hconfined, hproceeds⟩ :=
            proceeds_report hs hr hopen h.release (.kept h.runs) hv hrest uid time
          exact ⟨hconfined, 0, by omega, hproceeds⟩
      | @consults _ n c next' hc hnext =>
          cases hrest
          rw [perform_snd_of_isRead hc.isRead, hresembles.answer hc "" "" uid time]
          exact ⟨.refl k r s, n + 1, by omega, .judging now hopen h hnext⟩
      | @refused _ n chain e next' hnew hnext =>
          cases hrest
          have hcreate :
              s.create uid time PipelineRun.kind (runFor chain r).toJson = (.error e, s) :=
            create_of_error ((hresembles.checkNew_run chain).trans hnew)
          refine ⟨?_, n + 1, by omega, ?_⟩
          · show Confined k r s (s.create uid time PipelineRun.kind (runFor chain r).toJson).2
            rw [hcreate]
            exact .refl k r s
          · show Proceeds f s₀ (s.create uid time PipelineRun.kind (runFor chain r).toJson).2 k r _
              ((next' (s.create uid time PipelineRun.kind (runFor chain r).toJson).1).bind _)
            rw [hcreate]
            exact .judging now hopen h hnext
      | @creates n chain m next' hnew hnext =>
          cases hrest
          have hnew' := (hresembles.checkNew_run chain).trans hnew
          obtain rfl := (Store.checkNew_run.mp hnew').1
          have hperform : s.perform uid time (.create PipelineRun.kind (runFor chain r).toJson) =
              (.ok (s.runRecord uid time chain r), s.withRun uid time chain r) :=
            create_of_checkNew hnew'
          have hdone := hnext _ _
            (StoredRecord.typed_created_run uid time (toString s.nextVersion) (runFor chain r))
          rw [hperform]
          refine ⟨.withRun k r s uid time chain, 1, by omega, ?_⟩
          have hrelease : (s.withRun uid time chain r).get? Release.kind k =
              s₀.get? Release.kind k :=
            ((agrees_withRun slash_notMem_release (by decide) uid time chain r s).get? k).trans
              h.release
          show Proceeds _ s₀ (s.withRun uid time chain r) k r 1
            ((next' (.ok (s.runRecord uid time chain r))).bind (report now r))
          rw [show next' (.ok (s.runRecord uid time chain r)) = _ from hdone]
          exact .created now hopen hrelease (runsLeft_withRun h uid time chain) rfl

end Call

end Reconcile

end ReleaseControl
