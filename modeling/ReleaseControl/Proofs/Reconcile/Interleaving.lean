import ReleaseControl.Proofs.Reconcile.History
import ReleaseControl.Proofs.Service.Running

/-! # Attempts side by side

Any number of attempts are under way at once, also several on one key, and between two calls of one
of them the others and the clients make theirs (`Scene`). Any of their calls may fail, with whatever
error. An attempt goes by what it has read: the Release as it was, and the run that was created for
it or found. By the time it writes, the store may have moved on.

Two things keep what it writes in order. A status is written over the version that was read only
(`Snapshot`), so the Release is still the open one that the attempt has seen. And the run that the
status names is one that was stored for the Release at some time (`Vouches`, `Seen`). `Arises`
tells all that one move can make of the record of a Release; what is to be said of statuses in any
interleaving follows from it. -/

namespace ReleaseControl

open Program Store
open Service (answer called called_effect called_of_isRead)

/-! ## The status of a record -/

namespace StoredRecord

/-- The status of a record as it is read: a record without one has the empty status. -/
def readStatus? (q : StoredRecord) : Option ReleaseStatus :=
  match q.object.get? "status" with
  | none => some .empty
  | some v => (ReleaseStatus.decode v).toOption

/-- The text by which the status names a run. -/
def marker? (q : StoredRecord) : Option String := q.readStatus?.bind (·.pipelineRun)

variable {version kind : String} {object : Json} {existing : StoredRecord}

/-- What a client sends as the status of a new record is dropped. -/
theorem readStatus?_created (uid now : String) (m : Metadata) :
    (created uid now version kind object m).readStatus? = some .empty := by
  simp [readStatus?, created, Json.get?_set_ne]

/-- Writing the spec keeps the status. -/
theorem readStatus?_updated (incoming kept : Metadata) :
    (existing.revised .spec version kind incoming kept object).readStatus? =
      existing.readStatus? := by
  simp [readStatus?, revised, replacePart, Json.get?_set_ne]

theorem readStatus?_of_typed {x : String} {q : StoredRecord} {m : Metadata} {r : Release}
    (h : q.Accounted x Release.kind m) (hr : q.typed = .ok r) : q.readStatus? = some r.status := by
  have hdecode := ((typed_eq_ok h.objectKind).mp hr).2
  unfold readStatus?
  rcases (Release.members_of_decode (Json.isObject_of_recordMetadata h.objectMetadata)
    hdecode).2.2 with ⟨hnone, hempty⟩ | ⟨v, hv, hstatus⟩
  · rw [hnone, hempty]
  · rw [hv]
    exact congrArg Except.toOption hstatus

end StoredRecord

/-- A run that carries the uid is stored under the text. -/
def Store.HasRun (s : Store) (u text : String) : Prop :=
  ∃ run : PipelineRun, s.read? PipelineRun run.key = some run ∧ run.key.text = text ∧
    run.metadata.labels.get? PipelineRun.uidLabel = some u

/-- What is read at a key is the run under its text. -/
theorem Store.Sound.hasRun {s : Store} (hs : s.Sound) {key : RecordKey} {run : PipelineRun}
    {u : String} (hrun : s.read? PipelineRun key = some run) (howned : Trigger.isOwnedBy u run) :
    s.HasRun u key.text := by
  obtain ⟨stored, hget, htyped⟩ := read?_eq_some.mp hrun
  have hslot : slot PipelineRun.kind key = slot PipelineRun.kind run.key :=
    (hs.accounted_run hget htyped).slot
  refine ⟨run, read?_eq_some.mpr ⟨stored, ?_, htyped⟩, (slot_eq_iff.mp hslot).symm, ?_⟩
  · show Assoc.get? (slot PipelineRun.kind run.key) s.slots = some stored
    rw [← hslot]
    exact hget
  · exact beq_iff_eq.mp howned

/-- A run that was just created. -/
theorem Store.hasRun_withRun (uid now : String) (chain : Chain) {r : Release} (s : Store)
    {u : String} (hu : r.metadata.uid = some u) :
    (s.withRun uid now chain r).HasRun u (Reconcile.runKey chain r).text := by
  refine ⟨(Reconcile.runFor chain r).storedAs uid now (toString s.nextVersion), ?_, rfl,
    beq_iff_eq.mp (isOwnedBy_storedAs hu _)⟩
  exact read?_withRun uid now chain r s

/-- The call writes no status of a Release. -/
def StoreCall.SparesStatus : StoreCall → Prop
  | .updateStatus kind _ => '/' ∉ kind.toList ∧ kind ≠ Release.kind
  | .create .. | .update .. | .delete .. | .get .. | .list .. => True

instance : (c : StoreCall) → Decidable c.SparesStatus
  | .updateStatus kind _ =>
    inferInstanceAs (Decidable ('/' ∉ kind.toList ∧ kind ≠ Release.kind))
  | .create .. | .update .. | .delete .. | .get .. | .list .. => isTrue trivial

namespace Reconcile

/-! ## What an attempt knows -/

/-- The answer to a look at a key shows a run of the Release. -/
def ShowsRun (r : Release) (reply : Except StoreError (Option StoredRecord)) : Prop :=
  ∃ stored run u, reply = .ok (some stored) ∧ (stored.typed : Except StoreError PipelineRun) =
    .ok run ∧ r.metadata.uid = some u ∧ Trigger.isOwnedBy u run

/-- What is left of an attempt that knows of some runs: it looks around, creates the run of its
Release, and writes no status that names a run but one it knows. -/
inductive Vouches (r : Release) :
    (String → Prop) → Program (Except ReconcileError Unit) → Prop where
  | done (known : String → Prop) (v : Except ReconcileError Unit) : Vouches r known (.done v)
  | read {known : String → Prop} {c : StoreCall}
      {next : Except StoreError c.Reply → Program (Except ReconcileError Unit)}
      (hread : c.isRead) (hnext : ∀ reply, Vouches r known (next reply)) :
      Vouches r known (.call c next)
  | look {known : String → Prop} {key : RecordKey}
      {next : Except StoreError (StoreCall.get PipelineRun.kind key).Reply →
        Program (Except ReconcileError Unit)}
      (hnext : ∀ reply, Vouches r (fun text => known text ∨ text = key.text ∧ ShowsRun r reply)
        (next reply)) :
      Vouches r known (.call (.get PipelineRun.kind key) next)
  | create {known : String → Prop} {chain : Chain}
      {next : Except StoreError (StoreCall.create PipelineRun.kind (runFor chain r).toJson).Reply →
        Program (Except ReconcileError Unit)}
      (hnext : ∀ reply, Vouches r
        (fun text => known text ∨ text = (runKey chain r).text ∧ ∃ stored, reply = .ok stored)
        (next reply)) :
      Vouches r known (.call (.create PipelineRun.kind (runFor chain r).toJson) next)
  | note {known : String → Prop} {status : ReleaseStatus}
      {next : Except StoreError
          (StoreCall.updateStatus Release.kind { r with status }.toJson).Reply →
        Program (Except ReconcileError Unit)}
      (hmarker : ∀ text, status.pipelineRun = some text → known text)
      (hnext : ∀ reply, Vouches r known (next reply)) :
      Vouches r known (.call (.updateStatus Release.kind { r with status }.toJson) next)

section Vouches

variable {r : Release} {known : String → Prop} {policy : AmbiguityPolicy} {now : String}

/-- Reading first changes nothing about it. -/
theorem vouches_bind {α : Type} {p : Program (Except ReconcileError α)} (hp : GivesUp p)
    {f : Except ReconcileError α → Program (Except ReconcileError Unit)}
    (hf : ∀ v, Vouches r known (f v)) : Vouches r known (p.bind f) := by
  induction hp with
  | done v => exact hf v
  | call hread hfails hnext ih =>
      refine .read hread ?_
      intro reply
      cases reply with
      | error e =>
          rw [hfails]
          exact hf _
      | ok reply => exact ih reply

/-- A last write of the status. -/
theorem vouches_note {status : ReleaseStatus}
    (hmarker : ∀ text, status.pipelineRun = some text → known text)
    {f : Except StoreError Release → Program (Except ReconcileError Unit)}
    (hf : ∀ reply, ∃ v, f reply = .done v) :
    Vouches r known ((updateRecordStatus { r with status }).bind f) := by
  rw [updateRecordStatus_eq]
  refine .note hmarker ?_
  intro reply
  obtain ⟨v, hv⟩ := hf (reply.bind StoredRecord.typed)
  show Vouches r known (f (reply.bind StoredRecord.typed))
  rw [hv]
  exact .done known v

theorem closing_done (reply : Except StoreError Release) :
    ∃ v, Aftermath.closing reply = .done v := by
  cases reply <;> exact ⟨_, rfl⟩

/-- An open Release names no run yet. -/
theorem pipelineRun_of_open (hopen : r.isFinished = false) : r.status.pipelineRun = none := by
  rw [Release.isFinished, Bool.or_eq_false_iff] at hopen
  exact Option.not_isSome_iff_eq_none.mp (Bool.eq_false_iff.mp hopen.1)

/-- The report of an open Release names the run that is reported. -/
theorem vouches_report (hopen : r.isFinished = false) (v : Except ReconcileError RecordKey)
    (hv : ∀ run, v = .ok run → known run.text) : Vouches r known (report now r v) := by
  -- a status with a condition added names the runs it named before: none
  have hnone {s : ReleaseStatus} (hs : s.pipelineRun = r.status.pipelineRun) :
      ∀ text, s.pipelineRun = some text → known text := by
    intro text htext
    rw [hs, pipelineRun_of_open hopen] at htext
    cases htext
  cases v with
  | ok run =>
      obtain ⟨status, hstatus⟩ := Aftermath.exists_marked hopen now run
      rw [report, Aftermath.finish_eq hstatus]
      refine vouches_note ?_ closing_done
      intro text htext
      rw [(ReleaseStatus.triggered_of_mark hstatus).pipelineRun] at htext
      exact Option.some.inj htext ▸ hv run rfl
  | error e =>
      rw [report]
      cases hretry : e.isRetryable with
      | false =>
          rw [Aftermath.fail_eq_of_settled hretry]
          refine vouches_note ?_ closing_done
          exact hnone rfl
      | true =>
          cases e with
          | store cause =>
              rw [Aftermath.fail_eq_of_transient ⟨cause, hretry⟩]
              refine vouches_note ?_ fun reply => ⟨_, rfl⟩
              exact hnone rfl
          -- only failures of the store are retried
          | _ => cases hretry

/-- Looking for the run of the Release at a key. -/
theorem vouches_findOwned {key : RecordKey}
    {f : Except ReconcileError (Option PipelineRun) → Program (Except ReconcileError Unit)}
    (hf : ∀ (known : String → Prop) found, (∀ run, found = .ok (some run) → known key.text) →
      Vouches r known (f found)) :
    Vouches r known ((Trigger.findOwned key r).bind f) := by
  cases hu : r.metadata.uid with
  | none =>
      unfold Trigger.findOwned
      rw [hu]
      exact hf known _ (fun run h => by cases h)
  | some u =>
      rw [findOwned_eq hu, Chain.getRecord_eq]
      refine .look ?_
      intro reply
      refine hf _ _ ?_
      -- a run is found only if the answer was one that carries the uid
      intro run hrun
      refine .inr ⟨rfl, ?_⟩
      cases reply with
      | error e => cases hrun
      | ok found =>
          cases found with
          | none => cases hrun
          | some stored =>
              cases htyped : (stored.typed : Except StoreError PipelineRun) with
              | error e => simp [Except.bind, htyped, Except.map, Except.mapError] at hrun
              | ok run' =>
                  have hfilter : (some run').filter (Trigger.isOwnedBy u) = some run := by
                    simpa [Except.bind, htyped, Except.map, Except.mapError] using hrun
                  obtain ⟨hsame, howned⟩ := Option.filter_eq_some_iff.mp hfilter
                  cases hsame
                  exact ⟨stored, run, u, rfl, htyped, hu, howned⟩

theorem vouches_afterCreation (hopen : r.isFinished = false) (chain : Chain)
    (created : Except StoreError PipelineRun)
    (hcreated : ∀ run, created = .ok run → known (runKey chain r).text) :
    Vouches r known ((afterCreation chain r created).bind (report now r)) := by
  unfold afterCreation
  split
  · next run =>
      refine vouches_report hopen _ ?_
      rintro run' ⟨⟩
      exact hcreated run rfl
  · rw [bind_bind]
    refine vouches_findOwned ?_
    intro known found hfound
    rcases found with e | _ | run
    · exact vouches_report hopen _ fun _ h => by cases h
    · exact vouches_report hopen _ fun _ h => by cases h
    · refine vouches_report hopen _ ?_
      rintro run' ⟨⟩
      exact hfound run rfl
  · exact vouches_report hopen _ fun _ h => by cases h

/-- An attempt that found its Release open knows of no run at first. -/
theorem vouches_verdict (hopen : r.isFinished = false) :
    Vouches r (fun _ => False) ((verdict policy r).bind (report now r)) := by
  unfold verdict
  rw [bind_eq, bind_bind]
  refine vouches_bind (Chain.givesUp_resolve policy r) ?_
  intro resolved
  cases resolved with
  | error e => exact vouches_report hopen _ fun _ h => by cases h
  | ok chain =>
      show Vouches r _ ((startOrAdopt chain r).bind (report now r))
      rw [startOrAdopt_eq, createRecord_eq, bind_bind]
      refine .create ?_
      intro reply
      refine vouches_afterCreation hopen chain (reply.bind StoredRecord.typed) ?_
      intro run hrun
      obtain ⟨stored, hstored, -⟩ := exists_of_bind_ok hrun
      exact .inr ⟨rfl, stored, hstored⟩

end Vouches

/-! ## How far an attempt has come -/

/-- It has read nothing yet, or holds on to the Release it found open, or has come to its end. The
runs it knows of were seen. -/
inductive Underway (seen : String → String → Prop) (s : Store) :
    Program (Except ReconcileError Unit) → Prop where
  | unread (policy : AmbiguityPolicy) (now : String) (key : RecordKey) :
      Underway seen s (attempt policy now key)
  | holding {k : RecordKey} {r : Release} {known : String → Prop}
      {rest : Program (Except ReconcileError Unit)} (hr : Snapshot s k r)
      (hopen : r.isFinished = false)
      (hknown : ∀ u text, r.metadata.uid = some u → known text → seen u text)
      (hrest : Vouches r known rest) : Underway seen s rest
  | through (v : Except ReconcileError Unit) : Underway seen s (.done v)

/-- Where the record of a Release comes from: it was there, it is new, a client wrote its spec, or
an attempt wrote the status of a Release that was open. -/
inductive Arises (seen : String → String → Prop) (drawn : Option String) (s : Store)
    (key : RecordKey) (p : StoredRecord) : Prop where
  | kept (hp : s.get? Release.kind key = some p)
  | created (huid : drawn = some p.uid) (hstatus : p.readStatus? = some .empty)
  | updated {q : StoredRecord} (hq : s.get? Release.kind key = some q) (huid : p.uid = q.uid)
      (hstatus : p.readStatus? = q.readStatus?)
      (hgeneration : p.generation = q.generation ∨ p.generation = q.generation + 1)
  | noted {q : StoredRecord} {r : Release} {status : ReleaseStatus}
      (hq : s.get? Release.kind key = some q) (hr : q.typed = .ok r)
      (hopen : r.isFinished = false) (huid : p.uid = q.uid)
      (hgeneration : p.generation = q.generation) (hstatus : p.readStatus? = some status)
      (hmarker : ∀ text, status.pipelineRun = some text → seen q.uid text)

section Underway

variable {seen seen' : String → String → Prop} {s s' : Store} {uid now : String} {c : StoreCall}
  {next : Except StoreError c.Reply → Program (Except ReconcileError Unit)}
  {errors : StoreError → Prop} {fate : FateOf errors}

theorem Underway.mono {rest : Program (Except ReconcileError Unit)} (h : Underway seen s rest)
    (hseen : ∀ u text, seen u text → seen' u text) : Underway seen' s rest := by
  cases h with
  | unread policy now key => exact .unread policy now key
  | holding hr hopen hknown hrest =>
      exact .holding hr hopen (fun u text hu htext => hseen u text (hknown u text hu htext)) hrest
  | through v => exact .through v

/-- While others make calls, an attempt has what it has. -/
theorem Underway.effect {rest : Program (Except ReconcileError Unit)} (h : Underway seen s rest)
    (heffect : Effect uid now s c s') : Underway seen s' rest := by
  cases h with
  | unread policy now key => exact .unread policy now key
  | holding hr hopen hknown hrest => exact .holding (hr.effect heffect) hopen hknown hrest
  | through v => exact .through v

/-- It reads the Release and holds on to it if it is open. -/
theorem Underway.of_attempt (seen : String → String → Prop) (hs : s.Sound)
    {policy : AmbiguityPolicy} {started : String} {key : RecordKey}
    (hattempt : attempt policy started key = .call c next) (uid now : String)
    (fate : FateOf errors) :
    c.isRead ∧ Underway seen s (next (answer uid now c fate s)) := by
  obtain ⟨next', heq, hfails, hnone, hmistyped, htyped⟩ := attempt_call policy started key
  cases heq.symm.trans hattempt
  refine ⟨rfl, ?_⟩
  cases fate with
  | failed e | lost e =>
      show Underway seen s (next' (.error e.1))
      rw [hfails]
      exact .through _
  | answered =>
      show Underway seen s (next' (.ok (s.get? Release.kind key)))
      cases hget : s.get? Release.kind key with
      | none =>
          rw [hnone]
          exact .through _
      | some stored =>
          cases hr : (stored.typed : Except StoreError Release) with
          | error e =>
              rw [hmistyped stored e hr]
              exact .through _
          | ok r =>
              rw [htyped stored r hr]
              split
              · exact .through _
              · next hopen =>
                  have hopen : r.isFinished = false := Bool.eq_false_iff.mpr hopen
                  exact .holding (.of_read hs (read?_eq_some.mpr ⟨stored, hget, hr⟩)) hopen
                    (fun _ _ _ h => h.elim) (vouches_verdict hopen)

/-- The calls that attempts make: they read, create runs, and write a status to a Release that they
found open. -/
theorem Underway.call_cases (h : Underway seen s (.call c next)) (hs : s.Sound) :
    c.isRead ∨ (∃ chain r, c = .create PipelineRun.kind (runFor chain r).toJson) ∨
      ∃ k r status, Snapshot s k r ∧ r.isFinished = false ∧
        (∀ u text, r.metadata.uid = some u → status.pipelineRun = some text → seen u text) ∧
        c = .updateStatus Release.kind { r with status }.toJson := by
  generalize hp : Program.call c next = p at h
  cases h with
  | through v => cases hp
  | unread policy started key =>
      exact .inl (of_attempt seen hs hp.symm "" "" (.answered : Fate)).1
  | @holding k r known rest hr hopen hknown hrest =>
      cases hrest with
      | done => cases hp
      | read hread =>
          cases hp
          exact .inl hread
      | look =>
          cases hp
          exact .inl rfl
      | create =>
          cases hp
          exact .inr (.inl ⟨_, r, rfl⟩)
      | @note _ status _ hmarker =>
          cases hp
          exact .inr (.inr ⟨k, r, status, hr, hopen,
            fun u text hu htext => hknown u text hu (hmarker text htext), rfl⟩)

/-- An answer to the look at a key that shows a run of the Release shows one that is stored. -/
theorem hasRun_of_showsRun (hs : s.Sound) {r : Release} {key : RecordKey}
    (h : ShowsRun r (answer uid now (.get PipelineRun.kind key) fate s)) {u : String}
    (hu : r.metadata.uid = some u) : s.HasRun u key.text := by
  obtain ⟨stored, run, u', hreply, htyped, hu', howned⟩ := h
  cases hu.symm.trans hu'
  cases fate with
  | failed e | lost e => cases hreply
  | answered =>
      have hget : s.get? PipelineRun.kind key = some stored := Except.ok.inj hreply
      exact hs.hasRun (read?_eq_some.mpr ⟨stored, hget, htyped⟩) howned

/-- A creation that is answered has stored the run. -/
theorem hasRun_of_created {r : Release} {chain : Chain} {stored : StoredRecord}
    (h : answer uid now (.create PipelineRun.kind (runFor chain r).toJson) fate s = .ok stored)
    {u : String} (hu : r.metadata.uid = some u) :
    (called uid now (.create PipelineRun.kind (runFor chain r).toJson) fate s).HasRun u
      (runKey chain r).text := by
  cases fate with
  | failed e | lost e => cases h
  | answered =>
      have hcreate : (s.create uid now PipelineRun.kind (runFor chain r).toJson).1 = .ok stored := h
      show (s.create uid now PipelineRun.kind (runFor chain r).toJson).2.HasRun u _
      cases hnew : s.checkNew PipelineRun.kind (runFor chain r).toJson with
      | error e =>
          rw [create_of_error hnew] at hcreate
          cases hcreate
      | ok m =>
          obtain ⟨rfl, -, -⟩ := checkNew_run.mp hnew
          rw [create_of_checkNew hnew]
          exact hasRun_withRun uid now chain s hu

/-- What an attempt learns from a call is a run that is stored now. -/
theorem Underway.call (h : Underway seen s (.call c next)) (hs : s.Sound) (uid now : String)
    (fate : FateOf errors) (hseen : ∀ u text, seen u text → seen' u text)
    (hnow : ∀ u text, (called uid now c fate s).HasRun u text → seen' u text) :
    Underway seen' (called uid now c fate s) (next (answer uid now c fate s)) := by
  generalize hp : Program.call c next = p at h
  cases h with
  | through v => cases hp
  | unread policy started key =>
      obtain ⟨hread, hnext⟩ := of_attempt seen' hs hp.symm uid now fate
      rw [called_of_isRead hread]
      exact hnext
  | @holding k r known rest hr hopen hknown hrest =>
      have hr' := hr.effect (called_effect uid now c fate s)
      have hknown' (u text : String) (hu : r.metadata.uid = some u) (htext : known text) :
          seen' u text := hseen u text (hknown u text hu htext)
      cases hrest with
      | done => cases hp
      | read hread hnext =>
          cases hp
          exact .holding hr' hopen hknown' (hnext _)
      | note hmarker hnext =>
          cases hp
          exact .holding hr' hopen hknown' (hnext _)
      | look hnext =>
          cases hp
          refine .holding hr' hopen ?_ (hnext _)
          rintro u text hu (hold | ⟨rfl, hshows⟩)
          · exact hknown' u text hu hold
          · rw [called_of_isRead rfl] at hnow
            exact hnow u _ (hasRun_of_showsRun hs hshows hu)
      | create hnext =>
          cases hp
          refine .holding hr' hopen ?_ (hnext _)
          rintro u text hu (hold | ⟨rfl, stored, hcreated⟩)
          · exact hknown' u text hu hold
          · exact hnow u _ (hasRun_of_created hcreated hu)

end Underway

/-! ## What becomes of the record of a Release -/

section Arises

variable {seen : String → String → Prop} {s : Store} {key : RecordKey} {p : StoredRecord}
  {c : StoreCall} {uid now : String}

/-- The status of a Release is written over the version that was read, or not at all. -/
theorem Snapshot.arises {k : RecordKey} {r : Release} (h : Snapshot s k r) (hs : s.Sound)
    (hopen : r.isFinished = false) {status : ReleaseStatus}
    (hmarker : ∀ u text, r.metadata.uid = some u → status.pipelineRun = some text → seen u text)
    {drawn : Option String} (hp : (s.withStatus r status).get? Release.kind key = some p) :
    Arises seen drawn s key p := by
  rcases h.updateStatus_cases status with hread | ⟨e, hupdate, -⟩
  · obtain ⟨q, hget, htyped⟩ := read?_eq_some.mp hread
    have hacc := hs.accounted_release hget htyped
    rw [Store.get?, hs.get?_withStatus hget htyped] at hp
    split at hp
    · next hslot =>
        cases hp
        have hq : s.get? Release.kind key = some q := by
          rw [Store.get?, hslot]
          exact hget
        have hafter : (q.withStatus (toString s.nextVersion) r status).Accounted
            (slot Release.kind k) Release.kind _ :=
          accounted_revised hacc .status _ hacc.slot _
        exact .noted hq htyped hopen rfl rfl
          (StoredRecord.readStatus?_of_typed hafter (hacc.typed_withStatus htyped _ status))
          fun text => hmarker q.uid text hacc.uid
    · exact .kept hp
  · unfold Store.withStatus at hp
    rw [hupdate] at hp
    exact .kept hp

/-- What a call of an attempt makes of it. -/
theorem Underway.arises
    {next : Except StoreError c.Reply → Program (Except ReconcileError Unit)}
    (h : Underway seen s (.call c next)) (hs : s.Sound) {errors : StoreError → Prop}
    {fate : FateOf errors} {drawn : Option String}
    (hp : (called uid now c fate s).get? Release.kind key = some p) :
    Arises seen drawn s key p := by
  rcases h.call_cases hs with hread | ⟨chain, r, rfl⟩ | ⟨k, r, status, hr, hopen, hmarker, rfl⟩
  · rw [called_of_isRead hread] at hp
    exact .kept hp
  · -- creating a run is not seen by readers of Releases
    have heffect := called_effect uid now
      (.create PipelineRun.kind (runFor chain r).toJson) fate s
    have hagrees := heffect.agrees slash_notMem_release slash_notMem_run
      (show PipelineRun.kind ≠ Release.kind by decide)
    rw [hagrees.get? key] at hp
    exact .kept hp
  · unfold called at hp
    split at hp
    · exact hr.arises hs hopen hmarker hp
    · exact .kept hp

/-- What a call of a client makes of it. -/
theorem arises_of_sparesStatus (hc : c.SparesStatus)
    (hp : (s.perform uid now c).2.get? Release.kind key = some p) :
    Arises seen (some uid) s key p := by
  rcases (perform_effect uid now s c).get?_cases hp with hold | hnew
  · exact .kept hold
  -- the slot may be one of several that the call goes by
  generalize hx : slot Release.kind key = x at hnew
  cases hnew with
  | created => exact .created rfl (StoredRecord.readStatus?_created _ _ _)
  | @updated kind object existing incoming kept hrevise hkept =>
      obtain ⟨-, -, hget, -⟩ := revise_eq_ok.mp hrevise
      have hq : s.get? Release.kind key = some existing := by
        rw [Store.get?, hx]
        exact hget
      refine .updated hq rfl (StoredRecord.readStatus?_updated _ _) ?_
      cases hchange : specChanges existing.object object with
      | true => exact .inr (if_pos hchange)
      | false => exact .inl (StoredRecord.generation_revised_eq hchange)
  | statusUpdated => exact absurd (slot_inj slash_notMem_release hc.1 hx).1.symm hc.2

end Arises

/-! ## Scenes -/

/-- A store and the attempts on it that are under way. -/
structure Scene where
  store : Store
  running : List (Program (Except ReconcileError Unit))

/-- One thing that happens. An attempt that does not go on any more was cut off. -/
inductive Move where
  /-- A client makes a call; a creation would use the uid. -/
  | call (uid now : String) (c : StoreCall)
  | start (policy : AmbiguityPolicy) (now : String) (key : RecordKey)
  /-- An attempt makes its next call, which may fail with any error. -/
  | advance (attempt : Nat) (uid now : String) (fate : AnyFate)

namespace Move

/-- The uid that a creation would use. -/
def uid? : Move → Option String
  | call uid .. | advance _ uid .. => some uid
  | start .. => none

/-- Clients keep to the calls. -/
def Within (P : StoreCall → Prop) : Move → Prop
  | call _ _ c => P c
  | start .. | advance .. => True

instance (P : StoreCall → Prop) [DecidablePred P] : DecidablePred (Within P)
  | call _ _ c => inferInstanceAs (Decidable (P c))
  | start .. | advance .. => isTrue trivial

theorem Within.imp {P Q : StoreCall → Prop} (h : ∀ c, P c → Q c) {m : Move} (hm : m.Within P) :
    m.Within Q := by
  cases m with
  | call uid now c => exact h c hm
  | start | advance => trivial

end Move

namespace Scene

def step (σ : Scene) : Move → Scene
  | .call uid now c => { σ with store := (σ.store.perform uid now c).2 }
  | .start policy now key => { σ with running := σ.running ++ [attempt policy now key] }
  | .advance i uid now fate =>
    match σ.running[i]? with
    | some (.call c next) =>
      ⟨called uid now c fate σ.store, σ.running.set i (next (answer uid now c fate σ.store))⟩
    | _ => σ

/-- An attempt makes its next call, if there is one to make. -/
theorem step_advance (σ : Scene) (i : Nat) (uid now : String) (fate : AnyFate) :
    σ.step (.advance i uid now fate) = σ ∨ ∃ c next, σ.running[i]? = some (.call c next) ∧
      σ.step (.advance i uid now fate) = ⟨called uid now c fate σ.store,
        σ.running.set i (next (answer uid now c fate σ.store))⟩ := by
  simp only [step]
  split
  · next c next hi => exact .inr ⟨c, next, hi, rfl⟩
  · exact .inl rfl

/-- A move leaves the store alone or makes a call on it. -/
theorem step_effect (σ : Scene) (m : Move) : (σ.step m).store = σ.store ∨
    ∃ uid now c, m.uid? = some uid ∧ Effect uid now σ.store c (σ.step m).store := by
  cases m with
  | call uid now c => exact .inr ⟨uid, now, c, rfl, perform_effect uid now σ.store c⟩
  | start => exact .inl rfl
  | advance i uid now fate =>
      rcases σ.step_advance i uid now fate with hstep | ⟨c, next, -, hstep⟩
      · exact .inl (congrArg store hstep)
      · rw [hstep]
        exact .inr ⟨uid, now, c, rfl, called_effect uid now c fate σ.store⟩

/-- The store is sound and every attempt has come as far as attempts can. -/
structure Orderly (seen : String → String → Prop) (σ : Scene) : Prop where
  sound : σ.store.Sound
  underway : ∀ p ∈ σ.running, Underway seen σ.store p

theorem Orderly.step {seen seen' : String → String → Prop} {σ : Scene} (h : σ.Orderly seen)
    (hseen : ∀ u text, seen u text → seen' u text) (m : Move)
    (hnow : ∀ u text, (σ.step m).store.HasRun u text → seen' u text) :
    (σ.step m).Orderly seen' where
  sound := by
    rcases σ.step_effect m with hsame | ⟨uid, now, c, -, heffect⟩
    · rw [hsame]
      exact h.sound
    · exact heffect.sound h.sound
  underway p hp := by
    have hold {p : Program (Except ReconcileError Unit)} (hp : p ∈ σ.running) :
        Underway seen' σ.store p := (h.underway p hp).mono hseen
    cases m with
    | call uid now c => exact (hold hp).effect (perform_effect uid now σ.store c)
    | start policy now key =>
        rcases List.mem_append.mp hp with hp | hnew
        · exact hold hp
        · obtain rfl := List.mem_singleton.mp hnew
          exact .unread policy now key
    | advance i uid now fate =>
        rcases σ.step_advance i uid now fate with hstep | ⟨c, next, hi, hstep⟩
        · rw [hstep] at hp ⊢
          exact hold hp
        · rw [hstep] at hp hnow ⊢
          -- one attempt goes on with the answer, the others live through the call
          rcases List.mem_or_eq_of_mem_set hp with hp | rfl
          · exact (hold hp).effect (called_effect uid now c fate σ.store)
          · exact (h.underway _ (List.mem_of_getElem? hi)).call h.sound uid now fate hseen hnow

/-- What a move makes of the record of a Release. -/
theorem Orderly.arises {seen : String → String → Prop} {σ : Scene} (h : σ.Orderly seen) {m : Move}
    (hm : m.Within StoreCall.SparesStatus) {key : RecordKey} {p : StoredRecord}
    (hp : (σ.step m).store.get? Release.kind key = some p) :
    Arises seen m.uid? σ.store key p := by
  cases m with
  | call uid now c => exact arises_of_sparesStatus hm hp
  | start => exact .kept hp
  | advance i uid now fate =>
      rcases σ.step_advance i uid now fate with hstep | ⟨c, next, hi, hstep⟩
      · rw [hstep] at hp
        exact .kept hp
      · rw [hstep] at hp
        exact (h.underway _ (List.mem_of_getElem? hi)).arises h.sound hp

end Scene

/-! ## Whole interleavings -/

/-- The scene that some moves lead to, from an empty store and no attempts. -/
def scene (moves : List Move) : Scene := moves.foldl Scene.step ⟨.empty Chain.indexes, []⟩

theorem scene_append (moves moves' : List Move) :
    scene (moves ++ moves') = moves'.foldl Scene.step (scene moves) :=
  List.foldl_append

theorem scene_concat (moves : List Move) (m : Move) :
    scene (moves ++ [m]) = (scene moves).step m := scene_append moves [m]

/-- A run that carries the uid was stored under the text at some time. -/
def Seen (moves : List Move) (u text : String) : Prop :=
  ∃ before, before <+: moves ∧ (scene before).store.HasRun u text

theorem Seen.concat {moves : List Move} {u text : String} (h : Seen moves u text) (m : Move) :
    Seen (moves ++ [m]) u text := by
  obtain ⟨before, hbefore, hrun⟩ := h
  exact ⟨before, hbefore.trans (List.prefix_append _ _), hrun⟩

/-- Whatever moves are made, the scene is orderly. -/
theorem orderly_scene (moves : List Move) : (scene moves).Orderly (Seen moves) := by
  induction moves using List.reverseRecOn with
  | nil => exact ⟨sound_empty _, fun p hp => by cases hp⟩
  | append_singleton moves m ih =>
      rw [scene_concat]
      refine ih.step (fun u text h => h.concat m) m ?_
      intro u text hrun
      exact ⟨moves ++ [m], List.prefix_refl _, by rw [scene_concat]; exact hrun⟩

/-! ## Attempts at one go

An attempt that is not interrupted is one run of its program, so a history is an interleaving in
which each attempt is made at one go. -/

/-- The calls of an attempt as a script says. -/
def Move.scripted (i : Nat) (uid now : String) (script : List Fate) : List Move :=
  script.map fun fate => .advance i uid now (fate.widen fun _ _ => trivial)

/-- An attempt makes its calls one after the other. -/
theorem Scene.store_foldl_scripted {σ : Scene} {i : Nat}
    {p : Program (Except ReconcileError Unit)} (hi : σ.running[i]? = some p) (uid now : String)
    (script : List Fate) : ((Move.scripted i uid now script).foldl step σ).store =
      (p.run (Program.scripted uid now) (script, σ.store)).2.2 := by
  induction script generalizing σ p with
  | nil => cases p <;> rfl
  | cons fate rest ih =>
      rw [Move.scripted, List.map_cons, List.foldl_cons, ← Move.scripted]
      cases p with
      | done v =>
          have hstep (fate : AnyFate) : σ.step (.advance i uid now fate) = σ := by
            simp only [step, hi]
          rw [hstep, ih hi]
          rfl
      | call c next =>
          have hstep (fate : AnyFate) : σ.step (.advance i uid now fate) =
              ⟨called uid now c fate σ.store,
                σ.running.set i (next (answer uid now c fate σ.store))⟩ := by
            simp only [step, hi]
          have hnext (reply : Except StoreError c.Reply) :
              (σ.running.set i (next reply))[i]? = some (next reply) :=
            List.getElem?_set_self (List.getElem?_eq_some_iff.mp hi).1
          rw [hstep, ih (hnext _)]
          cases fate <;> rfl

/-- Every history is an interleaving. -/
theorem exists_moves_of_allowed {acts : List Act} (h : ∀ act ∈ acts, act.Allowed) :
    ∃ moves, (∀ m ∈ moves, m.Within StoreCall.IsEdit) ∧ (scene moves).store = replay acts := by
  induction acts using List.reverseRecOn with
  | nil => exact ⟨[], fun m hm => (by cases hm), rfl⟩
  | append_singleton acts act ih =>
      obtain ⟨h, hlast⟩ := List.forall_mem_append.mp h
      obtain ⟨moves, hmoves, hstore⟩ := ih h
      rw [replay_concat, ← hstore]
      cases act with
      | call uid now c =>
          refine ⟨moves ++ [.call uid now c], List.forall_mem_append.mpr ⟨hmoves, ?_⟩, ?_⟩
          · exact List.forall_mem_singleton.mpr (hlast _ List.mem_cons_self)
          · rw [scene_concat]
            rfl
      | attempt a =>
          have hstarted (σ : Scene) (p : Program (Except ReconcileError Unit)) :
              (σ.running ++ [p])[σ.running.length]? = some p := by simp
          refine ⟨moves ++ .start a.policy a.now a.key ::
              Move.scripted (scene moves).running.length a.uid a.now a.script,
            List.forall_mem_append.mpr ⟨hmoves, List.forall_mem_cons.mpr ⟨?_, ?_⟩⟩, ?_⟩
          · trivial
          · intro m hm
            obtain ⟨fate, -, rfl⟩ := List.mem_map.mp hm
            trivial
          · rw [scene_append, List.foldl_cons]
            exact Scene.store_foldl_scripted (hstarted (scene moves) _) a.uid a.now a.script

end Reconcile

end ReleaseControl
