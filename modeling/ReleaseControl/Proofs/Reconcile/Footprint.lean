import ReleaseControl.Proofs.Reconcile.Course
import ReleaseControl.Proofs.Reconcile.History
import ReleaseControl.Proofs.Store.Failing
import ReleaseControl.Proofs.Store.Ownership
import ReleaseControl.Proofs.Watch.Reception
import ReleaseControl.Reconcile.Worker

/-! # The footprint of an attempt

Whatever becomes of its calls, an attempt adds at most one record, which is a run, and writes to at
most one, which is the Release that was read (`Footprint`). Of that record only the status and the
version change, and of the status only what the attempt reports in. The events of these writes are
none that the controller is called for (`Unheeded`), so an attempt is not the cause of another one.

The Release is read into a record type and written back as a whole. Nothing is lost on the way,
since the store takes only the status from what is written back, and has itself written the
metadata of everything it holds (`Store.Canonical`). -/

namespace ReleaseControl

open Program Store

/-! ## What a report changes of the record -/

/-- The record is one of a Release; the other one differs from it in the status and the version
only, and in the status not in the conditions that are none of the controller's. -/
structure StoredRecord.Renoted (q q' : StoredRecord) : Prop where
  kind : q.object.recordKind = .ok Release.kind
  uid : q'.uid = q.uid
  generation : q'.generation = q.generation
  members : ∀ name, name ≠ "status" → name ≠ "metadata" →
    q'.object.get? name = q.object.get? name
  metadata : ∀ name, name ≠ "resourceVersion" →
    q'.object.at? ["metadata", name] = q.object.at? ["metadata", name]
  conditions : ∃ r r' : Release, q.typed = .ok r ∧ q'.typed = .ok r' ∧
    r'.status.conditions.filter (fun c => c.type != ReleaseStatus.succeededType) =
      r.status.conditions.filter fun c => c.type != ReleaseStatus.succeededType

theorem Metadata.get?_toJson_of_ne (m : Metadata) (version : Option String) {name : String}
    (h : name ≠ "resourceVersion") :
    ({ m with resourceVersion := version }.toJson).get? name = m.toJson.get? name := by
  simp [Metadata.toJson, Ne.symm h]

namespace ReleaseStatus

theorem conditions_setSucceeded (now : String) (status : ConditionStatus)
    (reason message : String) (generation : Int64) (s : ReleaseStatus) :
    (s.setSucceeded now status reason message generation).conditions.filter
        (fun c => c.type != succeededType) =
      s.conditions.filter fun c => c.type != succeededType := by
  obtain ⟨t, ht⟩ := Condition.placed_set now
    (.new succeededType status reason message (some generation)) s.conditions
  exact ht.filter_eq

end ReleaseStatus

namespace Reconcile

variable {now : String} {r : Release} {key : RecordKey} {s s' : Store}

theorem conditions_reported (v : Except ReconcileError RecordKey) :
    (reported now r v).conditions.filter (fun c => c.type != ReleaseStatus.succeededType) =
      r.status.conditions.filter fun c => c.type != ReleaseStatus.succeededType := by
  cases v with
  | error e =>
      rw [reported]
      by_cases hretry : e.isRetryable
      · rw [if_pos hretry]
        exact ReleaseStatus.conditions_setSucceeded ..
      · rw [if_neg hretry]
        exact ReleaseStatus.conditions_setSucceeded ..
  | ok run =>
      rw [reported, ReleaseStatus.markTriggered]
      by_cases hsettled : r.status.isSettledFor r.metadata.currentGeneration
      · rw [if_pos hsettled]
      · rw [if_neg hsettled]
        exact ReleaseStatus.conditions_setSucceeded ..

/-- A report leaves a Release renoted. -/
theorem renoted_withStatus {x : String} {q : StoredRecord}
    (hq : q.Accounted x Release.kind r.metadata) (hr : q.typed = .ok r)
    (hcanonical : ∃ m : Metadata, q.object.get? "metadata" = some m.toJson) (version : String)
    (v : Except ReconcileError RecordKey) :
    q.Renoted (q.withStatus version r (reported now r v)) := by
  have hobject := Json.isObject_of_recordMetadata hq.objectMetadata
  have hafter := hq.object_withStatus version (reported now r v)
  refine ⟨hq.objectKind, rfl, rfl, ?_, ?_, ?_⟩
  · intro name hstatus hmetadata
    rw [hafter, Json.get?_set_ne hmetadata, Json.get?_set_ne hstatus]
  · intro name hname
    have hwritten : (q.withStatus version r (reported now r v)).object.get? "metadata" =
        some { r.metadata with resourceVersion := some version }.toJson := by
      rw [hafter]
      exact Json.get?_set_self (by simpa using hobject) _ _
    have hstored := hq.metadata_of_canonical hcanonical
    simp only [Json.at?, List.foldlM_cons, List.foldlM_nil, hwritten, hstored, Option.bind_eq_bind,
      Option.bind_some, Option.pure_def]
    rw [Metadata.get?_toJson_of_ne _ _ hname]
  · exact ⟨r, _, hr, hq.typed_withStatus hr version _, conditions_reported v⟩

/-! ## What the store keeps -/

/-- All that an attempt on the key may have changed. -/
structure Footprint (key : RecordKey) (s s' : Store) : Prop where
  /-- What was stored is stored, but the record of the Release may be renoted. -/
  kept : ∀ x q, Assoc.get? x s.slots = some q → Assoc.get? x s'.slots = some q ∨
    x = slot Release.kind key ∧ s.get? Release.kind key = some q ∧
      ∃ q', Assoc.get? x s'.slots = some q' ∧ q.Renoted q'
  /-- At most one slot is taken, by a run. -/
  added : ∃ y, ∀ x q, Assoc.get? x s.slots = none → Assoc.get? x s'.slots = some q →
    x = y ∧ q.kind = PipelineRun.kind ∧ q.object.recordKind = .ok PipelineRun.kind

theorem Footprint.refl (key : RecordKey) (s : Store) : Footprint key s s where
  kept x q hq := .inl hq
  added := by
    refine ⟨"", ?_⟩
    intro x q hnone hq
    rw [hnone] at hq
    cases hq

/-- The store is as it was, or the run has been created. -/
inductive Launched (r : Release) (s : Store) : Bool → Store → Prop where
  | unchanged (mayCreate : Bool) : Launched r s mayCreate s
  | created {chain : Chain} (uid time : String) (hspace : chain.link.spec.target ≠ "")
      (hfree : s.get? PipelineRun.kind (runKey chain r) = none) :
      Launched r s false (s.withRun uid time chain r)

namespace Launched

variable {mayCreate : Bool}

/-- Creating the run, or not. -/
theorem perform (chain : Chain) (r : Release) (s : Store) (uid time : String) :
    Launched r s false
      (s.perform uid time (.create PipelineRun.kind (runFor chain r).toJson)).2 := by
  show Launched r s false (s.create uid time PipelineRun.kind (runFor chain r).toJson).2
  cases hnew : s.checkNew PipelineRun.kind (runFor chain r).toJson with
  | error e =>
      rw [create_of_error hnew]
      exact .unchanged false
  | ok m =>
      obtain ⟨rfl, hspace, hfree⟩ := checkNew_run.mp hnew
      rw [create_of_checkNew hnew]
      exact .created uid time hspace hfree

theorem sound (h : Launched r s mayCreate s') (hs : s.Sound) : s'.Sound := by
  cases h with
  | unchanged => exact hs
  | created uid time hspace hfree => exact (effect_withRun uid time hspace hfree).sound hs

theorem get?_release (h : Launched r s mayCreate s') (key : RecordKey) :
    s'.get? Release.kind key = s.get? Release.kind key := by
  cases h with
  | unchanged => rfl
  | created uid time =>
      exact (agrees_withRun slash_notMem_release (by decide) uid time _ r s).get? key

theorem footprint (h : Launched r s mayCreate s') (key : RecordKey) : Footprint key s s' := by
  cases h with
  | unchanged => exact .refl key s
  | @created chain uid time hspace hfree =>
      have hfree' : Assoc.get? (runSlot chain r) s.slots = none := hfree
      constructor
      · intro x q hq
        refine .inl ?_
        rw [get?_withRun, if_neg]
        · exact hq
        · rintro rfl
          rw [hfree'] at hq
          cases hq
      · refine ⟨runSlot chain r, ?_⟩
        intro x q hnone hq
        rw [get?_withRun] at hq
        split at hq
        · next hx =>
            cases hq
            exact ⟨hx, rfl, (accounted_runRecord uid time hspace hfree).objectKind⟩
        · rw [hnone] at hq
          cases hq

/-- The run may be there and the report made. -/
theorem footprint_withStatus (h : Launched r s mayCreate s') (hs : s.Sound)
    (hcanonical : s.Canonical) (hr : s.read? Release key = some r)
    (v : Except ReconcileError RecordKey) :
    Footprint key s (s'.withStatus r (reported now r v)) := by
  obtain ⟨stored, hget, htyped⟩ := read?_eq_some.mp hr
  have hget' : s'.get? Release.kind key = some stored := (h.get?_release key).trans hget
  have hslots := (h.sound hs).get?_withStatus hget' htyped (reported now r v)
  have hrenoted : stored.Renoted
      (stored.withStatus (toString s'.nextVersion) r (reported now r v)) :=
    renoted_withStatus (hs.accounted_release hget htyped) htyped (hcanonical _ _ hget) _ v
  obtain ⟨hkept, y, hadded⟩ := h.footprint key
  constructor
  · intro x q hq
    rw [hslots x]
    by_cases hx : x = slot Release.kind key
    · rw [if_pos hx]
      have hsame : q = stored := by
        rw [hx] at hq
        exact Option.some.inj (hq.symm.trans hget)
      rw [hsame]
      exact .inr ⟨hx, hget, _, rfl, hrenoted⟩
    · rw [if_neg hx]
      exact .inl ((hkept x q hq).resolve_right fun h => hx h.1)
  · refine ⟨y, ?_⟩
    intro x q hnone hq
    rw [hslots x] at hq
    split at hq
    · next hx =>
        have htaken : Assoc.get? x s.slots = some stored := hx ▸ hget
        rw [hnone] at htaken
        cases htaken
    · exact hadded x q hnone hq

end Launched

/-! ## What is published -/

/-- Some events were sent, none of which the controller is called for. -/
def Unheeded (channel channel' : Channel) : Prop :=
  ∃ events : List WatchEvent, (∀ e ∈ events, e.isAccepted = false) ∧
    channel' = events.foldl (fun c e => (c.send e).2) channel

theorem Unheeded.refl (channel : Channel) : Unheeded channel channel :=
  ⟨[], fun e he => (by cases he), rfl⟩

theorem Unheeded.trans {channel channel' channel'' : Channel} (h : Unheeded channel channel')
    (h' : Unheeded channel' channel'') : Unheeded channel channel'' := by
  obtain ⟨events, hevents, rfl⟩ := h
  obtain ⟨events', hevents', rfl⟩ := h'
  refine ⟨events ++ events', ?_, (List.foldl_append).symm⟩
  exact List.forall_mem_append.mpr ⟨hevents, hevents'⟩

theorem unheeded_publish (channel : Channel) {c : StoreCall} {answer : Except StoreError c.Reply}
    (h : ∀ e, c.told? answer = some e → e.isAccepted = false) :
    Unheeded channel (channel.publish c answer) := by
  rw [Channel.publish_eq]
  cases htold : c.told? answer with
  | none => exact .refl channel
  | some e =>
      refine ⟨[e], ?_, rfl⟩
      exact List.forall_mem_singleton.mpr (h e htold)

/-- Reads have no event. -/
theorem told?_of_isRead {c : StoreCall} (hread : c.isRead) (answer : Except StoreError c.Reply) :
    c.told? answer = none := by
  cases c with
  | get | list => cases answer <;> rfl
  | create | update | updateStatus | delete => cases hread

/-- The controller is not called for records that are no Releases. -/
theorem isAccepted_of_create {kind : String} {object : Json} (hkind : kind ≠ Release.kind)
    {answer : Except StoreError StoredRecord} {e : WatchEvent}
    (h : (StoreCall.create kind object).told? answer = some e) : e.isAccepted = false := by
  have hsame : e.kind = kind := by
    cases answer with
    | error cause => cases h
    | ok stored =>
        obtain rfl := Option.some.inj h
        unfold StoreCall.event?.written
        split <;> rfl
  have hother : (e.kind == Release.kind) = false := by
    rw [hsame]
    exact beq_eq_false_iff_ne.mpr hkind
  rw [WatchEvent.isAccepted, WatchEvent.isKind, hother, Bool.false_and]

/-- Nor for a status, since it leaves the generation as it is. -/
theorem isAccepted_of_updateStatus {kind : String} {object : Json} {uid time : String}
    {e : WatchEvent} (h : (StoreCall.updateStatus kind object).told?
      (s.perform uid time (.updateStatus kind object)).1 = some e) : e.isAccepted = false := by
  have hperformed := performed uid time s (.updateStatus kind object)
  generalize (s.perform uid time (.updateStatus kind object)).1 = answer at h hperformed
  generalize (s.perform uid time (.updateStatus kind object)).2 = after at hperformed
  cases hperformed with
  | refused => cases h
  | statusUpdated hrevise hkept =>
      obtain rfl := Option.some.inj h
      simp [WatchEvent.isAccepted, StoreCall.event?.written, StoredRecord.revised,
        StoredRecord.revisedGeneration, WatchEvent.updated, ChangeType.callsFor]

/-! ## A whole attempt -/

section Leaves

variable {σ : Type} (f : FailingStore σ) {w : σ} {channel : Channel} {mayCreate : Bool}
  {rest : Program (Except ReconcileError Unit)}

/-- What is left of an attempt keeps to the footprint of the attempt, and its events are not
heeded. -/
def Treads (key : RecordKey) (s : Store) (rest : Program (Except ReconcileError Unit)) (w : σ)
    (channel : Channel) : Prop :=
  Footprint key s (f.store (rest.run f.handler.published (w, channel)).2.1) ∧
    Unheeded channel (rest.run f.handler.published (w, channel)).2.2

variable {f}

/-- The attempt ends here. -/
theorem treads_done {v : Except ReconcileError Unit} (h : Footprint key s (f.store w)) :
    Treads f key s (.done v) w channel := ⟨h, .refl channel⟩

/-- The last call of an attempt, or one that it crashes at, or one after which it keeps to the
footprint. -/
theorem treads_call {c : StoreCall}
    {next : Except StoreError c.Reply → Program (Except ReconcileError Unit)}
    (hcrash : ∀ w', (f.store w).Handled c .crashed (f.store w') → Footprint key s (f.store w'))
    (htold : ∀ answer w' e, (f.store w).Handled c (.returned answer) (f.store w') →
      c.told? answer = some e → e.isAccepted = false)
    (hnext : ∀ answer w' channel', (f.store w).Handled c (.returned answer) (f.store w') →
      Treads f key s (next answer) w' channel') :
    Treads f key s (.call c next) w channel := by
  unfold Treads
  rcases f.run_published_cases c next w channel with
    ⟨w', hrun, hhandled⟩ | ⟨answer, w', hrun, hhandled⟩
  · rw [hrun]
    exact ⟨hcrash w' hhandled, .refl channel⟩
  · rw [hrun]
    obtain ⟨hfootprint, hunheeded⟩ := hnext answer w' (channel.publish c answer) hhandled
    have hpublish : Unheeded channel (channel.publish c answer) :=
      unheeded_publish channel fun e => htold answer w' e hhandled
    exact ⟨hfootprint, hpublish.trans hunheeded⟩

/-- The report is the last call. -/
theorem treads_report (hs : s.Sound) (hcanonical : s.Canonical)
    (hr : s.read? Release key = some r) (hopen : r.isFinished = false)
    (h : Launched r s mayCreate (f.store w)) (v : Except ReconcileError RecordKey) :
    Treads f key s (report now r v) w channel := by
  rw [report_call hopen]
  have hstore {outcome : Outcome (Except StoreError StoredRecord)} {w' : σ}
      (hhandled : (f.store w).Handled
        (.updateStatus Release.kind { r with status := reported now r v }.toJson) outcome
          (f.store w')) : Footprint key s (f.store w') := by
    rcases hhandled.store_cases with hsame | ⟨uid, time, hmade⟩
    · rw [hsame]
      exact h.footprint key
    · rw [hmade]
      exact h.footprint_withStatus hs hcanonical hr v
  refine treads_call (fun w' => hstore) ?_ fun answer w' channel' h' => treads_done (hstore h')
  intro answer w' e hhandled htold
  rcases hhandled.returned_cases with ⟨cause, rfl⟩ | ⟨uid, time, rfl, -⟩
  · cases htold
  · exact isAccepted_of_updateStatus htold

theorem Course.treads (h : Course now r mayCreate rest) (hs : s.Sound)
    (hcanonical : s.Canonical) (hr : s.read? Release key = some r) (hopen : r.isFinished = false)
    (hlaunched : Launched r s mayCreate (f.store w)) : Treads f key s rest w channel := by
  -- a failure for now is reported, with any other answer the attempt goes on
  have hgoes {later : Bool} {c : StoreCall}
      {next : Except StoreError c.Reply → Program (Except ReconcileError Unit)}
      (hfails : ∀ e : TransientError, next (.error e.1) = report now r (.error (.store e.1)))
      (ih : ∀ reply, IsAnswer reply → ∀ {w : σ} {channel : Channel},
        Launched r s later (f.store w) → Treads f key s (next reply) w channel)
      (reply : Except StoreError c.Reply) {w' : σ} {channel' : Channel}
      (hlater : Launched r s later (f.store w')) : Treads f key s (next reply) w' channel' := by
    rcases transient_or_answer reply with ⟨e, rfl⟩ | hreply
    · rw [hfails]
      exact treads_report hs hcanonical hr hopen hlater _
    · exact ih reply hreply hlater
  induction h generalizing w channel with
  | reports v => exact treads_report hs hcanonical hr hopen hlaunched v
  | @read mayCreate c next hread hfails hnext ih =>
      have hsame {outcome : Outcome (Except StoreError c.Reply)} {w' : σ}
          (hhandled : (f.store w).Handled c outcome (f.store w')) :
          Launched r s mayCreate (f.store w') := by
        rw [hhandled.of_isRead hread]
        exact hlaunched
      refine treads_call (fun w' h' => (hsame h').footprint key) ?_ ?_
      · intro answer w' e _ htold
        rw [told?_of_isRead hread] at htold
        cases htold
      · intro answer w' channel' h'
        exact hgoes hfails (fun reply hreply => ih reply hreply) answer (hsame h')
  | @create chain next hfails hnext ih =>
      have hmade {outcome : Outcome (Except StoreError StoredRecord)} {w' : σ}
          (hhandled : (f.store w).Handled
            (.create PipelineRun.kind (runFor chain r).toJson) outcome (f.store w')) :
          Launched r s false (f.store w') := by
        -- up to now there was no creation
        generalize f.store w = s₁ at hlaunched hhandled
        cases hlaunched with
        | unchanged =>
            rcases hhandled.store_cases with hsame | ⟨uid, time, hcreated⟩
            · rw [hsame]
              exact .unchanged false
            · rw [hcreated]
              exact .perform chain r s uid time
      refine treads_call (fun w' h' => (hmade h').footprint key) ?_ ?_
      · intro answer w' e _ htold
        exact isAccepted_of_create (show PipelineRun.kind ≠ Release.kind by decide) htold
      · intro answer w' channel' h'
        exact hgoes hfails (fun reply hreply => ih reply hreply) answer (hmade h')

theorem treads_attempt (hw : Reachable (f.store w)) (policy : AmbiguityPolicy) (now : String)
    (key : RecordKey) : Treads f key (f.store w) (attempt policy now key) w channel := by
  obtain ⟨next, hattempt, hfails, hnone, hmistyped, htyped⟩ := attempt_call policy now key
  rw [hattempt]
  have hsame {outcome : Outcome (Except StoreError (Option StoredRecord))} {w' : σ}
      (hhandled : (f.store w).Handled (.get Release.kind key) outcome (f.store w')) :
      f.store w' = f.store w := hhandled.of_isRead rfl
  have hend {outcome : Outcome (Except StoreError (Option StoredRecord))} {w' : σ}
      (hhandled : (f.store w).Handled (.get Release.kind key) outcome (f.store w')) :
      Footprint key (f.store w) (f.store w') := by
    rw [hsame hhandled]
    exact .refl key _
  refine treads_call (fun w' => hend) ?_ ?_
  · intro answer w' e _ htold
    rw [told?_of_isRead (c := .get Release.kind key) rfl] at htold
    cases htold
  intro answer w' channel' hhandled
  cases answer with
  | error e =>
      rw [hfails]
      exact treads_done (hend hhandled)
  | ok found =>
      have hget := hhandled.of_get.2 found rfl
      cases found with
      | none =>
          rw [hnone]
          exact treads_done (hend hhandled)
      | some stored =>
          cases hr : (stored.typed : Except StoreError Release) with
          | error e =>
              rw [hmistyped stored e hr]
              exact treads_done (hend hhandled)
          | ok r =>
              rw [htyped stored r hr]
              cases hopen : r.isFinished with
              | true => exact treads_done (hend hhandled)
              | false =>
                  have hread : (f.store w).read? Release key = some r :=
                    read?_eq_some.mpr ⟨stored, hget.symm, hr⟩
                  have hlaunched : Launched r (f.store w) true (f.store w') := by
                    rw [hsame hhandled]
                    exact .unchanged true
                  exact (course_verdict policy now r).treads hw.sound hw.canonical hread hopen
                    hlaunched

end Leaves

/-- Events that the controller is not called for leave the queue alone. -/
theorem foldl_enqueue_eq {events : List WatchEvent} (h : ∀ e ∈ events, e.isAccepted = false)
    (q : WorkQueue) : events.foldl (fun q e => (Worker.enqueue e q).2) q = q := by
  induction events with
  | nil => rfl
  | cons e rest ih =>
      obtain ⟨he, hrest⟩ := List.forall_mem_cons.mp h
      have hleft : (Worker.enqueue e q).2 = q := by simp [Worker.enqueue, he]
      rw [List.foldl_cons, hleft]
      exact ih hrest

/-- Whatever becomes of the calls of an attempt, it adds at most one record, which is a run, and
changes at most the record of the Release that is stored at its key, and that in its status and
version only. None of its events is one that the controller is called for, so it queues no key
again. -/
theorem attempt_footprint {σ : Type} (f : FailingStore σ) (w : σ) (hw : Reachable (f.store w))
    (channel : Channel) (policy : AmbiguityPolicy) (now : String) (key : RecordKey) :
    ∃ (outcome : Outcome (Except ReconcileError Unit)) (w' : σ) (events : List WatchEvent),
      (attempt policy now key).run f.handler.published (w, channel) =
        (outcome, w', events.foldl (fun c e => (c.send e).2) channel) ∧
      Footprint key (f.store w) (f.store w') ∧
      (∀ e ∈ events, e.isAccepted = false) ∧
      ∀ q : WorkQueue, events.foldl (fun q e => (Worker.enqueue e q).2) q = q := by
  have htreads : Treads f key (f.store w) (attempt policy now key) w channel :=
    treads_attempt hw policy now key
  obtain ⟨hfootprint, events, hevents, hchannel⟩ := htreads
  cases hrun : (attempt policy now key).run f.handler.published (w, channel) with
  | mk outcome rest =>
      obtain ⟨w', channel'⟩ := rest
      rw [hrun] at hfootprint hchannel
      refine ⟨outcome, w', events, ?_, hfootprint, hevents, foldl_enqueue_eq hevents⟩
      exact congrArg (fun c => (outcome, w', c)) hchannel

/-- The stage, with a receiver on the channel and no call that is to fail. -/
def watchedStage : { s : FaultyStore // ∀ f ∈ s.faults, f.writes = [] } × Channel :=
  (⟨⟨replay stage, [], 4, "t"⟩, fun f hf => by cases hf⟩, ⟨4, [], 0, [("w", 0)], true⟩)

theorem attempt_footprint_stage :
    ∃ (outcome : Outcome (Except ReconcileError Unit)) (w' : _) (events : List WatchEvent),
      (attempt .strict "t" ⟨"a", "r"⟩).run FailingStore.planned.handler.published watchedStage =
          (outcome, w', events.foldl (fun c e => (c.send e).2) watchedStage.2) ∧
      Footprint ⟨"a", "r"⟩ (replay stage) (FailingStore.planned.store w') ∧
      (∀ e ∈ events, e.isAccepted = false) ∧
      (events.foldl (fun c e => (c.send e).2) watchedStage.2).sent = 2 ∧
      Reachable (FailingStore.planned.store watchedStage.1) := by
  have hreachable : Reachable (replay stage) :=
    .step (.step (.step (.step (.empty _) _ _ _) _ _ _) _ _ _) _ _ _
  have hsent : ((attempt .strict "t" ⟨"a", "r"⟩).run FailingStore.planned.handler.published
      watchedStage).2.2.sent = 2 := by decide +kernel
  obtain ⟨outcome, w', events, hrun, hfootprint, hevents, -⟩ := attempt_footprint
    FailingStore.planned watchedStage.1 hreachable watchedStage.2 .strict "t" ⟨"a", "r"⟩
  have hrun' : (attempt .strict "t" ⟨"a", "r"⟩).run FailingStore.planned.handler.published
      watchedStage = (outcome, w', events.foldl (fun c e => (c.send e).2) watchedStage.2) := hrun
  rw [hrun'] at hsent
  exact ⟨outcome, w', events, hrun', hfootprint, hevents, hsent, hreachable⟩

end Reconcile

end ReleaseControl
