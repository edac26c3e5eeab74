import ReleaseControl.Proofs.Reconcile.Interleaving

/-! # The run that a status names

A status names a run by the text of its key, and the name of a run is no proof of whose it is: two
Releases can come to the same name, and a client can send any status it likes. What a Release names
is a run with its uid all the same (`own_run_of_marker`). Creations drop the status that they are
given, and an attempt takes a name for its run only after the run was created for it or was found
to carry the uid of its Release. So the run was stored at some time (`status_seen`), and as long as
clients leave the runs alone it still is (`hasRun_of_seen`). -/

namespace ReleaseControl

open Store
open Service (called called_effect called_of_isRead)

/-! ## Runs stay -/

namespace Store

variable {s s' : Store} {u text : String}

theorem HasRun.of_agrees (h : s.HasRun u text) (hagrees : Agrees PipelineRun.kind s s') :
    s'.HasRun u text := by
  obtain ⟨run, hrun, htext⟩ := h
  exact ⟨run, (hagrees.read? run.key).trans hrun, htext⟩

/-- A creation leaves what is stored. -/
theorem get?_create {x : String} {q : StoredRecord} (hx : Assoc.get? x s.slots = some q)
    (uid now kind : String) (object : Json) :
    Assoc.get? x (s.create uid now kind object).2.slots = some q := by
  cases hnew : s.checkNew kind object with
  | error e =>
      rw [create_of_error hnew]
      exact hx
  | ok m =>
      obtain ⟨-, -, -, hfree⟩ := checkNew_eq_ok.mp hnew
      rw [create_of_checkNew hnew, slots_accept, Assoc.get?_put_ne]
      · exact hx
      · rintro rfl
        cases hx.symm.trans hfree

theorem HasRun.create (h : s.HasRun u text) (uid now kind : String) (object : Json) :
    (s.create uid now kind object).2.HasRun u text := by
  obtain ⟨run, hrun, htext⟩ := h
  obtain ⟨stored, hget, htyped⟩ := read?_eq_some.mp hrun
  exact ⟨run, read?_eq_some.mpr ⟨stored, get?_create hget uid now kind object, htyped⟩, htext⟩

/-- A run carries one uid. -/
theorem HasRun.unique {u' : String} (h : s.HasRun u text) (h' : s.HasRun u' text) : u = u' := by
  obtain ⟨run, hrun, htext, hu⟩ := h
  obtain ⟨run', hrun', htext', hu'⟩ := h'
  -- keys with one text share a slot
  have hslot : slot PipelineRun.kind run.key = slot PipelineRun.kind run'.key :=
    slot_eq_iff.mpr (htext.trans htext'.symm)
  have hget : s.get? PipelineRun.kind run.key = s.get? PipelineRun.kind run'.key := by
    rw [Store.get?, Store.get?, hslot]
  have hread : s.read? PipelineRun run.key = s.read? PipelineRun run'.key := by
    show (s.get? PipelineRun.kind run.key).bind _ = (s.get? PipelineRun.kind run'.key).bind _
    rw [hget]
  obtain rfl : run = run' := Option.some.inj (hrun.symm.trans (hread.trans hrun'))
  exact Option.some.inj (hu.symm.trans hu')

end Store

theorem StoreCall.IsEdit.sparesStatus {c : StoreCall} (h : c.IsEdit) : c.SparesStatus := by
  cases c with
  | updateStatus => exact ⟨(clientKinds_spec h.1).1, h.2⟩
  | create | update | delete | get | list => trivial

namespace Reconcile

theorem Underway.hasRun_called {seen : String → String → Prop} {s : Store} {c : StoreCall}
    {next : Except StoreError c.Reply → Program (Except ReconcileError Unit)}
    (h : Underway seen s (.call c next)) (hs : s.Sound) {u text : String} (hrun : s.HasRun u text)
    {errors : StoreError → Prop} (uid now : String) (fate : FateOf errors) :
    (called uid now c fate s).HasRun u text := by
  rcases h.call_cases hs with hread | ⟨chain, r, rfl⟩ | ⟨-, r, status, -, -, -, rfl⟩
  · rw [called_of_isRead hread]
    exact hrun
  · unfold called
    split
    · exact hrun.create uid now _ _
    · exact hrun
  · have heffect := called_effect uid now
      (.updateStatus Release.kind { r with status }.toJson) fate s
    exact hrun.of_agrees (heffect.agrees slash_notMem_run slash_notMem_release
      (show Release.kind ≠ PipelineRun.kind by decide))

/-- Attempts delete no run, and clients leave runs alone. -/
theorem Scene.Orderly.hasRun_step {seen : String → String → Prop} {σ : Scene}
    (h : σ.Orderly seen) {m : Move} (hm : m.Within StoreCall.IsEdit) {u text : String}
    (hrun : σ.store.HasRun u text) : (σ.step m).store.HasRun u text := by
  cases m with
  | start => exact hrun
  | call uid now c =>
      show (σ.store.perform uid now c).2.HasRun u text
      rcases StoreCall.IsEdit.cases hm with hread | hkind
      · rw [perform_snd_of_isRead hread]
        exact hrun
      · obtain ⟨hslash, hne⟩ := clientKinds_spec hkind
        exact hrun.of_agrees
          ((perform_effect uid now σ.store c).agrees slash_notMem_run hslash hne)
  | advance i uid now fate =>
      rcases σ.step_advance i uid now fate with hstep | ⟨c, next, hi, hstep⟩
      · rw [hstep]
        exact hrun
      · rw [hstep]
        exact (h.underway _ (List.mem_of_getElem? hi)).hasRun_called h.sound hrun uid now fate

section Interleaving

variable {moves : List Move} {u text : String}

/-- A run that was stored once still is. -/
theorem hasRun_of_seen (hmoves : ∀ m ∈ moves, m.Within StoreCall.IsEdit)
    (h : Seen moves u text) : (scene moves).store.HasRun u text := by
  induction moves using List.reverseRecOn with
  | nil =>
      obtain ⟨before, hbefore, hrun⟩ := h
      rwa [List.prefix_nil.mp hbefore] at hrun
  | append_singleton moves m ih =>
      obtain ⟨hmoves, hm⟩ := List.forall_mem_append.mp hmoves
      obtain ⟨before, hbefore, hrun⟩ := h
      rcases List.prefix_concat_iff.mp hbefore with rfl | hbefore
      · exact hrun
      · rw [scene_concat]
        exact (orderly_scene moves).hasRun_step (hm m List.mem_cons_self)
          (ih hmoves ⟨before, hbefore, hrun⟩)

/-! ## The status names a run that was seen -/

/-- Whatever else clients do to runs: the status of every Release can be read, and the run that it
names was once stored with the uid of the Release. -/
theorem status_seen (hmoves : ∀ m ∈ moves, m.Within StoreCall.SparesStatus) {key : RecordKey}
    {q : StoredRecord} (hq : (scene moves).store.get? Release.kind key = some q) :
    ∃ status, q.readStatus? = some status ∧
      ∀ text, status.pipelineRun = some text → Seen moves q.uid text := by
  induction moves using List.reverseRecOn generalizing q with
  | nil => cases hq
  | append_singleton moves m ih =>
      obtain ⟨hmoves, hm⟩ := List.forall_mem_append.mp hmoves
      rw [scene_concat] at hq
      cases (orderly_scene moves).arises (hm m List.mem_cons_self) hq with
      | kept hq =>
          obtain ⟨status, hstatus, hseen⟩ := ih hmoves hq
          exact ⟨status, hstatus, fun text htext => (hseen text htext).concat m⟩
      | created _ hstatus => exact ⟨.empty, hstatus, fun text htext => by cases htext⟩
      | updated hq huid hstatus =>
          obtain ⟨status, hstatus', hseen⟩ := ih hmoves hq
          rw [huid, hstatus]
          exact ⟨status, hstatus', fun text htext => (hseen text htext).concat m⟩
      | noted _ _ _ huid _ hstatus hmarker =>
          rw [huid]
          exact ⟨_, hstatus, fun text htext => (hmarker text htext).concat m⟩

end Interleaving

/-- In every interleaving of attempts with clients that leave runs and the statuses of Releases
alone, the status of every Release can be read, and the run that it names is stored and carries the
uid of the Release. Two Releases with different uids name different runs. -/
theorem own_run_of_marker {moves : List Move} (hmoves : ∀ m ∈ moves, m.Within StoreCall.IsEdit) :
    (∀ key q, (scene moves).store.get? Release.kind key = some q →
      ∃ m status, q.object.recordMetadata = .ok m ∧ m.uid = some q.uid ∧
        q.readStatus? = some status ∧
        ∀ text, status.pipelineRun = some text → (scene moves).store.HasRun q.uid text) ∧
      ∀ j k q p text, (scene moves).store.get? Release.kind j = some q →
        (scene moves).store.get? Release.kind k = some p → q.marker? = some text →
          p.marker? = some text → q.uid = p.uid := by
  have hstatus {key : RecordKey} {q : StoredRecord}
      (hq : (scene moves).store.get? Release.kind key = some q) :
      ∃ status, q.readStatus? = some status ∧
        ∀ text, status.pipelineRun = some text → (scene moves).store.HasRun q.uid text := by
    obtain ⟨status, hstatus, hseen⟩ :=
      status_seen (fun m hm => (hmoves m hm).imp fun _ => StoreCall.IsEdit.sparesStatus) hq
    exact ⟨status, hstatus, fun text htext => hasRun_of_seen hmoves (hseen text htext)⟩
  have hmarked {key : RecordKey} {q : StoredRecord} {text : String}
      (hq : (scene moves).store.get? Release.kind key = some q) (hmarker : q.marker? = some text) :
      (scene moves).store.HasRun q.uid text := by
    obtain ⟨status, hstatus, hruns⟩ := hstatus hq
    rw [StoredRecord.marker?, hstatus] at hmarker
    exact hruns text hmarker
  constructor
  · intro key q hq
    obtain ⟨kind, m, hacc⟩ := (orderly_scene moves).sound.accounted hq
    obtain ⟨status, hstatus, hruns⟩ := hstatus hq
    exact ⟨m, status, hacc.objectMetadata, hacc.uid, hstatus, hruns⟩
  · intro j k q p text hq hp hqmarker hpmarker
    exact (hmarked hq hqmarker).unique (hmarked hp hpmarker)

/-- A client creates a record. -/
def Move.create (uid : String) {ρ : Type} [Record ρ] (r : ρ) : Move :=
  .call uid "" (.create (Record.kind ρ) (Record.toJson r))

/-- Two attempts make their calls in turn. -/
def Move.turns (n : Nat) : List Move :=
  (List.range n).flatMap fun i =>
    [.advance 0 s!"0-{i}" "" .answered, .advance 1 s!"1-{i}" "" .answered]

/-- Two Releases whose runs go by one name in one workspace, and an attempt on each. The first
Release is created with a status that names a run of its own making; a client writes the status of a
link as well. -/
def namesakes : List Move := [
  .create "1" (ReleaseLink.new ⟨"a", "l"⟩ "t" "app" none),
  .create "2" (ReleaseLink.new ⟨"a-b", "l"⟩ "t" "app" none),
  .create "3" (ReleaseLink.new ⟨"t", "m"⟩ "a" "app" (some "s")),
  .create "4" (ReleaseLink.new ⟨"t", "n"⟩ "a-b" "app" (some "s")),
  .create "5" (ReleaseStrategy.new ⟨"t", "s"⟩ "p" none none []),
  .create "12345678-6" { Release.new ⟨"a", "b-c"⟩ "l" with
    status := { ReleaseStatus.empty with pipelineRun := some "t/forged" } },
  .create "12345678-7" (Release.new ⟨"a-b", "c"⟩ "l"),
  .call "8" "" (.updateStatus ReleaseLink.kind (ReleaseLink.new ⟨"a", "l"⟩ "t" "app" none).toJson),
  .start .strict "" ⟨"a", "b-c"⟩,
  .start .strict "" ⟨"a-b", "c"⟩] ++ Move.turns 7

/-- The run goes to the first Release, the second meets it as a conflict. -/
theorem own_run_of_marker_namesakes :
    (∀ m ∈ namesakes, m.Within StoreCall.IsEdit) ∧
      ∃ q p, (scene namesakes).store.get? Release.kind ⟨"a", "b-c"⟩ = some q ∧
        (scene namesakes).store.get? Release.kind ⟨"a-b", "c"⟩ = some p ∧
        q.marker? = some "t/release-a-b-c-12345678" ∧
        (scene namesakes).store.HasRun q.uid "t/release-a-b-c-12345678" ∧
        p.marker? = none ∧
        p.readStatus?.bind (·.errorMessage?) =
          some "PipelineRun \"t/release-a-b-c-12345678\" already exists" := by
  have hmoves : ∀ m ∈ namesakes, m.Within StoreCall.IsEdit := by decide +kernel
  have hfound : ((scene namesakes).store.get? Release.kind ⟨"a", "b-c"⟩).bind (fun q =>
      ((scene namesakes).store.get? Release.kind ⟨"a-b", "c"⟩).map fun p =>
        (q.marker?, p.marker?, p.readStatus?.bind (·.errorMessage?))) =
      some (some "t/release-a-b-c-12345678", none,
        some "PipelineRun \"t/release-a-b-c-12345678\" already exists") := by decide +kernel
  obtain ⟨q, hq, hfound⟩ := Option.bind_eq_some_iff.mp hfound
  obtain ⟨p, hp, hfacts⟩ := Option.map_eq_some_iff.mp hfound
  rw [Prod.mk.injEq, Prod.mk.injEq] at hfacts
  obtain ⟨hmarker, hnone, herror⟩ := hfacts
  obtain ⟨m, status, -, -, hstatus, hruns⟩ := (own_run_of_marker hmoves).1 _ q hq
  refine ⟨hmoves, q, p, hq, hp, hmarker, hruns _ ?_, hnone, herror⟩
  rw [StoredRecord.marker?, hstatus] at hmarker
  exact hmarker

end Reconcile

end ReleaseControl
