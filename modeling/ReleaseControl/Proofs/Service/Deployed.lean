import ReleaseControl.Proofs.Service.Running
import ReleaseControl.Proofs.Store.Failing

/-! # A deployment is a service

While its loop runs, what a deployment does is a run of the service (`Unfolds`). Handling an event
is one move; an attempt is taken, makes its calls and is given back with nothing in between. Planned
failures become the fates of calls. So what holds after every run of the service holds of a
deployment at every time; a deployment only picks some of the orders. -/

namespace ReleaseControl

open Program

/-! ## Plans -/

namespace Fault

/-- The plan makes no writes of its own and fails only with errors that may pass. -/
def Plain (f : Fault) : Prop :=
  f.writes = [] ∧ ∀ e, f.effect = .failBefore e ∨ f.effect = .failAfter e → e.isTransient

/-- Counting a plan down leaves it plain. -/
theorem plain_plan {c : StoreCall} {faults : List Fault} (h : ∀ f ∈ faults, f.Plain) :
    (∀ f ∈ (plan c faults).1, f.Plain) ∧ ∀ f ∈ (plan c faults).2, f.Plain :=
  forall_plan (fun _ _ hf => hf) (fun _ _ hf => hf) h

end Fault

namespace FaultyStore

/-- All plans are plain. -/
def Plain (s : FaultyStore) : Prop := ∀ f ∈ s.faults, f.Plain

/-- A call has a fate, or the caller crashes before it is made. -/
theorem answer_cases {s : FaultyStore} (h : s.Plain) (c : StoreCall) :
    ∃ s' : FaultyStore, s'.Plain ∧
      ((∃ uid now, ∃ fate : Fate, s'.store = Service.called uid now c fate s.store ∧
          answer c s = (.returned (Service.answer uid now c fate s.store), s')) ∨
        s'.store = s.store ∧ answer c s = (.crashed, s')) := by
  obtain ⟨hhit, hrest⟩ := @Fault.plain_plan c s.faults h
  unfold answer
  generalize Fault.plan c s.faults = planned at hhit hrest
  obtain ⟨hit, faults⟩ := planned
  have hplain : ({ s with faults } : FaultyStore).Plain := hrest
  have hmade : (({ s with faults } : FaultyStore).perform c).2.Plain := hrest
  cases hit with
  | none => exact ⟨_, hmade, .inl ⟨_, _, .answered, rfl, rfl⟩⟩
  | some f =>
      obtain ⟨hwrites, herrors⟩ := hhit f rfl
      -- a plain plan makes no writes, so only its effect counts
      simp only [hwrites, performAll, List.foldl_nil]
      cases heffect : f.effect with
      | pass => exact ⟨_, hmade, .inl ⟨_, _, .answered, rfl, rfl⟩⟩
      | crash => exact ⟨_, hplain, .inr ⟨rfl, rfl⟩⟩
      | failBefore e =>
          exact ⟨_, hplain, .inl ⟨"", "", .failed ⟨e, herrors e (.inl heffect)⟩, rfl, rfl⟩⟩
      | failAfter e =>
          exact ⟨_, hmade, .inl ⟨_, _, .lost ⟨e, herrors e (.inr heffect)⟩, rfl, rfl⟩⟩

end FaultyStore

namespace Deployment

/-- The deployment as a service with the given work and attempts. -/
def service (work : TimedQueue) (attempts : List (RecordKey × Progress)) (d : Deployment) :
    Service :=
  ⟨d.policy, d.backend.store, d.channel, work, attempts⟩

/-- The service that a deployment is while its loop runs; no attempt is under way then. -/
def service? (d : Deployment) : Option Service :=
  d.controller.bind fun c => if c.phase = .running then some (d.service c.work []) else none

theorem service?_eq_some {d : Deployment} {v : Service} :
    d.service? = some v ↔
      ∃ c, d.controller = some c ∧ c.phase = .running ∧ v = d.service c.work [] := by
  unfold service?
  rw [Option.bind_eq_some_iff]
  constructor
  · rintro ⟨c, hc, hv⟩
    split at hv
    · next hphase =>
        cases hv
        exact ⟨c, hc, hphase, rfl⟩
    · cases hv
  · rintro ⟨c, hc, hphase, rfl⟩
    exact ⟨c, hc, if_pos hphase⟩

/-- What is left of the deployment is a run of the service that it was. -/
def Unfolds (d d' : Deployment) : Prop :=
  d.backend.Plain → d'.backend.Plain ∧ ∀ v', d'.service? = some v' →
    ∃ v moves, d.service? = some v ∧ (∀ m ∈ moves, m.Allowed) ∧ v' = v.run moves

namespace Unfolds

theorem refl (d : Deployment) : Unfolds d d :=
  fun hplain => ⟨hplain, fun v' hv' => ⟨v', [], hv', List.forall_mem_nil _, rfl⟩⟩

theorem trans {d d' d'' : Deployment} (h : Unfolds d d') (h' : Unfolds d' d'') :
    Unfolds d d'' := by
  intro hplain
  obtain ⟨hplain', hback⟩ := h hplain
  obtain ⟨hplain'', hback'⟩ := h' hplain'
  refine ⟨hplain'', ?_⟩
  intro v'' hv''
  obtain ⟨v', moves', hv', hallowed', rfl⟩ := hback' v'' hv''
  obtain ⟨v, moves, hv, hallowed, rfl⟩ := hback v' hv'
  refine ⟨v, moves ++ moves', hv, ?_, List.foldl_append.symm⟩
  intro m hm
  exact (List.mem_append.mp hm).elim (hallowed m) (hallowed' m)

end Unfolds

/-! ## The calls of an attempt -/

/-- A call of a deployment has a fate and is published if it was answered, or the caller crashes. -/
theorem answer_cases {d : Deployment} (h : d.backend.Plain) (c : StoreCall) :
    ∃ d' : Deployment, d'.backend.Plain ∧ d'.controller = d.controller ∧
      ((∃ uid now, ∃ fate : Fate,
          answer c d = (.returned (Service.answer uid now c fate d.backend.store), d') ∧
          ∀ work attempts, d'.service work attempts = { d.service work attempts with
            store := Service.called uid now c fate d.backend.store
            channel := d.channel.publish c
              (Service.answer uid now c fate d.backend.store) }) ∨
        answer c d = (.crashed, d') ∧
          ∀ work attempts, d'.service work attempts = d.service work attempts) := by
  obtain ⟨backend, hplain, ⟨uid, now, fate, hstore, heq⟩ | ⟨hstore, heq⟩⟩ :=
    FaultyStore.answer_cases h c
  · refine ⟨{ d with
      backend
      channel := d.channel.publish c (Service.answer uid now c fate d.backend.store) },
      hplain, rfl, .inl ⟨uid, now, fate, ?_, fun work attempts => ?_⟩⟩
    · rw [answer, Handler.published, heq]
    · rw [service, hstore]
      rfl
  · refine ⟨{ d with backend }, hplain, rfl, .inr ⟨?_, ?_⟩⟩
    · rw [answer, Handler.published, heq]
    · intro work attempts
      rw [service, hstore]
      rfl

/-- The calls of an attempt are moves, made one after the other. -/
theorem run_attempt (work : TimedQueue) (k : RecordKey)
    (p : Program (Except ReconcileError Unit)) {d : Deployment} (h : d.backend.Plain) :
    (d.run p).2.backend.Plain ∧ (d.run p).2.controller = d.controller ∧
      ∃ moves q, (∀ m ∈ moves, m.Allowed) ∧ q.outcome? = some (d.run p).1 ∧
        (d.run p).2.service work [(k, q)] = (d.service work [(k, .going p)]).run moves := by
  -- call by call; an attempt that crashes ends there
  induction p generalizing d with
  | done result => exact ⟨h, rfl, [], .going (.done result), List.forall_mem_nil _, rfl, rfl⟩
  | call c next ih =>
      have hget : Assoc.get? k (d.service work [(k, .going (.call c next))]).attempts =
          some (.going (.call c next)) := Assoc.get?_put_self k _ []
      have hput (q : Progress) : Assoc.put k q [(k, .going (.call c next))] = [(k, q)] := by
        simp [Assoc.put]
      obtain ⟨d', hplain, hcontroller, ⟨uid, now, fate, heq, hservice⟩ | ⟨heq, hservice⟩⟩ :=
        answer_cases h c
      · have hrun : d.run (.call c next) =
            d'.run (next (Service.answer uid now c fate d.backend.store)) := by
          rw [run, Program.run, heq]
          rfl
        have hstep : (d.service work [(k, .going (.call c next))]).step (.call k uid now fate) =
            d'.service work
              [(k, .going (next (Service.answer uid now c fate d.backend.store)))] := by
          rw [Service.step, hget]
          show Service.makeCall k uid now fate c next _ = _
          rw [Service.makeCall, hservice, service, hput]
          rfl
        obtain ⟨hplain', hcontroller', moves, q, hallowed, houtcome, hmoves⟩ := ih _ hplain
        rw [hrun]
        refine ⟨hplain', hcontroller'.trans hcontroller, .call k uid now fate :: moves, q,
          List.forall_mem_cons.mpr ⟨trivial, hallowed⟩, houtcome, ?_⟩
        rw [hmoves, ← hstep]
        rfl
      · have hrun : d.run (.call c next) = (.crashed, d') := by
          unfold run Program.run
          rw [heq]
        have hstep : (d.service work [(k, .going (.call c next))]).step (.panic k) =
            d'.service work [(k, .crashed)] := by
          rw [Service.step, hget, hservice, service, hput]
          rfl
        rw [hrun]
        exact ⟨hplain, hcontroller, [.panic k], .crashed, List.forall_mem_singleton.mpr trivial,
          rfl, hstep.symm⟩

/-! ## The loop -/

theorem service?_modifyWork {d : Deployment} {v : Service} (hv : d.service? = some v)
    (f : TimedQueue → TimedQueue) :
    (d.modifyWork f).service? = some { v with work := f v.work } := by
  obtain ⟨c, hc, hphase, rfl⟩ := service?_eq_some.mp hv
  refine service?_eq_some.mpr ⟨{ c with work := f c.work }, ?_, hphase, rfl⟩
  unfold modifyWork modifyController
  rw [hc]
  rfl

/-- A resync of a deployment lists as the service does, or it crashes. -/
theorem resync_cases {d : Deployment} {v : Service} (h : d.backend.Plain)
    (hv : d.service? = some v) :
    ∃ d', d'.backend.Plain ∧ (d.resync = (.crashed, d') ∨
      ∃ reply fate, d.resync = (.returned reply, d') ∧ d'.service? = some (v.relist fate)) := by
  obtain ⟨c, hc, hphase, rfl⟩ := service?_eq_some.mp hv
  obtain ⟨d', hplain, hcontroller, ⟨uid, now, fate, heq, hservice⟩ | ⟨heq, -⟩⟩ :=
    answer_cases h (.list Release.kind .all)
  · -- listing leaves the store and is not published
    have hsame : d'.service? = some (d.service c.work []) := by
      refine service?_eq_some.mpr ⟨c, hcontroller.trans hc, hphase, ?_⟩
      rw [hservice, Service.called_of_isRead rfl]
      cases Service.answer uid now (.list Release.kind .all) fate d.backend.store <;> rfl
    generalize hkeys : (Service.answer uid now (.list Release.kind .all) fate d.backend.store).map
      (fun rs => rs.map fun (r : StoredRecord) => r.key) = found
    have hrun : d.run Worker.storedReleases = (.returned found, d') := by
      rw [← hkeys, run, Worker.storedReleases]
      show Program.run answer (.call (.list Release.kind .all) _) d = _
      unfold Program.run
      rw [heq]
      rfl
    have hlisting : (Worker.storedReleases.run (scripted "" "") ([fate], d.backend.store)).1 =
        .returned found := by
      rw [← hkeys]
      cases fate <;> rfl
    cases found with
    | error e =>
        refine ⟨d', hplain, .inr ⟨.error e, fate, ?_, ?_⟩⟩
        · unfold resync
          rw [hrun]
        · unfold Service.relist service
          rw [hlisting]
          exact hsame
    | ok keys =>
        refine ⟨d'.modifyWork fun t => t.modify (Worker.addAll keys), ?_,
          .inr ⟨.ok keys.length, fate, ?_, ?_⟩⟩
        · exact hplain
        · unfold resync
          rw [hrun]
        · unfold Service.relist service
          rw [hlisting]
          exact service?_modifyWork hsame _
  · have hrun : d.run Worker.storedReleases = (.crashed, d') := by
      rw [run, Worker.storedReleases]
      show Program.run answer (.call (.list Release.kind .all) _) d = _
      unfold Program.run
      rw [heq]
    refine ⟨d', hplain, .inl ?_⟩
    unfold resync
    rw [hrun]

/-- A deployment whose loop has ended is no service. -/
theorem service?_of_map {d : Deployment} {cs : Option Controller} {phase : Phase}
    {f : Controller → Controller} (hd : d.controller = cs.map f) (hf : ∀ c, (f c).phase = phase)
    (hphase : phase ≠ .running) : d.service? = none := by
  rw [Option.eq_none_iff_forall_ne_some]
  intro v hv
  obtain ⟨c, hc, hrunning, -⟩ := service?_eq_some.mp hv
  obtain ⟨c', -, rfl⟩ := Option.map_eq_some_iff.mp (hd.symm.trans hc)
  exact hphase ((hf c').symm.trans hrunning)

/-- The loop's handling of what it received is a move, unless it ends the loop. -/
theorem unfolds_handle {d : Deployment} {r : Received} {channel : Channel}
    (hphase : d.phase? = some .running)
    (hreceive : d.channel.receive? controllerReceiver = some (r, channel)) :
    Unfolds d (handle r { d with channel }) := by
  intro hplain
  obtain ⟨c, hc, hrunning⟩ := Option.map_eq_some_iff.mp hphase
  have hbefore : d.service? = some (d.service c.work []) :=
    service?_eq_some.mpr ⟨c, hc, hrunning, rfl⟩
  have hv : ({ d with channel } : Deployment).service? =
      some (({ d with channel } : Deployment).service c.work []) :=
    service?_eq_some.mpr ⟨c, hc, hrunning, rfl⟩
  -- it is enough to find the fate of the listing, if there is one
  have hmove (d' : Deployment) (fate : Fate) (hplain' : d'.backend.Plain)
      (hd' : d'.service? = some
        ((({ d with channel } : Deployment).service c.work []).handle fate r)) :
      d'.backend.Plain ∧ ∀ v', d'.service? = some v' →
        ∃ v moves, d.service? = some v ∧ (∀ m ∈ moves, m.Allowed) ∧ v' = v.run moves := by
    refine ⟨hplain', fun v' hv' => ⟨_, [.receive fate], hbefore,
      List.forall_mem_singleton.mpr trivial, ?_⟩⟩
    show v' = (d.service c.work []).step (.receive fate)
    unfold Service.step service
    rw [hreceive]
    exact Option.some.inj (hv'.symm.trans hd')
  cases r with
  | event e => exact hmove _ .answered hplain (service?_modifyWork hv _)
  | empty => exact hmove _ .answered hplain hv
  -- the loop ends, and with it the service
  | closed =>
      refine ⟨hplain, ?_⟩
      intro v' hv'
      have hnone : (({ d with channel } : Deployment).stop).service? = none :=
        service?_of_map rfl (fun _ => rfl) (by decide)
      cases hnone.symm.trans hv'
  | lagged lost =>
      obtain ⟨d', hplain', hresync | ⟨reply, fate, hresync, hd'⟩⟩ :=
        @resync_cases { d with channel } _ hplain hv
      · rw [handle, hresync]
        refine ⟨hplain', ?_⟩
        intro v' hv'
        have hnone : d'.behead.service? = none :=
          service?_of_map rfl (fun _ => rfl) (by decide)
        cases hnone.symm.trans hv'
      · rw [handle, hresync]
        exact hmove d' fate hplain' hd'

theorem unfolds_handleEvents (n : Nat) (d : Deployment) : Unfolds d (handleEvents n d) := by
  induction n generalizing d with
  | zero => exact .refl d
  | succ n ih =>
      unfold handleEvents
      split
      · exact .refl d
      · next r channel _ hphase hreceive => exact (unfolds_handle hphase hreceive).trans (ih _)
      · exact .refl d

/-! ## The workers -/

theorem takeKey_eq_some {d d' : Deployment} {k : RecordKey} (h : d.takeKey = some (k, d')) :
    ∃ c queue, d.controller = some c ∧ c.work.queue.next = (.key k, queue) ∧
      d' = { d with controller := some { c with work := { c.work with queue } } } := by
  unfold takeKey at h
  cases hc : d.controller with
  | none =>
      rw [hc] at h
      cases h
  | some c =>
      simp only [hc] at h
      split at h
      · cases hnext : c.work.queue.next with
        | mk n queue =>
            rw [hnext] at h
            cases n with
            | pending | closed => cases h
            | key k' =>
                cases h
                exact ⟨c, queue, rfl, hnext, rfl⟩
      · cases h

/-- A worker takes a key. -/
theorem step_take {work : TimedQueue} {queue : WorkQueue} {k : RecordKey}
    (hnext : work.queue.next = (.key k, queue)) (now : String) (d : Deployment) :
    (d.service work []).step (.take now) =
      d.service { work with queue } [(k, .going (Reconcile.attempt d.policy now k))] := by
  rw [Service.step, service, hnext]
  rfl

/-- It gives the key back. -/
theorem step_conclude {q : Progress} {o : Outcome (Except ReconcileError Unit)}
    (houtcome : q.outcome? = some o) (work : TimedQueue) (k : RecordKey) (d : Deployment) :
    (d.service work [(k, q)]).step (.conclude k) = d.service (Worker.conclude k o work) [] := by
  have hget : Assoc.get? k [(k, q)] = some q := Assoc.get?_put_self k q []
  have hnone : Assoc.remove k [(k, q)] = [] := by simp [Assoc.remove]
  rw [Service.step, service, hget, Option.bind_some, houtcome, hnone]
  rfl

/-- A worker's attempt is taken, made and given back. -/
theorem unfolds_attempt {d d' : Deployment} {k : RecordKey} (htake : d.takeKey = some (k, d')) :
    Unfolds d ((d'.reconcile d'.policy k).2.modifyWork
      (Worker.conclude k (d'.reconcile d'.policy k).1)) := by
  intro hplain
  obtain ⟨c, queue, hc, hnext, hd'⟩ := takeKey_eq_some htake
  have hplain' : d'.backend.Plain := by
    rw [hd']
    exact hplain
  obtain ⟨hafter, hcontroller, moves, q, hallowed, houtcome, hmoves⟩ :=
    run_attempt { c.work with queue } k (Reconcile.attempt d'.policy d'.backend.now k) hplain'
  refine ⟨hafter, ?_⟩
  intro v' hv'
  obtain ⟨c'', hc'', hrunning, rfl⟩ := service?_eq_some.mp hv'
  -- the worker found the controller as it was but for the key
  have hgiven : c'' = { c with
      work := Worker.conclude k (d'.reconcile d'.policy k).1 { c.work with queue } } := by
    obtain ⟨c', hc', rfl⟩ := Option.map_eq_some_iff.mp hc''
    rw [reconcile, hcontroller, hd'] at hc'
    cases hc'
    rfl
  rw [hgiven] at hrunning ⊢
  have htaken : (d.service c.work []).step (.take d.backend.now) =
      d'.service { c.work with queue }
        [(k, .going (Reconcile.attempt d'.policy d'.backend.now k))] := by
    rw [step_take hnext, hd']
    rfl
  refine ⟨d.service c.work [], .take d.backend.now :: (moves ++ [.conclude k]),
    service?_eq_some.mpr ⟨c, hc, hrunning, rfl⟩, ?_, ?_⟩
  · refine List.forall_mem_cons.mpr ⟨trivial, ?_⟩
    intro m hm
    rcases List.mem_append.mp hm with hm | hm
    · exact hallowed m hm
    · cases List.mem_singleton.mp hm
      trivial
  · calc (d'.reconcile d'.policy k).2.service
          (Worker.conclude k (d'.reconcile d'.policy k).1 { c.work with queue }) []
      _ = ((d'.reconcile d'.policy k).2.service { c.work with queue } [(k, q)]).step
          (.conclude k) := (step_conclude houtcome _ k _).symm
      _ = (((d.service c.work []).step (.take d.backend.now)).run moves).run [.conclude k] := by
        rw [htaken, ← hmoves]
        rfl
      _ = ((d.service c.work []).step (.take d.backend.now)).run (moves ++ [.conclude k]) :=
        (Service.run_append _ moves [.conclude k]).symm

theorem unfolds_workKeys (n : Nat) (d : Deployment) : Unfolds d (workKeys n d) := by
  induction n generalizing d with
  | zero => exact .refl d
  | succ n ih =>
      unfold workKeys
      split
      · exact .refl d
      · next htake => exact (unfolds_attempt htake).trans (ih _)

/-! ## Time -/

theorem unfolds_takeTurns (n : Nat) (d : Deployment) : Unfolds d (takeTurns n d) := by
  induction n generalizing d with
  | zero => exact .refl d
  | succ n ih =>
      unfold takeTurns
      split
      · exact ((unfolds_handleEvents _ d).trans (unfolds_workKeys _ _)).trans (ih _)
      · exact .refl d

theorem unfolds_settle (d : Deployment) : Unfolds d d.settle := unfolds_takeTurns _ d

theorem unfolds_tick (d : Deployment) : Unfolds d d.tick := by
  intro hplain
  refine ⟨hplain, ?_⟩
  intro v' hv'
  obtain ⟨c', hc', hrunning, rfl⟩ := service?_eq_some.mp hv'
  obtain ⟨c, hc, rfl⟩ := Option.map_eq_some_iff.mp hc'
  exact ⟨_, [.tick], service?_eq_some.mpr ⟨c, hc, hrunning, rfl⟩,
    List.forall_mem_singleton.mpr trivial, rfl⟩

theorem unfolds_advance (n : Nat) (d : Deployment) : Unfolds d (advance n d) := by
  induction n generalizing d with
  | zero => exact .refl d
  | succ n ih => exact ((unfolds_tick d).trans (unfolds_settle d.tick)).trans (ih _)

/-! ## Clients -/

/-- A client's call that no plan is for is a move. -/
theorem unfolds_answer {d : Deployment} {c : StoreCall} (hordered : c.Ordered)
    (hmethod : c.method ≠ .updateStatus) (hhit : (Fault.plan c d.backend.faults).1 = none) :
    Unfolds d (answer c d).2 := by
  intro hplain
  have hrest := (@Fault.plain_plan c d.backend.faults hplain).2
  have hmade : FaultyStore.answer c d.backend =
      (.returned (d.backend.store.perform (numberedUid (d.backend.created + 1)) d.backend.now c).1,
        ({ d.backend with faults := (Fault.plan c d.backend.faults).2 } : FaultyStore).perform c
          |>.2) := by
    unfold FaultyStore.answer
    generalize Fault.plan c d.backend.faults = planned at hhit
    obtain ⟨hit, faults⟩ := planned
    cases hhit
    rfl
  rw [answer, Handler.published, hmade]
  refine ⟨hrest, ?_⟩
  intro v' hv'
  obtain ⟨ctrl, hc, hrunning, rfl⟩ := service?_eq_some.mp hv'
  exact ⟨_, [.client (numberedUid (d.backend.created + 1)) d.backend.now c],
    service?_eq_some.mpr ⟨ctrl, hc, hrunning, rfl⟩,
    List.forall_mem_singleton.mpr ⟨hordered, hmethod⟩, rfl⟩

/-! ## From the start -/

/-- A deployment with an empty store whose loop was just started. -/
def launched (policy : AmbiguityPolicy) (backoff : Backoff) (workers : Nat) (now : String)
    (channel : Channel) : Deployment :=
  (withController backoff workers
    ⟨⟨.empty Chain.indexes, [], 0, now⟩, channel.subscribe controllerReceiver, policy, none⟩).start

/-- What can become of a launched deployment. -/
inductive Driven (d : Deployment) : Deployment → Prop where
  | untouched : Driven d d
  | plan {d' : Deployment} {f : Fault} (h : Driven d d') (hf : f.Plain) :
    Driven d { d' with backend := { d'.backend with faults := d'.backend.faults ++ [f] } }
  | client {d' : Deployment} {c : StoreCall} (h : Driven d d') (hordered : c.Ordered)
    (hmethod : c.method ≠ .updateStatus) (hhit : (Fault.plan c d'.backend.faults).1 = none) :
    Driven d (answer c d').2
  | settle {d' : Deployment} (h : Driven d d') : Driven d d'.settle
  | advance {d' : Deployment} (h : Driven d d') (n : Nat) : Driven d (advance n d')

theorem Driven.unfolds {d d' : Deployment} (h : Driven d d') : Unfolds d d' := by
  induction h with
  | untouched => exact .refl d
  | client h hordered hmethod hhit ih => exact ih.trans (unfolds_answer hordered hmethod hhit)
  | settle h ih => exact ih.trans (unfolds_settle _)
  | advance h n ih => exact ih.trans (unfolds_advance n _)
  | plan h hf ih =>
      intro hplain
      obtain ⟨hplain', hback⟩ := ih hplain
      refine ⟨?_, hback⟩
      intro f' hf'
      rcases List.mem_append.mp hf' with hold | hnew
      · exact hplain' f' hold
      · cases List.mem_singleton.mp hnew
        exact hf

theorem launched_eq (policy : AmbiguityPolicy) (backoff : Backoff) (workers : Nat) (now : String)
    (channel : Channel) : launched policy backoff workers now channel =
      ⟨⟨.empty Chain.indexes, [], 0, now⟩, channel.subscribe controllerReceiver, policy,
        some ⟨.new backoff, max workers 1, .running⟩⟩ := by
  have hsubscribed : Assoc.contains controllerReceiver
      (channel.subscribe controllerReceiver).receivers := by
    unfold Assoc.contains Channel.subscribe
    rw [Assoc.get?_put_self]
    rfl
  exact if_pos hsubscribed

/-- While its loop runs, a deployment is a service that was launched and made some moves. -/
theorem Driven.exists_run {policy : AmbiguityPolicy} {backoff : Backoff} {workers : Nat}
    {now : String} {channel : Channel} {d : Deployment} {v : Service}
    (h : Driven (launched policy backoff workers now channel) d) (hv : d.service? = some v) :
    ∃ moves, (∀ m ∈ moves, m.Allowed) ∧
      v = (Service.launch policy backoff channel).run moves := by
  have hunfolds := h.unfolds
  rw [launched_eq] at hunfolds
  obtain ⟨-, hback⟩ := hunfolds (List.forall_mem_nil _)
  obtain ⟨v₀, moves, hv₀, hallowed, rfl⟩ := hback v hv
  cases hv₀
  exact ⟨moves, hallowed, rfl⟩

/-- So it keeps its books. -/
theorem Driven.running {policy : AmbiguityPolicy} {backoff : Backoff} {workers n : Nat}
    {now : String} {channel : Channel} {d : Deployment} {v : Service}
    (hchannel : Channel.new? n = some channel)
    (h : Driven (launched policy backoff workers now channel) d) (hv : d.service? = some v) :
    v.Running := by
  obtain ⟨moves, hallowed, rfl⟩ := h.exists_run hv
  exact (Service.running_launch policy backoff hchannel).run hallowed

end Deployment

end ReleaseControl
