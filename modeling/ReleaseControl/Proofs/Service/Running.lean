import ReleaseControl.Proofs.Service.Obligation
import ReleaseControl.Proofs.Store.Listing
import ReleaseControl.Proofs.Watch.Reception

/-! # The service keeps its books

Whatever moves a service makes, its store is sound, its loop is subscribed, its queue knows which
keys workers have, and every attempt under way has read nothing yet, owes what it read, or has come
to its end. -/

namespace ReleaseControl.Service

open Program Store Reconcile

/-- How far the attempt on a key can have come. -/
inductive Stage (policy : AmbiguityPolicy) (s : Store) (k : RecordKey) : Progress → Prop where
  | unread (now : String) : Stage policy s k (.going (attempt policy now k))
  | owing {r : Release} {rest : Program (Except ReconcileError Unit)} (hr : Snapshot s k r)
      (hrest : Owes r rest) : Stage policy s k (.going rest)
  | through (result : Except ReconcileError Unit) : Stage policy s k (.going (.done result))
  | crashed : Stage policy s k .crashed

structure Running (v : Service) : Prop where
  sound : v.store.Sound
  ordered : v.store.Ordered
  steady : v.channel.Steady Deployment.controllerReceiver
  proper : v.work.queue.Proper fun k => (Assoc.get? k v.attempts).isSome
  stage : ∀ {k : RecordKey} {p : Progress}, Assoc.get? k v.attempts = some p →
    Stage v.policy v.store k p

theorem Stage.effect {policy : AmbiguityPolicy} {s s' : Store} {k : RecordKey} {p : Progress}
    {uid now : String} {c : StoreCall} (h : Stage policy s k p) (heffect : Effect uid now s c s') :
    Stage policy s' k p := by
  cases h with
  | unread now => exact .unread now
  | owing hr hrest => exact .owing (hr.effect heffect) hrest
  | through result => exact .through result
  | crashed => exact .crashed

/-! ## The next call of an attempt -/

variable {errors : StoreError → Prop}

theorem called_effect (uid now : String) (c : StoreCall) (fate : FateOf errors) (s : Store) :
    Effect uid now s c (called uid now c fate s) := by
  unfold called
  split
  · exact perform_effect uid now s c
  · exact .nothing c

theorem called_of_isRead {c : StoreCall} (h : c.isRead) (uid now : String)
    (fate : FateOf errors) (s : Store) : called uid now c fate s = s := by
  unfold called
  split
  · exact perform_snd_of_isRead h uid now s
  · rfl

section Call

variable {policy : AmbiguityPolicy} {s : Store} {k : RecordKey} {c : StoreCall}
  {next : Except StoreError c.Reply → Program (Except ReconcileError Unit)} {uid now : String}

/-- Reading the Release: it is closed or it will be seen to. -/
theorem Stage.call_attempt (hs : s.Sound) (uid now : String) {started : String} (fate : Fate)
    (hattempt : attempt policy started k = .call c next) :
    c = .get Release.kind k ∧
      Stage policy s k (.going (next (answer uid now c fate s))) ∧
      ((Progress.going (next (answer uid now c fate s))).holdsOn ∨
        ∀ r, s.read? Release k = some r → r.isFinished) := by
  obtain ⟨next', heq, hfails, hnone, hmistyped, htyped⟩ := attempt_call policy started k
  cases heq.symm.trans hattempt
  refine ⟨rfl, ?_⟩
  have hretry (e : TransientError) :
      Stage policy s k (.going (next' (.error e.1))) ∧
        ((Progress.going (next' (.error e.1))).holdsOn ∨
          ∀ r, s.read? Release k = some r → r.isFinished) := by
    rw [hfails]
    exact ⟨.through _, .inl e.2⟩
  cases fate with
  | failed e => exact hretry e
  | lost e => exact hretry e
  | answered =>
      show Stage policy s k (.going (next' (.ok (s.get? Release.kind k)))) ∧
        ((Progress.going (next' (.ok (s.get? Release.kind k)))).holdsOn ∨ _)
      cases hget : s.get? Release.kind k with
      | none =>
          rw [hnone]
          refine ⟨.through _, .inr ?_⟩
          intro r hr
          obtain ⟨stored, hstored, -⟩ := read?_eq_some.mp hr
          cases hget.symm.trans hstored
      | some stored =>
          cases hr : (stored.typed : Except StoreError Release) with
          | error e =>
              rw [hmistyped stored e hr]
              refine ⟨.through _, .inr ?_⟩
              intro r hread
              obtain ⟨stored', hstored, hr'⟩ := read?_eq_some.mp hread
              cases hget.symm.trans hstored
              cases hr.symm.trans hr'
          | ok r =>
              have hread : s.read? Release k = some r := read?_eq_some.mpr ⟨stored, hget, hr⟩
              rw [htyped stored r hr]
              split
              · next hfinished =>
                  refine ⟨.through _, .inr ?_⟩
                  intro r' hr'
                  cases hread.symm.trans hr'
                  exact hfinished
              · next hopen =>
                  have howes : Owes r ((verdict policy r).bind (report started r)) :=
                    owes_verdict (Bool.eq_false_iff.mpr hopen)
                  exact ⟨.owing (.of_read hs hread) howes, .inl howes.holdsOn⟩

/-- What one call of an attempt makes of its Release and of the others. -/
theorem Stage.call (h : Stage policy s k (.going (.call c next))) (hs : s.Sound)
    (uid now : String) (fate : Fate) :
    c.Ordered ∧
      Stage policy (called uid now c fate s) k (.going (next (answer uid now c fate s))) ∧
      (∀ key : RecordKey, key.text ≠ k.text →
        (called uid now c fate s).read? Release key = s.read? Release key) ∧
      ((Progress.going (next (answer uid now c fate s))).holdsOn ∨
        ∀ r, (called uid now c fate s).read? Release k = some r → r.isFinished) := by
  generalize hp : Progress.going (.call c next) = p at h
  cases h with
  | through result => cases hp
  | crashed => cases hp
  | unread started =>
      obtain ⟨rfl, hstage, hholds⟩ :=
        call_attempt hs uid now fate (Progress.going.inj hp).symm
      rw [called_of_isRead rfl]
      exact ⟨trivial, hstage, fun _ _ => rfl, hholds⟩
  | @owing r rest hr hrest =>
      cases hp
      have hkept := hr.effect (called_effect uid now c fate s)
      refine ⟨hrest.ordered, ?_, fun key hkey => hrest.read?_called hs hr fate hkey, ?_⟩
      · rcases hrest.answer hs hr fate with howes | ⟨⟨v, hv⟩, -⟩
        · exact .owing hkept howes
        · rw [hv]
          exact .through v
      · exact (hrest.answer hs hr fate).imp Owes.holdsOn And.right

/-- A call of an attempt reads, or it writes a Release or a run. -/
theorem Stage.isRead_or_kind (h : Stage policy s k (.going (.call c next))) :
    c.isRead ∨ c.kind = Release.kind ∨ c.kind = PipelineRun.kind := by
  generalize hp : Progress.going (.call c next) = p at h
  cases h with
  | through result => cases hp
  | crashed => cases hp
  | unread started =>
      obtain ⟨next', heq, -⟩ := attempt_call policy started k
      cases heq.symm.trans (Progress.going.inj hp).symm
      exact .inl rfl
  | owing hr hrest =>
      cases hp
      cases hrest with
      | note | noteRetry => exact .inr (.inl rfl)
      | ask hc =>
          rcases hc with hread | ⟨run, rfl⟩
          · exact .inl hread
          · exact .inr (.inr rfl)

end Call

theorem running_launch (policy : AmbiguityPolicy) (backoff : Backoff) {channel : Channel} {n : Nat}
    (h : Channel.new? n = some channel) : (launch policy backoff channel).Running where
  sound := sound_empty _
  ordered := ordered_empty _
  steady := Channel.steady_subscribe h _
  proper := by
    apply (WorkQueue.proper_new backoff).congr
    intro k
    exact ⟨False.elim, fun hk => by cases hk⟩
  stage hk := by cases hk

/-! ## Listing all Releases -/

/-- What was listed is queued. -/
theorem relist_answered {v : Service} {rs : List StoredRecord}
    (hlist : v.store.list Release.kind .all = .ok rs) : v.relist .answered =
      { v with work := v.work.modify (Worker.addAll (rs.map fun q => q.key)) } := by
  have hrun : (Worker.storedReleases.run (scripted "" "") ([.answered], v.store)).1 =
      .returned ((v.store.list Release.kind .all).map fun rs => rs.map fun q => q.key) := rfl
  unfold relist
  rw [hrun, hlist]
  rfl

/-- What a resync does. -/
theorem relist_eq {v : Service} (hs : v.store.Sound) (fate : Fate) :
    (fate ≠ .answered ∧ v.relist fate = v) ∨
      fate = .answered ∧ ∃ keys, v.relist fate =
          { v with work := v.work.modify (Worker.addAll keys) } ∧
        ∀ key q, v.store.get? Release.kind key = some q → q.kind = Release.kind →
          ∃ k ∈ keys, k.text = key.text := by
  cases fate with
  | failed e => exact .inl ⟨nofun, rfl⟩
  | lost e => exact .inl ⟨nofun, rfl⟩
  | answered =>
      obtain ⟨rs, hlist, -, hall⟩ := exists_list_all hs Release.kind (q := .all) rfl
      refine .inr ⟨rfl, rs.map fun q => q.key, relist_answered hlist, ?_⟩
      intro key q hget hkind
      obtain ⟨kind', m, hacc⟩ := hs.accounted hget
      -- every record has metadata, and nothing is asked of them
      have hmem : q ∈ rs :=
        (hall q).mpr ⟨⟨_, hget⟩, hkind, m, hacc.objectMetadata, Query.fits_all m⟩
      refine ⟨q.key, List.mem_map.mpr ⟨q, hmem, rfl⟩, ?_⟩
      have hplace := hacc.place
      rw [hkind] at hplace
      exact (slot_eq_iff.mp hplace).symm

/-! ## The moves -/

namespace Running

variable {v : Service}

theorem relist (h : v.Running) (fate : Fate) : (v.relist fate).Running := by
  rcases relist_eq h.sound fate with ⟨-, hsame⟩ | ⟨-, keys, heq, -⟩
  · rw [hsame]
    exact h
  · rw [heq]
    exact ⟨h.sound, h.ordered, h.steady, h.proper.foldl_add keys, h.stage⟩

theorem client (h : v.Running) {uid now : String} {c : StoreCall}
    (hc : (Move.client uid now c).Allowed) : (v.step (.client uid now c)).Running := by
  have heffect := perform_effect uid now v.store c
  exact ⟨heffect.sound h.sound, heffect.ordered h.ordered hc.1, h.steady.publish c _,
    h.proper, fun hk => (h.stage hk).effect heffect⟩

theorem tick (h : v.Running) : (v.step .tick).Running :=
  ⟨h.sound, h.ordered, h.steady, TimedQueue.proper_tick h.proper, h.stage⟩

theorem receive (h : v.Running) (fate : Fate) : (v.step (.receive fate)).Running := by
  obtain ⟨r, channel, hreceive, hsteady, -⟩ := h.steady.receive
  have hnext : ({ v with channel } : Service).Running :=
    ⟨h.sound, h.ordered, hsteady, h.proper, h.stage⟩
  unfold step
  rw [hreceive]
  cases r with
  | lagged lost => exact hnext.relist fate
  | empty | closed => exact hnext
  | event e =>
      refine ⟨h.sound, h.ordered, hsteady, ?_, h.stage⟩
      show ((Worker.enqueue e v.work.queue).2).Proper _
      unfold Worker.enqueue
      split
      · exact h.proper.add e.key
      · exact h.proper

/-- Changing how far attempts have come. -/
theorem progress {attempts : List (RecordKey × Progress)} (h : v.Running)
    (hbusy : ∀ k, (Assoc.get? k v.attempts).isSome ↔ (Assoc.get? k attempts).isSome)
    (hstage : ∀ {k p}, Assoc.get? k attempts = some p → Stage v.policy v.store k p) :
    ({ v with attempts } : Service).Running :=
  ⟨h.sound, h.ordered, h.steady, h.proper.congr hbusy, hstage⟩

theorem take (h : v.Running) (now : String) : (v.step (.take now)).Running := by
  unfold step
  cases hnext : v.work.queue.next with
  | mk n queue =>
      cases n with
      | pending | closed => exact h
      | key k =>
          -- the key was waiting, so no attempt was on it
          obtain ⟨-, hproper, -⟩ := h.proper.next hnext
          refine ⟨h.sound, h.ordered, h.steady, hproper.congr ?_, ?_⟩
          · intro j
            rw [Assoc.get?_put]
            by_cases hj : j = k <;> simp [hj]
          · intro j p hj
            rcases Assoc.eq_or_of_get?_put hj with ⟨rfl, rfl⟩ | hold
            · exact .unread now
            · exact h.stage hold

/-- The key of an attempt is with a worker. -/
theorem busy (h : v.Running) {k : RecordKey} (hk : (Assoc.get? k v.attempts).isSome) :
    (v.work.queue.state? k).isSome := by
  rcases (h.proper.busy k).mp hk with hstate | hstate <;>
  · rw [hstate]
    rfl

/-- An attempt that is under way stays so when it gets further. -/
theorem busy_put {k : RecordKey} {p : Progress} (hk : Assoc.get? k v.attempts = some p)
    (p' : Progress) (j : RecordKey) :
    (Assoc.get? j v.attempts).isSome ↔ (Assoc.get? j (Assoc.put k p' v.attempts)).isSome := by
  rw [Assoc.get?_put]
  split
  · next heq =>
      rw [heq, hk]
      exact ⟨fun _ => rfl, fun _ => rfl⟩
  · exact Iff.rfl

theorem makeCall (h : v.Running) {k : RecordKey} {c : StoreCall}
    {next : Except StoreError c.Reply → Program (Except ReconcileError Unit)}
    (hk : Assoc.get? k v.attempts = some (.going (.call c next))) (uid now : String)
    (fate : Fate) : (v.makeCall k uid now fate c next).Running := by
  have heffect := called_effect uid now c fate v.store
  obtain ⟨hordered, hstage, -, -⟩ := (h.stage hk).call h.sound uid now fate
  -- the attempt on `k` is one call further, to the others the call is an effect on the store
  refine ⟨heffect.sound h.sound, heffect.ordered h.ordered hordered, h.steady.publish c _,
    h.proper.congr (busy_put hk _), ?_⟩
  intro j p hj
  rcases Assoc.eq_or_of_get?_put hj with ⟨rfl, rfl⟩ | hold
  · exact hstage
  · exact (h.stage hold).effect heffect

theorem call (h : v.Running) (k : RecordKey) (uid now : String) (fate : Fate) :
    (v.step (.call k uid now fate)).Running := by
  rw [step]
  split
  · next hk => exact h.makeCall hk uid now fate
  · exact h

theorem panic (h : v.Running) (k : RecordKey) : (v.step (.panic k)).Running := by
  rw [step]
  split
  · next hk =>
      apply h.progress (busy_put hk _)
      intro j p hj
      rcases Assoc.eq_or_of_get?_put hj with ⟨rfl, rfl⟩ | hold
      · exact .crashed
      · exact h.stage hold
  · exact h

theorem conclude (h : v.Running) (k : RecordKey) : (v.step (.conclude k)).Running := by
  rw [step]
  cases hk : Assoc.get? k v.attempts with
  | none => exact h
  | some p =>
      rw [Option.bind_some]
      cases ho : p.outcome? with
      | none => exact h
      | some o =>
          have hbusy : (Assoc.get? k v.attempts).isSome := by rw [hk]; rfl
          refine ⟨h.sound, h.ordered, h.steady,
            (Worker.proper_conclude h.proper hbusy o).congr ?_, ?_⟩
          · intro j
            rw [Assoc.get?_remove]
            by_cases hj : j = k <;> simp [hj]
          · intro j p hj
            exact h.stage (Assoc.of_get?_remove hj).2

theorem step (h : v.Running) {m : Move} (hm : m.Allowed) : (v.step m).Running := by
  cases m with
  | client uid now c => exact h.client hm
  | tick => exact h.tick
  | receive fate => exact h.receive fate
  | resync => exact h.relist .answered
  | take now => exact h.take now
  | call k uid now fate => exact h.call k uid now fate
  | panic k => exact h.panic k
  | conclude k => exact h.conclude k

theorem run (h : v.Running) {moves : List Move} (hmoves : ∀ m ∈ moves, m.Allowed) :
    (v.run moves).Running := by
  induction moves generalizing v with
  | nil => exact h
  | cons m rest ih =>
      exact ih (h.step (hmoves m List.mem_cons_self)) fun m' hm' =>
        hmoves m' (List.mem_cons_of_mem m hm')

end Running

end ReleaseControl.Service
