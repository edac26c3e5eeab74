import ReleaseControl.Proofs.Service.Running

/-! # No Release is lost

A Release needs work as long as it is stored, can be read and has neither a run nor a settled
condition for its generation. The controller keeps it when the queue knows its key, a timer is set
for the key, or the channel still has something to tell. Which attempts will come back to a key is
decided before they give it back, so the proof goes by a stronger property (`Awaited`): something is
due for the Release, or the channel will tell.

Every move hands that over, with three exceptions (`Slips`). The loop hears that events were lost
and cannot list the Releases; it can, but the Release was last written under another kind that
shares its slot and the list passes over it; or a client writes it under such a kind and the event
is not taken for that of a Release. Whether a Release is lost is decided by these moves alone
(`kept_iff_not_loses`). Keys are compared by their texts, as slots are. -/

namespace ReleaseControl.Service

open Program Store Reconcile

/-! ## What the controller has to keep -/

/-- A Release is read at the key and nothing has been decided for it. -/
def Needs (v : Service) (key : RecordKey) : Prop :=
  ∃ r, v.store.read? Release key = some r ∧ r.isFinished = false

/-- The loop queues the key when it gets the event. -/
def Calls (key : RecordKey) (e : WatchEvent) : Prop :=
  e.isAccepted ∧ e.key.text = key.text

/-- An event about the Release waits for the loop, or news that events were lost. -/
def Announced (v : Service) (key : RecordKey) : Prop :=
  v.channel.Pending Deployment.controllerReceiver (Calls key)

/-- The queue knows the key, or a timer is set for it. -/
def Tracked (v : Service) (key : RecordKey) : Prop :=
  ∃ k : RecordKey, k.text = key.text ∧ ((v.work.queue.state? k).isSome ∨ v.work.HasTimer k)

/-- No Release that needs work is lost. -/
def Kept (v : Service) : Prop :=
  ∀ key, v.Needs key → v.Tracked key ∨ v.Announced key

/-- The key comes up again: it is due, it has a timer or an attempt holds on to it. -/
def Seen (v : Service) (k : RecordKey) : Prop :=
  (v.work.queue.Due k ∨ v.work.HasTimer k) ∨
    ∃ p, Assoc.get? k v.attempts = some p ∧ p.holdsOn

/-- The controller will look at the Release. -/
def Awaited (v : Service) (key : RecordKey) : Prop :=
  v.Announced key ∨ ∃ k : RecordKey, k.text = key.text ∧ v.Seen k

/-- The moves at which a Release can get out of sight. -/
inductive Slips (v : Service) (key : RecordKey) : Move → Prop where
  /-- Events were lost and the Releases cannot be listed. -/
  | unlisted {fate : Fate} {lost : Nat} {channel : Channel}
      (hreceive : v.channel.receive? Deployment.controllerReceiver = some (.lagged lost, channel))
      (hfate : fate ≠ .answered) : Slips v key (.receive fate)
  /-- Events were lost and the list passes over the Release. -/
  | overlooked {fate : Fate} {lost : Nat} {channel : Channel} {q : StoredRecord}
      (hreceive : v.channel.receive? Deployment.controllerReceiver = some (.lagged lost, channel))
      (hq : v.store.get? Release.kind key = some q) (hkind : q.kind ≠ Release.kind) :
      Slips v key (.receive fate)
  /-- A client writes the Release under another kind. -/
  | unheard {uid now kind : String} {object : Json} {stored : StoredRecord}
      (hwrite : (v.store.update kind object).1 = .ok stored) (hkind : kind ≠ Release.kind)
      (hslot : slot kind stored.key = slot Release.kind key) :
      Slips v key (.client uid now (.update kind object))

/-- The move loses a Release: it is one of those, and nothing else will look at the Release. -/
def Loses (v : Service) (m : Move) : Prop :=
  ∃ key, v.Slips key m ∧ (v.step m).Needs key ∧ ¬ (v.step m).Awaited key

variable {v : Service} {key : RecordKey}

/-- What is awaited is kept. -/
theorem Awaited.kept (h : v.Awaited key) (hv : v.Running) : v.Tracked key ∨ v.Announced key := by
  rcases h with htold | ⟨k, hk, (hdue | htimer) | ⟨p, hp, -⟩⟩
  · exact .inr htold
  · refine .inl ⟨k, hk, .inl ?_⟩
    rcases hdue with hstate | hstate <;>
    · rw [hstate]
      rfl
  · exact .inl ⟨k, hk, .inr htimer⟩
  · exact .inl ⟨k, hk, .inl (hv.busy (by rw [hp]; rfl))⟩

/-! ## Clients -/

/-- What a client's call leaves open was open before, or the loop hears of it. -/
theorem needs_client (hv : v.Running) {uid now : String} {c : StoreCall}
    (hc : (Move.client uid now c).Allowed) (h : (v.step (.client uid now c)).Needs key) :
    v.Needs key ∨ (v.step (.client uid now c)).Announced key ∨
      v.Slips key (.client uid now c) := by
  obtain ⟨r, hr, hopen⟩ := h
  obtain ⟨q, hq, htyped⟩ := read?_eq_some.mp hr
  rcases (perform_effect uid now v.store c).get?_cases hq with hold | hnew
  · exact .inl ⟨r, read?_eq_some.mpr ⟨q, hold, htyped⟩, hopen⟩
  -- the slot of the key was written; by which call is read off the slot
  generalize hx : slot (Record.kind Release) key = x at hnew
  cases hnew with
  | @statusUpdated kind object => exact absurd rfl hc.2
  | @created kind object m hnew =>
      have hkind : kind = Release.kind :=
        ((StoredRecord.typed_eq_ok (accounted_created hnew).objectKind).mp htyped).1
      subst hkind
      refine .inr (.inl ?_)
      show (v.channel.publish (.create Release.kind object)
        (v.store.create uid now Release.kind object).1).Pending _ _
      rw [create_of_checkNew hnew]
      exact Channel.pending_send hv.steady ⟨rfl, (slot_eq_iff.mp hx).symm⟩
  | @updated kind object existing incoming kept hrevise hkept =>
      obtain ⟨-, -, hget, -⟩ := revise_eq_ok.mp hrevise
      have hwrite : v.store.update kind object = _ := write_of_revise hrevise hkept
      obtain ⟨kind₀, m, hacc⟩ := hv.sound.accounted hget
      obtain rfl : m = kept := Except.ok.inj (hacc.objectMetadata.symm.trans hkept)
      have hafter := accounted_revised hacc .spec (toString v.store.nextVersion) rfl object
      obtain rfl : kind₀ = Release.kind :=
        ((StoredRecord.typed_eq_ok hafter.objectKind).mp htyped).1
      cases hchange : specChanges existing.object object with
      | false =>
          -- the spec is the stored one, so the Release was there and as far
          obtain ⟨r₀, hr₀, hfinished⟩ :=
            hacc.isFinished_of_unchanged (hv.ordered hget) rfl hchange htyped
          refine .inl ⟨r₀, read?_eq_some.mpr ⟨existing, ?_, hr₀⟩, hfinished.trans hopen⟩
          show Assoc.get? (slot (Record.kind Release) key) _ = _
          rw [hx]
          exact hget
      | true =>
          by_cases hkind : kind = Release.kind
          · subst hkind
            refine .inr (.inl ?_)
            show (v.channel.publish (.update Release.kind object)
              (v.store.update Release.kind object).1).Pending _ _
            rw [hwrite]
            refine Channel.pending_send hv.steady ⟨?_, (slot_eq_iff.mp hx).symm⟩
            have hmoved : (existing.revised .spec (toString v.store.nextVersion) Release.kind
                incoming m object).generationChanged :=
              StoredRecord.generationChanged_revised hchange
            exact Bool.and_eq_true_iff.mpr ⟨beq_self_eq_true _, hmoved⟩
          · exact .inr (.inr (.unheard (congrArg Prod.fst hwrite) hkind hx.symm))

/-! ## One move -/

section Moves

theorem store_relist (fate : Fate) (v : Service) : (v.relist fate).store = v.store := by
  unfold relist
  split <;> rfl

theorem store_receive (fate : Fate) (v : Service) :
    (v.step (.receive fate)).store = v.store := by
  rw [step]
  split
  · next r channel hreceive =>
      cases r with
      | event e | empty | closed => rfl
      | lagged lost => exact store_relist fate _
  · rfl

/-- Listing loses nothing, and finds every Release that goes by that kind. -/
theorem awaited_relist (hv : v.Running) (fate : Fate) :
    (v.Awaited key → (v.relist fate).Awaited key) ∧
      (fate = .answered → ∀ q, v.store.get? Release.kind key = some q → q.kind = Release.kind →
        (v.relist fate).Awaited key) := by
  rcases relist_eq hv.sound fate with ⟨hfate, hsame⟩ | ⟨-, keys, heq, hall⟩
  · rw [hsame]
    exact ⟨id, fun h => absurd h hfate⟩
  · rw [heq]
    constructor
    · rintro (htold | ⟨k, hk, (hdue | htimer) | hattempt⟩)
      · exact .inl htold
      · exact .inr ⟨k, hk, .inl (.inl (hv.proper.due_foldl_add (.inl hdue)))⟩
      · exact .inr ⟨k, hk, .inl (.inr htimer)⟩
      · exact .inr ⟨k, hk, .inr hattempt⟩
    · intro _ q hq hkind
      obtain ⟨k, hmem, hk⟩ := hall key q hq hkind
      exact .inr ⟨k, hk, .inl (.inl (hv.proper.due_foldl_add (.inr hmem)))⟩

theorem awaited_client (hv : v.Running) {uid now : String} {c : StoreCall}
    (h : v.Awaited key) : (v.step (.client uid now c)).Awaited key :=
  h.imp_left fun htold => htold.publish hv.steady c _

theorem awaited_tick (hv : v.Running) (h : v.Awaited key) : (v.step .tick).Awaited key := by
  rcases h with htold | ⟨k, hk, hqueue | hattempt⟩
  · exact .inl htold
  · exact .inr ⟨k, hk, .inl (TimedQueue.due_or_hasTimer_tick hv.proper hqueue)⟩
  · exact .inr ⟨k, hk, .inr hattempt⟩

/-- What the channel stops announcing is queued, or it slips. -/
theorem awaited_receive (hv : v.Running) (fate : Fate) (hneeds : v.Needs key)
    (h : v.Awaited key) :
    (v.step (.receive fate)).Awaited key ∨ v.Slips key (.receive fate) := by
  obtain ⟨received, channel, hreceive, hsteady, hpending⟩ := hv.steady.receive
  have hnext : ({ v with channel } : Service).Running :=
    ⟨hv.sound, hv.ordered, hsteady, hv.proper, hv.stage⟩
  unfold step
  rw [hreceive]
  show (({ v with channel } : Service).handle fate received).Awaited key ∨ _
  -- only what was announced can be affected
  have hcases : ({ v with channel } : Service).Awaited key ∨
      (∃ lost, received = .lagged lost) ∨ ∃ e, received = .event e ∧ Calls key e := by
    rcases h with htold | hseen
    · exact (hpending _ htold).imp_left Or.inl
    · exact .inl (.inr hseen)
  rcases hcases with hstill | ⟨lost, rfl⟩ | ⟨e, rfl, haccepted, hkey⟩
  · left
    cases received with
    | lagged lost => exact (awaited_relist hnext fate).1 hstill
    | empty | closed => exact hstill
    | event e =>
        rcases hstill with htold | ⟨k, hk, (hdue | htimer) | hattempt⟩
        · exact .inl htold
        · refine .inr ⟨k, hk, .inl (.inl ?_)⟩
          show ((Worker.enqueue e v.work.queue).2).Due k
          unfold Worker.enqueue
          split
          · exact hdue.add hv.proper.isOpen e.key
          · exact hdue
        · exact .inr ⟨k, hk, .inl (.inr htimer)⟩
        · exact .inr ⟨k, hk, .inr hattempt⟩
  · by_cases hfate : fate = .answered
    · obtain ⟨r, hr, -⟩ := hneeds
      obtain ⟨q, hq, -⟩ := read?_eq_some.mp hr
      by_cases hkind : q.kind = Release.kind
      · exact .inl ((awaited_relist hnext fate).2 hfate q hq hkind)
      · exact .inr (.overlooked hreceive hq hkind)
    · exact .inr (.unlisted hreceive hfate)
  · refine .inl (.inr ⟨e.key, hkey, .inl (.inl ?_)⟩)
    show ((Worker.enqueue e v.work.queue).2).Due e.key
    unfold Worker.enqueue
    rw [if_pos haccepted]
    exact WorkQueue.due_add hv.proper.isOpen e.key

/-- The key that is taken is held by the new attempt. -/
theorem awaited_take (hv : v.Running) (now : String) (h : v.Awaited key) :
    (v.step (.take now)).Awaited key := by
  unfold step
  cases hnext : v.work.queue.next with
  | mk n queue =>
      cases n with
      | pending | closed => exact h
      | key k =>
          obtain ⟨-, -, hkept⟩ := hv.proper.next hnext
          rcases h with htold | ⟨j, hj, hseen⟩
          · exact .inl htold
          refine .inr ⟨j, hj, ?_⟩
          by_cases heq : j = k
          · obtain ⟨next, hattempt, -⟩ := attempt_call v.policy now k
            refine .inr ⟨_, (Assoc.get?_put j k _ _).trans (if_pos heq), ?_⟩
            rw [hattempt]
            rfl
          · rcases hseen with (hdue | htimer) | ⟨p, hp, hholds⟩
            · exact .inl (.inl (hkept j heq hdue))
            · exact .inl (.inr htimer)
            · exact .inr ⟨p, (Assoc.get?_put_ne heq _ _).trans hp, hholds⟩

/-- An attempt that finds the Release open holds on to it; the others look at other Releases. -/
theorem awaited_call (hv : v.Running) (hall : ∀ key, v.Needs key → v.Awaited key)
    (k : RecordKey) (uid now : String) (fate : Fate)
    (hneeds : (v.step (.call k uid now fate)).Needs key) :
    (v.step (.call k uid now fate)).Awaited key := by
  rw [step] at hneeds ⊢
  split at hneeds
  · next c next hk =>
      obtain ⟨-, -, hothers, hown⟩ := (hv.stage hk).call hv.sound uid now fate
      obtain ⟨r, hr, hopen⟩ := hneeds
      -- a call is seen at the key of its attempt, and nowhere else
      by_cases hkey : key.text = k.text
      · have hread : (called uid now c fate v.store).read? Release k = some r := by
          rw [← hr, Store.read?, Store.read?, get?, get?, slot_eq_iff.mpr hkey.symm]
          rfl
        rcases hown with hholds | hclosed
        · exact .inr ⟨k, hkey.symm, .inr ⟨_, Assoc.get?_put_self k _ _, hholds⟩⟩
        · rw [hclosed r hread] at hopen
          cases hopen
      · have hbefore : v.Needs key := ⟨r, (hothers key hkey).symm.trans hr, hopen⟩
        rcases hall key hbefore with htold | ⟨j, hj, hqueue | ⟨p, hp, hholds⟩⟩
        · exact .inl (htold.publish hv.steady c _)
        · exact .inr ⟨j, hj, .inl hqueue⟩
        · have hne : j ≠ k := by
            rintro rfl
            exact hkey hj.symm
          exact .inr ⟨j, hj, .inr ⟨p, (Assoc.get?_put_ne hne _ _).trans hp, hholds⟩⟩
  · exact hall key hneeds

theorem awaited_panic (k : RecordKey) (h : v.Awaited key) : (v.step (.panic k)).Awaited key := by
  rw [step]
  split
  · rcases h with htold | ⟨j, hj, hqueue | ⟨p, hp, hholds⟩⟩
    · exact .inl htold
    · exact .inr ⟨j, hj, .inl hqueue⟩
    · refine .inr ⟨j, hj, .inr ?_⟩
      by_cases heq : j = k
      · exact ⟨.crashed, (Assoc.get?_put j k _ _).trans (if_pos heq), rfl⟩
      · exact ⟨p, (Assoc.get?_put_ne heq _ _).trans hp, hholds⟩
  · exact h

/-- An attempt that held on to its key brings it back. -/
theorem awaited_conclude (hv : v.Running) (k : RecordKey) (h : v.Awaited key) :
    (v.step (.conclude k)).Awaited key := by
  rw [step]
  cases hk : Assoc.get? k v.attempts with
  | none => exact h
  | some p =>
      rw [Option.bind_some]
      cases ho : p.outcome? with
      | none => exact h
      | some o =>
          have hbusy : (Assoc.get? k v.attempts).isSome := by rw [hk]; rfl
          rcases h with htold | ⟨j, hj, hqueue | ⟨p', hp', hholds⟩⟩
          · exact .inl htold
          · exact .inr ⟨j, hj, .inl (Worker.due_or_hasTimer_conclude hv.proper hbusy hqueue o)⟩
          · refine .inr ⟨j, hj, ?_⟩
            -- the attempt that is concluded was the one that held on to the key
            by_cases heq : j = k
            · subst heq
              cases hk.symm.trans hp'
              unfold Progress.holdsOn at hholds
              rw [ho] at hholds
              exact .inl (Worker.due_or_hasTimer_retry hv.proper hbusy hholds)
            · exact .inr ⟨p', (Assoc.get?_remove_ne heq _).trans hp', hholds⟩

/-- A move leaves every Release that needs work awaited, or it is one of those that lose it. -/
theorem awaited_step (hv : v.Running) (hall : ∀ key, v.Needs key → v.Awaited key) {m : Move}
    (hm : m.Allowed) (hneeds : (v.step m).Needs key) :
    (v.step m).Awaited key ∨ v.Slips key m := by
  cases m with
  | client uid now c =>
      rcases needs_client hv hm hneeds with hbefore | htold | hslips
      · exact .inl (awaited_client hv (hall key hbefore))
      · exact .inl (.inl htold)
      · exact .inr hslips
  | tick => exact .inl (awaited_tick hv (hall key hneeds))
  | receive fate =>
      have hbefore : v.Needs key := by
        rwa [Needs, store_receive] at hneeds
      exact awaited_receive hv fate hbefore (hall key hbefore)
  | resync =>
      have hbefore : v.Needs key := by
        rwa [Needs, step, store_relist] at hneeds
      exact .inl ((awaited_relist hv .answered).1 (hall key hbefore))
  | take now =>
      have hbefore : v.Needs key := by
        rw [step] at hneeds
        split at hneeds <;> exact hneeds
      exact .inl (awaited_take hv now (hall key hbefore))
  | call k uid now fate => exact .inl (awaited_call hv hall k uid now fate hneeds)
  | panic k =>
      have hbefore : v.Needs key := by
        rw [step] at hneeds
        split at hneeds <;> exact hneeds
      exact .inl (awaited_panic k (hall key hbefore))
  | conclude k =>
      have hbefore : v.Needs key := by
        rw [step] at hneeds
        split at hneeds <;> exact hneeds
      exact .inl (awaited_conclude hv k (hall key hbefore))

end Moves

/-! ## Giving a lost key back -/

/-- When the attempts on a key are over and nothing is awaited, giving the key back leaves no
trace of it. -/
theorem conclude_of_not_awaited (hnot : ¬ v.Awaited key) {k : RecordKey}
    (hkey : k.text = key.text) :
    (v.step (.conclude k)).store = v.store ∧ ¬ (v.step (.conclude k)).Awaited key ∧
      ∀ j, (Assoc.get? j (v.step (.conclude k)).attempts).isSome →
        j ≠ k ∧ (Assoc.get? j v.attempts).isSome := by
  rw [step]
  cases hk : Assoc.get? k v.attempts with
  | none =>
      refine ⟨rfl, hnot, fun j hj => ⟨?_, hj⟩⟩
      rintro rfl
      have hsome : (Assoc.get? j v.attempts).isSome := hj
      rw [hk] at hsome
      cases hsome
  | some p =>
      rw [Option.bind_some]
      -- an attempt that held on to the key would be awaited
      have hholds : p.holdsOn = false := by
        rw [← Bool.not_eq_true]
        intro hholds
        exact hnot (.inr ⟨k, hkey, .inr ⟨p, hk, hholds⟩⟩)
      cases ho : p.outcome? with
      | none =>
          unfold Progress.holdsOn at hholds
          rw [ho] at hholds
          cases hholds
      | some o =>
          unfold Progress.holdsOn at hholds
          rw [ho] at hholds
          refine ⟨rfl, ?_, ?_⟩
          · rintro (htold | ⟨j, hj, (hdue | htimer) | ⟨p', hp', hholds'⟩⟩)
            · exact hnot (.inl htold)
            · exact hnot (.inr ⟨j, hj, .inl (.inl ((Worker.of_conclude hholds).1 hdue))⟩)
            · exact hnot (.inr ⟨j, hj, .inl (.inr ((Worker.of_conclude hholds).2 htimer))⟩)
            · obtain ⟨-, hbefore⟩ := Assoc.of_get?_remove hp'
              exact hnot (.inr ⟨j, hj, .inr ⟨p', hbefore, hholds'⟩⟩)
          · intro j hj
            obtain ⟨p', hp'⟩ := Option.isSome_iff_exists.mp hj
            obtain ⟨hne, hbefore⟩ := Assoc.of_get?_remove hp'
            exact ⟨hne, Option.isSome_iff_exists.mpr ⟨p', hbefore⟩⟩

/-- A Release that needs work and is not awaited is lost once its keys are given back. -/
theorem not_kept_of_not_awaited (hv : v.Running) (hneeds : v.Needs key)
    (hnot : ¬ v.Awaited key) {keys : List RecordKey} (hkeys : ∀ k ∈ keys, k.text = key.text)
    (hall : ∀ k : RecordKey, k.text = key.text → (Assoc.get? k v.attempts).isSome → k ∈ keys) :
    ¬ (v.run (keys.map .conclude)).Kept := by
  induction keys generalizing v with
  | nil =>
      intro hkept
      rcases hkept key hneeds with ⟨k, hk, hstate | htimer⟩ | htold
      · obtain ⟨st, hst⟩ := Option.isSome_iff_exists.mp hstate
        -- all attempts on the key have been given back
        have hbusy : ¬ (Assoc.get? k v.attempts).isSome :=
          fun hsome => List.not_mem_nil (hall k hk hsome)
        cases st with
        | queued => exact hnot (.inr ⟨k, hk, .inl (.inl (.inl hst))⟩)
        | dirty => exact hnot (.inr ⟨k, hk, .inl (.inl (.inr hst))⟩)
        | inFlight => exact hbusy ((hv.proper.busy k).mpr (.inl hst))
      · exact hnot (.inr ⟨k, hk, .inl (.inr htimer)⟩)
      · exact hnot (.inl htold)
  | cons k rest ih =>
      have hkey := hkeys k List.mem_cons_self
      obtain ⟨hstore, hnot', hattempts⟩ := conclude_of_not_awaited hnot hkey
      have hneeds' : (v.step (.conclude k)).Needs key := by
        unfold Needs
        rw [hstore]
        exact hneeds
      refine ih (hv.conclude k) hneeds' hnot' (fun j hj => hkeys j (List.mem_cons_of_mem k hj)) ?_
      intro j hj hsome
      obtain ⟨hne, hbefore⟩ := hattempts j hsome
      exact (List.mem_cons.mp (hall j hj hbefore)).resolve_left hne

/-! ## Whole runs -/

/-- What holds as long as no Release was lost. -/
structure Covered (v : Service) : Prop where
  running : v.Running
  awaited : ∀ key, v.Needs key → v.Awaited key

namespace Covered

theorem launch (policy : AmbiguityPolicy) (backoff : Backoff) {channel : Channel} {n : Nat}
    (h : Channel.new? n = some channel) : (launch policy backoff channel).Covered :=
  ⟨running_launch policy backoff h, fun _ hneeds => by
    obtain ⟨r, hr, -⟩ := hneeds
    cases hr⟩

theorem kept (h : v.Covered) : v.Kept :=
  fun key hneeds => (h.awaited key hneeds).kept h.running

theorem step (h : v.Covered) {m : Move} (hm : m.Allowed) (hloses : ¬ v.Loses m) :
    (v.step m).Covered := by
  refine ⟨h.running.step hm, ?_⟩
  intro key hneeds
  by_contra hnot
  have hslips := (awaited_step h.running h.awaited hm hneeds).resolve_left hnot
  exact hloses ⟨key, hslips, hneeds, hnot⟩

/-- A run without a move that loses a Release. -/
theorem run {moves : List Move} (h : v.Covered) (hmoves : ∀ m ∈ moves, m.Allowed)
    (hloses : ∀ before m after, moves = before ++ m :: after → ¬ (v.run before).Loses m) :
    (v.run moves).Covered := by
  induction moves generalizing v with
  | nil => exact h
  | cons m rest ih =>
      have hfirst := h.step (hmoves m List.mem_cons_self) (hloses [] m rest rfl)
      refine ih hfirst (fun m' hm' => hmoves m' (List.mem_cons_of_mem m hm')) ?_
      intro before m' after hsplit
      exact hloses (m :: before) m' after (by rw [hsplit]; rfl)

theorem giveBack (h : v.Covered) (keys : List RecordKey) :
    (v.run (keys.map .conclude)).Covered := by
  refine h.run ?_ ?_
  · intro m hm
    obtain ⟨k, -, rfl⟩ := List.mem_map.mp hm
    trivial
  · rintro before m after hsplit ⟨key, hslips, -⟩
    have hm : m ∈ keys.map Move.conclude := by
      rw [hsplit]
      exact List.mem_append_right _ List.mem_cons_self
    obtain ⟨k, -, rfl⟩ := List.mem_map.mp hm
    cases hslips

end Covered

/-! ## When nothing slips

Clients that write every record under its own kind, and listings that succeed, are enough: calls
of attempts may fail and attempts may crash as they like. -/

/-- Clients write under kinds without a slash, and the Releases can be listed. -/
def Move.Regular : Move → Prop
  | .client _ _ c => '/' ∉ c.kind.toList
  | .receive fate => fate = .answered
  | _ => True

/-- No record was last written under a kind with a slash. -/
def PlainKinds (s : Store) : Prop :=
  ∀ x q, Assoc.get? x s.slots = some q → '/' ∉ q.kind.toList

theorem PlainKinds.effect {s s' : Store} {uid now : String} {c : StoreCall} (h : PlainKinds s)
    (heffect : Effect uid now s c s') (hc : '/' ∉ c.kind.toList) : PlainKinds s' := by
  intro x q hx
  rcases heffect.get?_cases hx with hold | hnew
  · exact h x q hold
  · rw [hnew.kind_eq]
    exact hc

/-- Attempts write Releases and runs only. -/
theorem PlainKinds.called {policy : AmbiguityPolicy} {s : Store} {k : RecordKey} {c : StoreCall}
    {next : Except StoreError c.Reply → Program (Except ReconcileError Unit)} (h : PlainKinds s)
    (hstage : Stage policy s k (.going (.call c next))) (uid now : String) (fate : Fate) :
    PlainKinds (called uid now c fate s) := by
  rcases hstage.isRead_or_kind with hread | hkind | hkind
  · rw [called_of_isRead hread]
    exact h
  · exact h.effect (called_effect uid now c fate s) (hkind ▸ slash_notMem_release)
  · exact h.effect (called_effect uid now c fate s) (hkind ▸ slash_notMem_run)

theorem plainKinds_step (hv : v.Running) (h : PlainKinds v.store) {m : Move} (hm : m.Regular) :
    PlainKinds (v.step m).store := by
  cases m with
  | client uid now c => exact h.effect (perform_effect uid now v.store c) hm
  | tick => exact h
  | receive fate =>
      rw [store_receive]
      exact h
  | resync =>
      unfold step
      rw [store_relist]
      exact h
  | take now =>
      rw [step]
      split <;> exact h
  | call k uid now fate =>
      rw [step]
      split
      · next hk => exact h.called (hv.stage hk) uid now fate
      · exact h
  | panic k =>
      rw [step]
      split <;> exact h
  | conclude k =>
      rw [step]
      split <;> exact h

/-- A regular move loses no Release. -/
theorem not_loses_of_regular (hv : v.Running) (h : PlainKinds v.store) {m : Move}
    (hm : m.Regular) : ¬ v.Loses m := by
  rintro ⟨key, hslips, -⟩
  cases hslips with
  | unlisted _ hfate => exact hfate hm
  | overlooked _ hq hkind =>
      obtain ⟨kind, m, hacc⟩ := hv.sound.accounted hq
      exact hkind (slot_inj (h _ _ hq) slash_notMem_release hacc.place.symm).1
  | unheard _ hkind hslot => exact hkind (slot_inj hm slash_notMem_release hslot).1

/-- No Release is lost in a run of regular moves. -/
theorem Covered.run_regular {moves : List Move} (h : v.Covered) (hplain : PlainKinds v.store)
    (hmoves : ∀ m ∈ moves, m.Allowed ∧ m.Regular) : (v.run moves).Covered := by
  induction moves generalizing v with
  | nil => exact h
  | cons m rest ih =>
      obtain ⟨hallowed, hregular⟩ := hmoves m List.mem_cons_self
      exact ih (h.step hallowed (not_loses_of_regular h.running hplain hregular))
        (plainKinds_step h.running hplain hregular)
        fun m' hm' => hmoves m' (List.mem_cons_of_mem m hm')

/-- So a service that makes regular moves only keeps every Release. -/
theorem kept_of_regular (policy : AmbiguityPolicy) (backoff : Backoff) {channel : Channel} {n : Nat}
    (hchannel : Channel.new? n = some channel) {moves : List Move}
    (hmoves : ∀ m ∈ moves, m.Allowed ∧ m.Regular) :
    ((launch policy backoff channel).run moves).Kept := by
  have hempty : PlainKinds (launch policy backoff channel).store := by
    intro x q hx
    cases hx
  exact ((Covered.launch policy backoff hchannel).run_regular hempty hmoves).kept

/-! ## Every run -/

/-- In every state of a run, and whichever keys are given back then, no Release is lost if and only
if no move of the run loses one. -/
theorem kept_iff_not_loses (policy : AmbiguityPolicy) (backoff : Backoff) {channel : Channel}
    {n : Nat} (hchannel : Channel.new? n = some channel) {moves : List Move}
    (hmoves : ∀ m ∈ moves, m.Allowed) :
    (∀ before, before <+: moves → ∀ keys : List RecordKey,
      ((launch policy backoff channel).run (before ++ keys.map .conclude)).Kept) ↔
      ∀ before m after, moves = before ++ m :: after →
        ¬ ((launch policy backoff channel).run before).Loses m := by
  have hlaunch := running_launch policy backoff hchannel
  constructor
  · rintro hkept before m after rfl ⟨key, -, hneeds, hnot⟩
    have hfirst : before ++ [m] <+: before ++ m :: after := ⟨after, by simp⟩
    have hrun : (launch policy backoff channel).run (before ++ [m]) =
        ((launch policy backoff channel).run before).step m := run_append _ before [m]
    have hrunning := hlaunch.run fun m' hm' => hmoves m' (hfirst.subset hm')
    rw [← hrun] at hneeds hnot
    -- give back every key that an attempt on the Release has
    have hlost := hkept _ hfirst ((Assoc.keys
      ((launch policy backoff channel).run (before ++ [m])).attempts).filter
        fun k => k.text == key.text)
    rw [run_append] at hlost
    refine not_kept_of_not_awaited hrunning hneeds hnot ?_ ?_ hlost
    · intro k hk
      exact beq_iff_eq.mp (List.mem_filter.mp hk).2
    · intro k hk hsome
      refine List.mem_filter.mpr ⟨?_, beq_iff_eq.mpr hk⟩
      by_contra hmem
      rw [Assoc.get?_eq_none_iff.mpr hmem] at hsome
      cases hsome
  · rintro hloses before ⟨after, rfl⟩ keys
    rw [run_append]
    refine (Covered.giveBack ?_ keys).kept
    refine (Covered.launch policy backoff hchannel).run
      (fun m hm => hmoves m (List.mem_append_left _ hm)) ?_
    rintro before' m after' rfl
    exact hloses before' m (after' ++ after) (by simp)

/-- Events are lost, and the listing that should make up for them fails. -/
def overrun : List Move := [
  .client "1" "" (.create Release.kind (Release.new ⟨"a", "r"⟩ "l").toJson),
  .client "2" "" (.create ReleaseLink.kind (ReleaseLink.new ⟨"a", "l"⟩ "b" "app" none).toJson),
  .receive .refused]

/-- A channel that keeps one event. -/
def narrow : Channel := ⟨1, [], 0, [], true⟩

theorem new?_narrow : Channel.new? 1 = some narrow :=
  Channel.new?_eq (by decide) (by decide) (by decide +kernel)

theorem allowed_overrun : ∀ m ∈ overrun, m.Allowed := by
  intro m hm
  rcases List.mem_cons.mp hm with rfl | hm
  · exact ⟨Release.ordered_toJson _, by decide⟩
  rcases List.mem_cons.mp hm with rfl | hm
  · exact ⟨ReleaseLink.ordered_toJson _, by decide⟩
  · rw [List.mem_singleton.mp hm]
    trivial

theorem kept_iff_not_loses_overrun :
    Channel.new? 1 = some narrow ∧ (∀ m ∈ overrun, m.Allowed) ∧
      ((∀ before, before <+: overrun → ∀ keys : List RecordKey,
        ((launch .strict .default narrow).run (before ++ keys.map .conclude)).Kept) ↔
        ∀ before m after, overrun = before ++ m :: after →
          ¬ ((launch .strict .default narrow).run before).Loses m) :=
  ⟨new?_narrow, allowed_overrun,
    kept_iff_not_loses .strict .default new?_narrow allowed_overrun⟩

/-- A run in which a Release is lost. -/
theorem not_kept_of_overrun : Channel.new? 1 = some narrow ∧ (∀ m ∈ overrun, m.Allowed) ∧
    ¬ ((launch .strict .default narrow).run overrun).Kept := by
  refine ⟨new?_narrow, allowed_overrun, ?_⟩
  intro hkept
  generalize hv : (launch .strict .default narrow).run overrun = v at hkept
  have hopen : (v.store.read? Release ⟨"a", "r"⟩).any fun r => !r.isFinished := by
    rw [← hv]
    decide +kernel
  have hidle : v.work.queue.states.isEmpty && v.work.timers.isEmpty := by
    rw [← hv]
    decide +kernel
  have hposition : Assoc.get? Deployment.controllerReceiver v.channel.receivers = some 1 := by
    rw [← hv]
    decide +kernel
  have holdest : v.channel.oldest = 1 := by
    rw [← hv]
    decide +kernel
  have hnone : v.channel.kept.all fun e => !e.isAccepted := by
    rw [← hv]
    decide +kernel
  rw [Bool.and_eq_true, List.isEmpty_iff, List.isEmpty_iff] at hidle
  obtain ⟨r, hr, hneeds⟩ := (Option.any_eq_true _ _).mp hopen
  rcases hkept _ ⟨r, hr, by simpa using hneeds⟩ with
    ⟨k, -, hstate | ⟨e, he, -⟩⟩ | ⟨position, hat, hlag | ⟨e, he, haccepted, -⟩⟩
  · unfold WorkQueue.state? at hstate
    rw [hidle.1] at hstate
    cases hstate
  · rw [hidle.2] at he
    cases he
  · cases hposition.symm.trans hat
    omega
  · have hrefused := List.all_eq_true.mp hnone e (List.mem_of_mem_drop he)
    rw [haccepted] at hrefused
    cases hrefused

end ReleaseControl.Service
