import Mathlib.Data.List.Forall2
import ReleaseControl.Proofs.Store.Addressing
import ReleaseControl.Proofs.Store.Program
import ReleaseControl.Proofs.Watch.Reception

/-! # The events are a log of the store

Each call that creates, changes or deletes a record is followed by one event, which names the
generations of the record before and after it, as the store has them (`Tells`). So the events of a
slot are a sequence of lives, each from a creation on, and all events together say which slots are
in use and at which generation (`Recounts`).

A store and its channel are watched while calls are made and receivers come and go. An observer that
subscribed before the first call and was told of no loss has received this log
(`Watched.faithful_log`). -/

namespace ReleaseControl

/-- The slot of the record that an event is about. -/
def WatchEvent.slot (e : WatchEvent) : String := Store.slot e.kind e.key

/-- The change that a call makes if it succeeds. -/
def StoreCall.change? : StoreCall → Option ChangeType
  | .create .. => some .created
  | .update .. | .updateStatus .. => some .updated
  | .delete .. => some .deleted
  | .get .. | .list .. => none

/-! ## Lives of a record -/

/-- An event in the life of a record, between its generations before and after. -/
inductive WatchEvent.Spans : Option Int64 → WatchEvent → Option Int64 → Prop where
  | created (kind : String) (key : RecordKey) : Spans none (.created kind key 1) (some 1)
  | updated (kind : String) (key : RecordKey) {old new : Int64}
      (hnew : new = old ∨ new = old + 1) :
      Spans (some old) (.updated kind key old new) (some new)
  | deleted (kind : String) (key : RecordKey) (last : Int64) :
      Spans (some last) (.deleted kind key last) none

/-- Events of one slot, oldest first, and the generation that they come to: lives of records, one
after the other. -/
inductive Lifetimes : List WatchEvent → Option Int64 → Prop where
  | nil : Lifetimes [] none
  | concat {events : List WatchEvent} {e : WatchEvent} {old new : Option Int64}
      (h : Lifetimes events old) (he : e.Spans old new) : Lifetimes (events ++ [e]) new

theorem WatchEvent.Spans.generations {e : WatchEvent} {old new : Option Int64}
    (h : e.Spans old new) : e.oldGeneration = old ∧ e.newGeneration = new := by
  cases h <;> exact ⟨rfl, rfl⟩

/-- The controller is called for an event that begins a life or raises the generation. -/
theorem WatchEvent.Spans.callsFor_iff {e : WatchEvent} {old new : Option Int64}
    (h : e.Spans old new) : e.type.callsFor e.oldGeneration e.newGeneration ↔
      ∃ g, new = some g ∧ (old = none ∨ ∃ g₀, old = some g₀ ∧ g = g₀ + 1) := by
  cases h with
  | created kind key => exact ⟨fun _ => ⟨1, rfl, .inl rfl⟩, fun _ => rfl⟩
  | @updated kind key old new hstep =>
      constructor
      · intro hchanged
        have hne : new ≠ old := by
          intro hsame
          simp [WatchEvent.updated, ChangeType.callsFor, hsame] at hchanged
        exact ⟨new, rfl, .inr ⟨old, rfl, hstep.resolve_left hne⟩⟩
      · rintro ⟨g, hg, hnone | ⟨g₀, hg₀, hraised⟩⟩
        · cases hnone
        · cases hg
          cases hg₀
          simp [WatchEvent.updated, ChangeType.callsFor, hraised]
  | deleted kind key last =>
      constructor
      · intro hcalls
        cases hcalls
      · rintro ⟨g, hg, -⟩
        cases hg

/-- The generations of the slots in use, after an event. -/
def WatchEvent.apply (generations : List (String × Int64)) (e : WatchEvent) :
    List (String × Int64) :=
  match e.newGeneration with
  | some generation => Assoc.put e.slot generation generations
  | none => Assoc.remove e.slot generations

theorem WatchEvent.get?_apply (generations : List (String × Int64)) (e : WatchEvent) (x : String) :
    Assoc.get? x (e.apply generations) =
      if x = e.slot then e.newGeneration else Assoc.get? x generations := by
  unfold apply
  cases e.newGeneration with
  | some generation => exact Assoc.get?_put _ _ _ _
  | none => exact Assoc.get?_remove _ _ _

theorem WatchEvent.isAccepted_iff {e : WatchEvent} :
    e.isAccepted ↔ e.kind = Release.kind ∧ e.type.callsFor e.oldGeneration e.newGeneration := by
  rw [isAccepted, isKind, Bool.and_eq_true, beq_iff_eq]

namespace Store

/-- The generation of the record in a slot. -/
def generationAt (s : Store) (x : String) : Option Int64 :=
  (Assoc.get? x s.slots).map (·.generation)

/-! ## Calls and their events -/

section Calls

variable {uid now : String} {s s' : Store} {c : StoreCall} {answer : Except StoreError c.Reply}

/-- A call that was told of by an event, which spans the change of its slot. -/
structure Told (s : Store) (c : StoreCall) (s' : Store) (e : WatchEvent) : Prop where
  type : c.change? = some e.type
  kind : e.kind = c.kind
  key : c.Addresses e.key
  spans : e.Spans (s.generationAt e.slot) (s'.generationAt e.slot)
  others : ∀ x, x ≠ e.slot → Assoc.get? x s'.slots = Assoc.get? x s.slots

theorem generation_revised (part : Part) (version kind : String) (existing : StoredRecord)
    (incoming kept : Metadata) (object : Json) :
    (existing.revised part version kind incoming kept object).generation = existing.generation ∨
      (existing.revised part version kind incoming kept object).generation =
        existing.generation + 1 :=
  (existing.revisedGeneration_cases part object).imp_right And.right

theorem generationAt_of_get? {kind : String} {key : RecordKey} {r : StoredRecord}
    (hget : s.get? kind key = some r) : s.generationAt (slot kind key) = some r.generation :=
  congrArg (Option.map StoredRecord.generation) hget

/-- The event of an update tells the generation that the revised record has. -/
theorem spans_revised (part : Part) {version kind : String} {object : Json}
    {existing : StoredRecord} {incoming kept : Metadata}
    (hget : s.get? kind incoming.key = some existing) :
    (WatchEvent.updated kind incoming.key existing.generation
      (existing.revisedGeneration part object)).Spans
        (s.generationAt (slot kind incoming.key))
        ((s.supersede existing
          (existing.revised part version kind incoming kept object)).generationAt
            (slot kind incoming.key)) := by
  have hnew : (s.supersede existing
      (existing.revised part version kind incoming kept object)).generationAt
        (slot kind incoming.key) = some (existing.revisedGeneration part object) := by
    rw [generationAt, slots_supersede]
    exact congrArg (Option.map StoredRecord.generation) (Assoc.get?_put_self _ _ _)
  rw [generationAt_of_get? hget, hnew]
  exact .updated _ _ (generation_revised part version kind existing incoming kept object)

/-- A call that succeeds and is no read has an event; other calls have none and change nothing. -/
theorem Performed.told_cases (h : Performed uid now s c answer s') :
    (c.told? answer = none ∧ (answer.isOk && !c.isRead) = false ∧ s' = s) ∨
      ∃ e, c.told? answer = some e ∧ (answer.isOk && !c.isRead) = true ∧ Told s c s' e := by
  have others {k : RecordKey} (hk : c.Addresses k) (x : String) (hx : x ≠ slot c.kind k) :
      Assoc.get? x s'.slots = Assoc.get? x s.slots :=
    h.effect.get?_of_ne fun k' hk' => by rwa [hk'.unique hk]
  cases h with
  | got kind key reply => exact .inl ⟨by cases reply <;> rfl, Bool.and_false _, rfl⟩
  | listed kind query reply => exact .inl ⟨by cases reply <;> rfl, Bool.and_false _, rfl⟩
  | refused => exact .inl ⟨rfl, rfl, rfl⟩
  | @created kind object m hnew =>
      have hk := addresses_of_checkNew hnew
      have hold : s.generationAt (slot kind m.key) = none :=
        congrArg (Option.map StoredRecord.generation) (checkNew_eq_ok.mp hnew).2.2.2
      have hafter : (s.accept
          (.created uid now (toString s.nextVersion) kind object m)).generationAt
            (slot kind m.key) = some 1 :=
        congrArg (Option.map StoredRecord.generation) (Assoc.get?_put_self _ _ _)
      refine .inr ⟨.created kind m.key 1, rfl, rfl, rfl, rfl, hk, ?_, others hk⟩
      show WatchEvent.Spans (s.generationAt (slot kind m.key)) _ (generationAt _ (slot kind m.key))
      rw [hold, hafter]
      exact .created _ _
  | updated hrevise =>
      obtain ⟨hkind, hmeta, hget, -⟩ := revise_eq_ok.mp hrevise
      have hk := StoreCall.Addresses.update hkind hmeta
      exact .inr ⟨_, rfl, rfl, rfl, rfl, hk, spans_revised .spec hget, others hk⟩
  | statusUpdated hrevise =>
      obtain ⟨hkind, hmeta, hget, -⟩ := revise_eq_ok.mp hrevise
      have hk := StoreCall.Addresses.updateStatus hkind hmeta
      exact .inr ⟨_, rfl, rfl, rfl, rfl, hk, spans_revised .status hget, others hk⟩
  | @deleted kind key r hget =>
      have hk := StoreCall.Addresses.delete kind key
      have hafter : (s.expel kind key r).generationAt (slot kind key) = none :=
        congrArg (Option.map StoredRecord.generation) (Assoc.get?_remove_self _ _)
      refine .inr ⟨.deleted kind key r.generation, rfl, rfl, rfl, rfl, hk, ?_, others hk⟩
      show WatchEvent.Spans (s.generationAt (slot kind key)) _ (generationAt _ (slot kind key))
      rw [generationAt_of_get? hget, hafter]
      exact .deleted _ _ _

end Calls

/-! ## What the log tells -/

/-- The request succeeded and was no read. -/
def changes (s : Store) (q : Request) : Bool :=
  (s.perform q.uid q.now q.call).1.isOk && !q.call.isRead

/-- The requests, each with the store that it was made to. -/
def moments (s : Store) : List Request → List (Store × Request)
  | [] => []
  | q :: rest => (s, q) :: moments (s.perform q.uid q.now q.call).2 rest

/-- The requests of a run that succeeded and were no reads, each with the store before it. -/
def writes (indexes : FieldIndexes) (requests : List Request) : List (Store × Request) :=
  (moments (.empty indexes) requests).filter fun w => w.1.changes w.2

/-- The event tells of the request: of its change to its record, with the generations that the
record has in the store before and after. The controller takes it up exactly if the request created
a Release or raised the generation of one. -/
structure Tells (s : Store) (q : Request) (e : WatchEvent) : Prop where
  type : q.call.change? = some e.type
  kind : e.kind = q.call.kind
  key : q.call.Addresses e.key
  old : e.oldGeneration = s.generationAt e.slot
  new : e.newGeneration = (s.perform q.uid q.now q.call).2.generationAt e.slot
  accepted : e.isAccepted ↔
    ∃ r, Assoc.get? e.slot (s.perform q.uid q.now q.call).2.slots = some r ∧
      r.object.recordKind = .ok Release.kind ∧
      (Assoc.get? e.slot s.slots = none ∨
        ∃ r₀, Assoc.get? e.slot s.slots = some r₀ ∧ r.generation = r₀.generation + 1)

/-- The events are a log of the run. -/
structure Recounts (indexes : FieldIndexes) (requests : List Request)
    (events : List WatchEvent) : Prop where
  /-- There is one event for each write, in their order. -/
  tells : List.Forall₂ (fun w e => w.1.Tells w.2 e) (writes indexes requests) events
  /-- The events of a slot are lives that come to its present generation. -/
  lifetimes : ∀ x, Lifetimes (events.filter fun e => e.slot = x)
    ((after indexes requests).generationAt x)
  /-- Applied one after the other they give the slots in use and their generations. -/
  folded : ∀ x, Assoc.get? x (events.foldl WatchEvent.apply []) =
    (after indexes requests).generationAt x

/-- The events of a run. -/
def events (indexes : FieldIndexes) (requests : List Request) : List WatchEvent :=
  (moments (.empty indexes) requests).flatMap fun w =>
    (w.2.call.told? (w.1.perform w.2.uid w.2.now w.2.call).1).toList

section Runs

variable {indexes : FieldIndexes} {requests : List Request} {q : Request}

theorem moments_concat (s : Store) (requests : List Request) (q : Request) :
    s.moments (requests ++ [q]) = s.moments requests ++
      [(requests.foldl (fun s q => (s.perform q.uid q.now q.call).2) s, q)] := by
  induction requests generalizing s with
  | nil => rfl
  | cons d rest ih => rw [List.cons_append, moments, ih, moments, List.foldl_cons, List.cons_append]

theorem writes_concat : writes indexes (requests ++ [q]) = writes indexes requests ++
    bif (after indexes requests).changes q then [(after indexes requests, q)] else [] := by
  unfold writes
  rw [moments_concat, List.filter_append, List.filter_singleton]
  rfl

theorem events_concat : events indexes (requests ++ [q]) = events indexes requests ++
    (q.call.told? ((after indexes requests).perform q.uid q.now q.call).1).toList := by
  unfold events
  rw [moments_concat, List.flatMap_append, List.flatMap_singleton]
  rfl

/-- In a run on kinds without a slash an event is accepted if it is one of a Release that is new or
has a new generation. -/
theorem Told.tells (hkinds : ∀ d ∈ requests ++ [q], '/' ∉ d.call.kind.toList) {e : WatchEvent}
    (h : Told (after indexes requests) q.call
      ((after indexes requests).perform q.uid q.now q.call).2 e) :
    (after indexes requests).Tells q e := by
  have hslash : '/' ∉ e.kind.toList := by
    rw [h.kind]
    exact hkinds q (List.mem_append_right _ List.mem_cons_self)
  -- what a call leaves in its slot is of the kind of the call
  have hkind {r : StoredRecord} (hr : Assoc.get? e.slot
      ((after indexes requests).perform q.uid q.now q.call).2.slots = some r) :
      r.object.recordKind = .ok Release.kind ↔ e.kind = Release.kind := by
    rw [← after_concat] at hr
    obtain ⟨m, hplaced⟩ := placed_of_stored hkinds hr
    obtain ⟨hsame, -⟩ := slot_inj hslash hplaced.slashless hplaced.accounted.place
    rw [hplaced.accounted.objectKind, hsame, Except.ok.injEq]
  refine ⟨h.type, h.kind, h.key, h.spans.generations.1, h.spans.generations.2, ?_⟩
  rw [WatchEvent.isAccepted_iff, h.spans.callsFor_iff]
  constructor
  · rintro ⟨hrelease, g, hg, hfrom⟩
    obtain ⟨r, hr, rfl⟩ := Option.map_eq_some_iff.mp hg
    refine ⟨r, hr, (hkind hr).mpr hrelease, hfrom.imp Option.map_eq_none_iff.mp ?_⟩
    rintro ⟨g₀, hg₀, hraised⟩
    obtain ⟨r₀, hr₀, rfl⟩ := Option.map_eq_some_iff.mp hg₀
    exact ⟨r₀, hr₀, hraised⟩
  · rintro ⟨r, hr, hrelease, hfrom⟩
    refine ⟨(hkind hr).mp hrelease, r.generation,
      congrArg (Option.map StoredRecord.generation) hr,
      hfrom.imp (congrArg (Option.map StoredRecord.generation)) ?_⟩
    rintro ⟨r₀, hr₀, hraised⟩
    exact ⟨r₀.generation, congrArg (Option.map StoredRecord.generation) hr₀, hraised⟩

/-- A request that changes nothing leaves the log as it is. -/
theorem Recounts.skip {events : List WatchEvent} (h : Recounts indexes requests events)
    (hsilent : (after indexes requests).changes q = false)
    (hsame : ((after indexes requests).perform q.uid q.now q.call).2 = after indexes requests) :
    Recounts indexes (requests ++ [q]) events := by
  have hwrites : writes indexes (requests ++ [q]) = writes indexes requests := by
    rw [writes_concat, hsilent]
    exact List.append_nil _
  have hafter : after indexes (requests ++ [q]) = after indexes requests := by
    rw [after_concat, hsame]
  exact ⟨hwrites ▸ h.tells, hafter ▸ h.lifetimes, hafter ▸ h.folded⟩

/-- The event of a write continues the log. -/
theorem Recounts.concat {events : List WatchEvent} (h : Recounts indexes requests events)
    (hchanges : (after indexes requests).changes q = true) {e : WatchEvent}
    (htold : Told (after indexes requests) q.call
      ((after indexes requests).perform q.uid q.now q.call).2 e)
    (htells : (after indexes requests).Tells q e) :
    Recounts indexes (requests ++ [q]) (events ++ [e]) := by
  have hwrites : writes indexes (requests ++ [q]) =
      writes indexes requests ++ [(after indexes requests, q)] := by
    rw [writes_concat, hchanges]
    rfl
  have hothers (x : String) (hx : x ≠ e.slot) :
      (after indexes (requests ++ [q])).generationAt x =
        (after indexes requests).generationAt x := by
    rw [after_concat, generationAt, htold.others x hx]
    rfl
  have hspans : e.Spans ((after indexes requests).generationAt e.slot)
      ((after indexes (requests ++ [q])).generationAt e.slot) := by
    rw [after_concat]
    exact htold.spans
  refine ⟨?_, ?_, ?_⟩
  · rw [hwrites]
    exact List.rel_append h.tells (.cons htells .nil)
  · intro x
    rw [List.filter_append, List.filter_singleton]
    by_cases hx : x = e.slot
    · rw [hx, decide_eq_true rfl]
      exact .concat (h.lifetimes e.slot) hspans
    · rw [decide_eq_false (Ne.symm hx), hothers x hx]
      exact (List.append_nil _).symm ▸ h.lifetimes x
  · intro x
    rw [List.foldl_concat, WatchEvent.get?_apply, h.folded]
    by_cases hx : x = e.slot
    · rw [if_pos hx, hx]
      exact hspans.generations.2
    · rw [if_neg hx, hothers x hx]

/-- The events of a run are its log. -/
theorem recounts_events (hkinds : ∀ d ∈ requests, '/' ∉ d.call.kind.toList) :
    Recounts indexes requests (events indexes requests) := by
  induction requests using List.reverseRecOn with
  | nil => exact ⟨.nil, fun _ => .nil, fun _ => rfl⟩
  | append_singleton requests q ih =>
      have h := ih fun d hd => hkinds d (List.mem_append_left _ hd)
      rw [events_concat]
      rcases (performed q.uid q.now (after indexes requests) q.call).told_cases with
        ⟨hnone, hsilent, hsame⟩ | ⟨e, hsome, hchanges, htold⟩
      · rw [hnone, Option.toList_none, List.append_nil]
        exact h.skip hsilent hsame
      · rw [hsome, Option.toList_some]
        exact h.concat hchanges htold (htold.tells hkinds)

end Runs

/-- The store, as the request is made to it. -/
def Request.handler (q : Request) : Program.Handler Store := fun c s =>
  (.returned (s.perform q.uid q.now c).1, (s.perform q.uid q.now c).2)

end Store

/-! ## Watching -/

open Store

/-- A store and its channel, and what one receiver of the channel has received. -/
structure Watched where
  store : Store
  channel : Channel
  received : List Received

namespace Watched

/-- One thing that happens: a call, or something that a receiver does. -/
inductive Step where
  | call (q : Request)
  | receive (id : String)
  | subscribe (id : String)
  | unsubscribe (id : String)

def Step.request? : Step → Option Request
  | .call q => some q
  | .receive _ | .subscribe _ | .unsubscribe _ => none

/-- An empty store, before any event was sent. -/
def start (indexes : FieldIndexes) (channel : Channel) (observer : String) : Watched :=
  ⟨.empty indexes, channel.subscribe observer, []⟩

def receive (observer id : String) (v : Watched) : Watched :=
  match v.channel.receive? id with
  | none => v
  | some (r, channel) =>
    { v with channel, received := if id = observer then v.received ++ [r] else v.received }

def step (observer : String) (v : Watched) : Step → Watched
  | .call q =>
    let (store, channel) := (q.handler.published q.call (v.store, v.channel)).2
    { v with store, channel }
  | .receive id => v.receive observer id
  | .subscribe id => { v with channel := v.channel.subscribe id }
  | .unsubscribe id => { v with channel := v.channel.unsubscribe id }

def run (observer : String) (v : Watched) (steps : List Step) : Watched :=
  steps.foldl (step observer) v

/-- All that the observer has received once it has emptied the channel. -/
def gathered (observer : String) (v : Watched) : List Received :=
  v.received ++ (v.channel.drain observer).1

/-- The observer follows the events of the run. -/
structure Observes (indexes : FieldIndexes) (observer : String) (requests : List Request)
    (v : Watched) : Prop where
  store : v.store = after indexes requests
  steady : v.channel.Steady observer
  follows : v.channel.Follows observer v.received (events indexes requests)

variable {indexes : FieldIndexes} {observer : String}

theorem Observes.receive {requests : List Request} {v : Watched}
    (h : v.Observes indexes observer requests) (id : String) :
    (v.receive observer id).Observes indexes observer requests := by
  unfold Watched.receive
  cases hreceive : v.channel.receive? id with
  | none => exact h
  | some pair =>
      obtain ⟨r, channel⟩ := pair
      by_cases hid : id = observer
      · subst hid
        obtain ⟨hfollows, hsteady⟩ := h.follows.receive h.steady hreceive
        refine ⟨h.store, hsteady, ?_⟩
        show channel.Follows id (if id = id then v.received ++ [r] else v.received) _
        rw [if_pos rfl]
        exact hfollows
      · -- the position of another receiver moves
        obtain ⟨position, -, hchannel⟩ := Option.map_eq_some_iff.mp hreceive
        cases hchannel
        obtain ⟨hfollows, hsteady⟩ := h.follows.of_receivers h.steady
          (Assoc.get?_put_ne (Ne.symm hid) _ _)
        refine ⟨h.store, hsteady, ?_⟩
        show Channel.Follows _ observer (if id = observer then v.received ++ [_] else v.received) _
        rw [if_neg hid]
        exact hfollows

theorem Observes.step {requests : List Request} {v : Watched}
    (h : v.Observes indexes observer requests) (st : Step) (hsubscribe : st ≠ .subscribe observer)
    (hunsubscribe : st ≠ .unsubscribe observer) :
    (v.step observer st).Observes indexes observer (requests ++ st.request?.toList) := by
  cases st with
  | call q =>
      have hstore : (v.step observer (.call q)).store = after indexes (requests ++ [q]) := by
        rw [after_concat, ← h.store]
        rfl
      refine ⟨hstore, h.steady.publish q.call _, ?_⟩
      show (v.channel.publish q.call _).Follows observer v.received (events _ (requests ++ [q]))
      rw [events_concat, ← h.store]
      exact h.follows.publish h.steady q.call _
  | receive id =>
      rw [Step.request?, Option.toList_none, List.append_nil]
      exact h.receive id
  | subscribe id =>
      have hid : observer ≠ id := fun hid => hsubscribe (by rw [hid])
      obtain ⟨hfollows, hsteady⟩ := h.follows.of_receivers h.steady (Assoc.get?_put_ne hid _ _)
      rw [Step.request?, Option.toList_none, List.append_nil]
      exact ⟨h.store, hsteady, hfollows⟩
  | unsubscribe id =>
      have hid : observer ≠ id := fun hid => hunsubscribe (by rw [hid])
      obtain ⟨hfollows, hsteady⟩ := h.follows.of_receivers h.steady (Assoc.get?_remove_ne hid _)
      rw [Step.request?, Option.toList_none, List.append_nil]
      exact ⟨h.store, hsteady, hfollows⟩

theorem observes_run {n : Nat} {channel : Channel} (hchannel : Channel.new? n = some channel)
    {steps : List Step} (hsubscribe : .subscribe observer ∉ steps)
    (hunsubscribe : .unsubscribe observer ∉ steps) :
    ((start indexes channel observer).run observer steps).Observes indexes observer
      (steps.filterMap Step.request?) := by
  induction steps using List.reverseRecOn with
  | nil =>
      exact ⟨rfl, Channel.steady_subscribe hchannel _, Channel.follows_subscribe hchannel _⟩
  | append_singleton steps st ih =>
      rw [List.mem_append, List.mem_singleton, not_or] at hsubscribe hunsubscribe
      have h := ih hsubscribe.1 hunsubscribe.1
      have hstep := h.step st (Ne.symm hsubscribe.2) (Ne.symm hunsubscribe.2)
      have hrequests : (steps ++ [st]).filterMap Step.request? =
          steps.filterMap Step.request? ++ st.request?.toList := by
        rw [List.filterMap_append]
        cases st <;> rfl
      rw [hrequests]
      unfold run at hstep ⊢
      rw [List.foldl_concat]
      exact hstep

/-- A receiver that subscribed to the channel before the first call, stayed and was told of no loss
has received the log of the run, on kinds without a slash: an event for each write and for nothing
else, in their order, from which the lives of the records, the slots in use and their generations
can be read, and of which the controller takes up those that tell of a Release that is new or has a
new generation. -/
theorem faithful_log {n : Nat} {channel : Channel} (hchannel : Channel.new? n = some channel)
    {steps : List Step} (hkinds : ∀ q, .call q ∈ steps → '/' ∉ q.call.kind.toList)
    (hsubscribe : .subscribe observer ∉ steps) (hunsubscribe : .unsubscribe observer ∉ steps)
    (hlost : ∀ lost,
      .lagged lost ∉ ((start indexes channel observer).run observer steps).gathered observer) :
    ((start indexes channel observer).run observer steps).store =
        after indexes (steps.filterMap Step.request?) ∧
      Recounts indexes (steps.filterMap Step.request?)
        ((((start indexes channel observer).run observer steps).gathered observer).filterMap
          Received.event?) := by
  have h : ((start indexes channel observer).run observer steps).Observes indexes observer _ :=
    observes_run hchannel hsubscribe hunsubscribe
  have hrequests : ∀ q ∈ steps.filterMap Step.request?, '/' ∉ q.call.kind.toList := by
    intro q hq
    obtain ⟨st, hst, hcall⟩ := List.mem_filterMap.mp hq
    cases st with
    | call d =>
        cases hcall
        exact hkinds q hst
    | receive | subscribe | unsubscribe => cases hcall
  refine ⟨h.store, ?_⟩
  rw [gathered, h.follows.drain h.steady hlost]
  exact recounts_events hrequests

def draft (spec : String) : Json := .ofFields [
  ("kind", some (.str Release.kind)), ("metadata", some (Metadata.new ⟨"w", "r"⟩ .empty).toJson),
  ("spec", some (.str spec))]

/-- A Release from its creation to its deletion, watched while another receiver joins. -/
def oneLife : List Step := [
  .call ⟨"1", "", .create Release.kind (draft "a")⟩, .receive "o", .subscribe "p",
  .call ⟨"", "", .update Release.kind (draft "b")⟩, .call ⟨"", "", .get Release.kind ⟨"w", "r"⟩⟩,
  .call ⟨"", "", .updateStatus Release.kind (draft "c")⟩, .receive "p",
  .call ⟨"", "", .create Release.kind (draft "d")⟩,
  .call ⟨"", "", .delete Release.kind ⟨"w", "r"⟩⟩]

theorem faithful_log_oneLife :
    (((start .none ⟨4, [], 0, [], true⟩ "o").run "o" oneLife).gathered "o").filterMap
        Received.event? =
      [.created Release.kind ⟨"w", "r"⟩ 1, .updated Release.kind ⟨"w", "r"⟩ 1 2,
        .updated Release.kind ⟨"w", "r"⟩ 2 2, .deleted Release.kind ⟨"w", "r"⟩ 2] ∧
      Recounts .none (oneLife.filterMap Step.request?)
        ((((start .none ⟨4, [], 0, [], true⟩ "o").run "o" oneLife).gathered "o").filterMap
          Received.event?) := by
  have hgathered : ((start .none ⟨4, [], 0, [], true⟩ "o").run "o" oneLife).gathered "o" =
      [.event (.created Release.kind ⟨"w", "r"⟩ 1), .event (.updated Release.kind ⟨"w", "r"⟩ 1 2),
        .event (.updated Release.kind ⟨"w", "r"⟩ 2 2),
        .event (.deleted Release.kind ⟨"w", "r"⟩ 2), .empty] := by
    decide +kernel
  have hchannel : Channel.new? 4 = some ⟨4, [], 0, [], true⟩ :=
    Channel.new?_eq (by decide) (by decide) (by decide +kernel)
  have hkinds : ∀ q, .call q ∈ oneLife → '/' ∉ q.call.kind.toList := by
    intro q hq
    have hplain : ∀ d ∈ oneLife.filterMap Step.request?, '/' ∉ d.call.kind.toList := by
      simp only [oneLife, Step.request?, List.filterMap_cons, List.filterMap_nil,
        List.forall_mem_cons]
      decide
    exact hplain q (List.mem_filterMap.mpr ⟨_, hq, rfl⟩)
  have hstays : .subscribe "o" ∉ oneLife ∧ .unsubscribe "o" ∉ oneLife := by
    simp [oneLife]
  have hlost : ∀ lost, .lagged lost ∉
      ((start .none ⟨4, [], 0, [], true⟩ "o").run "o" oneLife).gathered "o" := by
    rw [hgathered]
    simp
  refine ⟨?_, (faithful_log hchannel hkinds hstays.1 hstays.2 hlost).2⟩
  rw [hgathered]
  rfl

end Watched

end ReleaseControl
