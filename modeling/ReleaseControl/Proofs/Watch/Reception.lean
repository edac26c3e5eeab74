import ReleaseControl.Proofs.Channel
import ReleaseControl.Watch.Log

/-! # What a receiver has received

A receiver has received the events that were sent, in their order, up to those that still wait for
it (`Channel.Follows`). Only a loss breaks this, and the channel tells of it at the next receive; so
a receiver that has emptied the channel and was told of no loss has received everything
(`Follows.drain`). -/

namespace ReleaseControl

def Received.event? : Received → Option WatchEvent
  | .event e => some e
  | .lagged _ | .empty | .closed => none

/-- The event that is published after an answer. -/
def StoreCall.told? (c : StoreCall) (answer : Except StoreError c.Reply) : Option WatchEvent :=
  match answer with
  | .error _ => none
  | .ok reply => c.event? reply

namespace Channel

variable {c c' : Channel} {id : String} {received : List Received} {log : List WatchEvent}

/-! ## Publishing -/

theorem publish_eq (call : StoreCall) (answer : Except StoreError call.Reply) (c : Channel) :
    c.publish call answer = match call.told? answer with
      | some e => (c.send e).2
      | none => c := by
  cases answer <;> rfl

theorem Steady.publish (h : c.Steady id) (call : StoreCall)
    (answer : Except StoreError call.Reply) : (c.publish call answer).Steady id := by
  rw [publish_eq]
  cases call.told? answer with
  | none => exact h
  | some e => exact h.send e

theorem Pending.publish {p : WatchEvent → Prop} (hpending : c.Pending id p) (h : c.Steady id)
    (call : StoreCall) (answer : Except StoreError call.Reply) :
    (c.publish call answer).Pending id p := by
  rw [publish_eq]
  cases call.told? answer with
  | none => exact hpending
  | some e => exact hpending.send h e

/-! ## Following the events -/

/-- Unless the receiver was told of a loss or has been outrun, it has received what was sent up to
what waits for it. -/
def Follows (c : Channel) (id : String) (received : List Received) (log : List WatchEvent) : Prop :=
  ∃ position ≤ c.sent, Assoc.get? id c.receivers = some position ∧
    ((∀ lost, .lagged lost ∉ received) → c.oldest ≤ position →
      received.filterMap Received.event? ++ c.waiting position = log)

theorem follows_subscribe {n : Nat} (h : new? n = some c) (id : String) :
    (c.subscribe id).Follows id [] [] := by
  unfold new? at h
  split at h
  · cases h
  · cases h
    exact ⟨0, Nat.le_refl 0, Assoc.get?_put_self id 0 _, fun _ _ => rfl⟩

theorem Follows.send (h : c.Follows id received log) (hs : c.Steady id) (e : WatchEvent) :
    (c.send e).2.Follows id received (log ++ [e]) := by
  obtain ⟨position, hle, hposition, hlog⟩ := h
  refine ⟨position, ?_, ?_, ?_⟩
  · rw [hs.send_eq]
    exact Nat.le_succ_of_le hle
  · rw [hs.send_eq]
    exact hposition
  · intro hlost holdest
    have hbefore : c.oldest ≤ position := by
      rw [hs.oldest_send] at holdest
      omega
    rw [hs.waiting_send e hle holdest, ← List.append_assoc, hlog hlost hbefore]

theorem Follows.publish (h : c.Follows id received log) (hs : c.Steady id) (call : StoreCall)
    (answer : Except StoreError call.Reply) :
    (c.publish call answer).Follows id received (log ++ (call.told? answer).toList) := by
  rw [publish_eq]
  cases call.told? answer with
  | none =>
      rw [Option.toList_none, List.append_nil]
      exact h
  | some e => exact h.send hs e

theorem Follows.advance {position position' : Nat} {r : Received}
    (hlog : (∀ lost, .lagged lost ∉ received) → c.oldest ≤ position →
      received.filterMap Received.event? ++ c.waiting position = log)
    (hadvances : c.Advances position r position') (hlost : ∀ lost, .lagged lost ∉ received ++ [r]) :
    (received ++ [r]).filterMap Received.event? ++ c.waiting position' = log := by
  have hbefore : ∀ lost, .lagged lost ∉ received :=
    fun lost hmem => hlost lost (List.mem_append_left _ hmem)
  rw [List.filterMap_append]
  cases hadvances with
  | lagged =>
      exact absurd (List.mem_append_right received (List.mem_singleton_self _)) (hlost _)
  | done hreached =>
      rw [← hlog hbefore hreached]
      cases c.isOpen <;> simp [Received.event?]
  | event hreached hnext =>
      rw [← hlog hbefore hreached, hnext]
      simp [Received.event?]

theorem Follows.receive (h : c.Follows id received log) (hs : c.Steady id) {r : Received}
    (hreceive : c.receive? id = some (r, c')) :
    c'.Follows id (received ++ [r]) log ∧ c'.Steady id := by
  obtain ⟨position, hle, hposition, hlog⟩ := h
  have hadvances := c.next_advances position
  have hsent := hadvances.le_sent hs.kept hle
  rw [receive?_eq hposition] at hreceive
  cases hreceive
  refine ⟨⟨_, hsent, Assoc.get?_put_self id _ _, ?_⟩, hs.moveTo hsent⟩
  intro hlost _
  exact Follows.advance (c := c) hlog hadvances hlost

/-- What others do does not matter to a receiver. -/
theorem Follows.of_receivers {receivers : List (String × Nat)} (h : c.Follows id received log)
    (hs : c.Steady id) (hid : Assoc.get? id receivers = Assoc.get? id c.receivers) :
    ({ c with receivers } : Channel).Follows id received log ∧
      ({ c with receivers } : Channel).Steady id := by
  obtain ⟨position, hle, hposition, hlog⟩ := h
  exact ⟨⟨position, hle, hid.trans hposition, hlog⟩,
    ⟨⟨position, hle, hid.trans hposition⟩, hs.kept, hs.capacity⟩⟩

/-! ## Emptying the channel -/

theorem Follows.drainUpTo {n : Nat} (h : c.Follows id received log) (hs : c.Steady id)
    (hn : 0 < n)
    (hreach : ∀ position, Assoc.get? id c.receivers = some position → c.oldest ≤ position →
      c.sent - position < n)
    (hlost : ∀ lost, .lagged lost ∉ received ++ (c.drainUpTo id n).1) :
    (received ++ (c.drainUpTo id n).1).filterMap Received.event? = log := by
  induction n generalizing c received with
  | zero => exact absurd hn (Nat.lt_irrefl 0)
  | succ n ih =>
      have hfollows := h
      obtain ⟨position, hle, hposition, hlog⟩ := h
      have hadvances := c.next_advances position
      have hreceive := receive?_eq hposition
      generalize (c.next position).1 = r at hadvances hreceive
      generalize (c.next position).2 = position' at hadvances hreceive
      have hrest := hfollows.receive hs hreceive
      unfold Channel.drainUpTo at hlost ⊢
      rw [hreceive] at hlost ⊢
      cases hadvances with
      | lagged hlag =>
          exact absurd (List.mem_append_right _ List.mem_cons_self) (hlost _)
      | done hreached hnone =>
          have hall := Follows.advance hlog (.done hreached hnone)
          rw [hnone, List.append_nil] at hall
          cases hopen : c.isOpen <;> rw [hopen] at hall hlost <;> exact hall hlost
      | @event e hreached hnext =>
          have hsplit : received ++ .event e ::
              (Channel.drainUpTo id n (c.moveTo id (position + 1))).1 =
                received ++ [.event e] ++
                  (Channel.drainUpTo id n (c.moveTo id (position + 1))).1 := by simp
          have hone := hreach position hposition hreached
          have hsent := (Advances.event hreached hnext).le_sent hs.kept hle
          show (received ++ Received.event e :: _).filterMap Received.event? = log
          rw [hsplit]
          refine ih hrest.1 hrest.2 (by omega) ?_ (fun lost => hsplit ▸ hlost lost)
          intro position' hposition' _
          cases (Assoc.get?_put_self id _ _).symm.trans hposition'
          show c.sent - (position + 1) < n
          omega

/-- A receiver that has emptied the channel and was told of no loss has received everything. -/
theorem Follows.drain (h : c.Follows id received log) (hs : c.Steady id)
    (hlost : ∀ lost, .lagged lost ∉ received ++ (c.drain id).1) :
    (received ++ (c.drain id).1).filterMap Received.event? = log := by
  refine h.drainUpTo hs (Nat.succ_pos _) ?_ hlost
  intro position _ hreached
  unfold oldest at hreached
  omega

end Channel

end ReleaseControl
