import ReleaseControl.Proofs.Assoc
import ReleaseControl.Watch.Channel

/-! # The channel tells of what it loses

For a receiver something is pending when an event waits for it or the channel will tell it that
events were lost. A channel that keeps at least one event never drops what is pending without
telling: sending makes the event pending and leaves the rest so, and receiving takes the one event
that is handed out. -/

namespace ReleaseControl.Channel

/-- The receiver is subscribed and where the channel says, and the channel keeps events. -/
structure Steady (c : Channel) (id : String) : Prop where
  subscribed : ∃ position ≤ c.sent, Assoc.get? id c.receivers = some position
  kept : c.kept.length ≤ c.sent
  capacity : 0 < c.capacity

/-- The events kept for a receiver at a position. -/
def waiting (c : Channel) (position : Nat) : List WatchEvent := c.kept.drop (position - c.oldest)

/-- The receiver has been outrun, or an event of the kind waits for it. -/
def Pending (c : Channel) (id : String) (p : WatchEvent → Prop) : Prop :=
  ∃ position, Assoc.get? id c.receivers = some position ∧
    (position < c.oldest ∨ ∃ e ∈ c.waiting position, p e)

/-- The channel with the receiver at a position. -/
def moveTo (id : String) (position : Nat) (c : Channel) : Channel :=
  { c with receivers := Assoc.put id position c.receivers }

variable {c c' : Channel} {id : String} {p : WatchEvent → Prop}

theorem steady_subscribe {n : Nat} (h : new? n = some c) (id : String) :
    (c.subscribe id).Steady id := by
  unfold new? at h
  split at h
  · cases h
  · cases h
    exact ⟨⟨0, Nat.le_refl 0, Assoc.get?_put_self id 0 _⟩, Nat.le_refl 0,
      Nat.pos_of_isPowerOfTwo (Nat.isPowerOfTwo_nextPowerOfTwo n)⟩

/-- A power of two is kept as it is. -/
theorem new?_eq {n : Nat} (hpos : n ≠ 0) (hmax : n ≤ maxCapacity) (hpower : n.nextPowerOfTwo = n) :
    new? n = some ⟨n, [], 0, [], true⟩ := by
  unfold new?
  rw [if_neg (by omega), hpower]

/-! ## Sending -/

/-- A channel with a receiver keeps the event and its last ones before. -/
theorem Steady.send_eq (h : c.Steady id) (e : WatchEvent) : (c.send e).2 =
    { c with
      kept := (c.kept ++ [e]).drop (c.kept.length + 1 - c.capacity)
      sent := c.sent + 1 } := by
  obtain ⟨⟨position, -, hposition⟩, -, -⟩ := h
  have hsome : c.hasSubscribers := by
    unfold hasSubscribers
    cases hr : c.receivers with
    | nil =>
        rw [hr] at hposition
        cases hposition
    | cons a rest => rfl
  unfold send
  rw [if_pos hsome]
  simp

theorem Steady.send (h : c.Steady id) (e : WatchEvent) : (c.send e).2.Steady id := by
  obtain ⟨position, hle, hposition⟩ := h.subscribed
  have hkept := h.kept
  rw [h.send_eq]
  refine ⟨⟨position, Nat.le_succ_of_le hle, hposition⟩, ?_, h.capacity⟩
  simp only [List.length_drop, List.length_append, List.length_singleton]
  omega

/-- What falls off the front moves the oldest event on by as much. -/
theorem Steady.oldest_send (h : c.Steady id) (e : WatchEvent) :
    (c.send e).2.oldest = c.oldest + (c.kept.length + 1 - c.capacity) := by
  have hkept := h.kept
  have hcapacity := h.capacity
  rw [h.send_eq]
  simp only [oldest, List.length_drop, List.length_append, List.length_singleton]
  omega

/-- The event waits behind the others for a receiver that is not outrun by it. -/
theorem Steady.waiting_send (h : c.Steady id) (e : WatchEvent) {position : Nat}
    (hle : position ≤ c.sent) (hposition : (c.send e).2.oldest ≤ position) :
    (c.send e).2.waiting position = c.waiting position ++ [e] := by
  have hkept := h.kept
  rw [h.oldest_send] at hposition
  have hsum : c.kept.length + 1 - c.capacity +
      (position - (c.oldest + (c.kept.length + 1 - c.capacity))) = position - c.oldest := by
    omega
  have hlength : position - c.oldest ≤ c.kept.length := by
    unfold oldest
    omega
  unfold waiting
  rw [h.oldest_send, h.send_eq, List.drop_drop, hsum, List.drop_append_of_le_length hlength]

/-- What is pending for a receiver at a position stays so when an event is sent. -/
theorem pending_send_of (h : c.Steady id) (e : WatchEvent) {position : Nat}
    (hposition : Assoc.get? id c.receivers = some position) (hle : position ≤ c.sent)
    (hp : ∃ e' ∈ c.waiting position ++ [e], p e') : (c.send e).2.Pending id p := by
  refine ⟨position, ?_, ?_⟩
  · rw [h.send_eq]
    exact hposition
  · by_cases hlag : position < (c.send e).2.oldest
    · exact .inl hlag
    · rw [h.waiting_send e hle (Nat.le_of_not_lt hlag)]
      exact .inr hp

theorem Pending.send (hpending : c.Pending id p) (h : c.Steady id) (e : WatchEvent) :
    (c.send e).2.Pending id p := by
  obtain ⟨position, hposition, hlag | ⟨e', he', hp⟩⟩ := hpending
  · refine ⟨position, ?_, .inl ?_⟩
    · rw [h.send_eq]
      exact hposition
    · rw [h.oldest_send]
      exact Nat.lt_add_right _ hlag
  · obtain ⟨position', hle, hposition'⟩ := h.subscribed
    cases hposition.symm.trans hposition'
    exact pending_send_of h e hposition hle ⟨e', List.mem_append_left _ he', hp⟩

/-- An event that is sent is pending. -/
theorem pending_send (h : c.Steady id) {e : WatchEvent} (hp : p e) :
    (c.send e).2.Pending id p := by
  obtain ⟨position, hle, hposition⟩ := h.subscribed
  exact pending_send_of h e hposition hle
    ⟨e, List.mem_append_right _ (List.mem_singleton_self e), hp⟩

/-! ## Receiving -/

/-- How a receiver at a position goes on: outrun, at the end, or with the event that waits next. -/
inductive Advances (c : Channel) (position : Nat) : Received → Nat → Prop where
  | lagged (h : position < c.oldest) :
      Advances c position (.lagged (c.oldest - position)) c.oldest
  | done (h : c.oldest ≤ position) (hnone : c.waiting position = []) :
      Advances c position (if c.isOpen then .empty else .closed) position
  | event {e : WatchEvent} (h : c.oldest ≤ position)
      (hnext : c.waiting position = e :: c.waiting (position + 1)) :
      Advances c position (.event e) (position + 1)

theorem next_advances (c : Channel) (position : Nat) :
    c.Advances position (c.next position).1 (c.next position).2 := by
  unfold next
  by_cases hlag : position < c.oldest
  · rw [if_pos hlag]
    exact .lagged hlag
  · have hle := Nat.le_of_not_lt hlag
    rw [if_neg hlag]
    cases hnext : c.kept[position - c.oldest]? with
    | none => exact .done hle (List.drop_eq_nil_of_le (List.getElem?_eq_none_iff.mp hnext))
    | some e =>
        obtain ⟨hlength, hget⟩ := List.getElem?_eq_some_iff.mp hnext
        refine .event hle ?_
        have hsucc : position + 1 - c.oldest = position - c.oldest + 1 := by omega
        unfold waiting
        rw [List.drop_eq_getElem_cons hlength, hget, hsucc]

/-- A receiver advances up to the last event sent. -/
theorem Advances.le_sent {position position' : Nat} {r : Received}
    (h : c.Advances position r position') (hkept : c.kept.length ≤ c.sent)
    (hle : position ≤ c.sent) : position' ≤ c.sent := by
  cases h with
  | lagged => exact Nat.sub_le _ _
  | done => exact hle
  | event h hnext =>
      have hlength := congrArg List.length hnext
      rw [waiting, List.length_drop, List.length_cons] at hlength
      unfold oldest at h hlength
      omega

theorem receive?_eq {position : Nat} (hposition : Assoc.get? id c.receivers = some position) :
    c.receive? id = some ((c.next position).1, c.moveTo id (c.next position).2) := by
  unfold receive?
  rw [hposition]
  rfl

theorem Steady.moveTo (h : c.Steady id) {position : Nat} (hle : position ≤ c.sent) :
    (c.moveTo id position).Steady id :=
  ⟨⟨position, hle, Assoc.get?_put_self id position _⟩, h.kept, h.capacity⟩

/-- What a receiver gets and what is left pending for it. -/
theorem Steady.receive (h : c.Steady id) :
    ∃ r c', c.receive? id = some (r, c') ∧ c'.Steady id ∧ ∀ p, c.Pending id p →
      c'.Pending id p ∨ (∃ lost, r = .lagged lost) ∨ ∃ e, r = .event e ∧ p e := by
  obtain ⟨position, hle, hposition⟩ := h.subscribed
  have hnext := c.next_advances position
  refine ⟨_, _, receive?_eq hposition, h.moveTo (hnext.le_sent h.kept hle), ?_⟩
  rintro p ⟨position', hposition', hp⟩
  cases hposition.symm.trans hposition'
  have moved (position : Nat) :
      Assoc.get? id (c.moveTo id position).receivers = some position :=
    Assoc.get?_put_self id position _
  generalize (c.next position).1 = r at hnext ⊢
  generalize (c.next position).2 = position' at hnext ⊢
  cases hnext with
  | lagged => exact .inr (.inl ⟨_, rfl⟩)
  | done => exact .inl ⟨position, moved position, hp⟩
  | event hreached hnext =>
      rcases hp with hlag | ⟨e', he', hp⟩
      · exact absurd hlag (Nat.not_lt.mpr hreached)
      · rw [hnext] at he'
        rcases List.mem_cons.mp he' with rfl | he'
        · exact .inr (.inr ⟨_, rfl, hp⟩)
        · exact .inl ⟨position + 1, moved _, .inr ⟨e', he', hp⟩⟩

end ReleaseControl.Channel
