import Mathlib.Data.List.Induction
import Mathlib.Data.List.Nodup
import ReleaseControl.Proofs.Record.Status

/-! # Conditions tell when they last changed

Conditions are placed one after the other, each with a clock reading, into a list that was empty at
first. However the types are mixed, there is one entry for each of them, and it tells of the
placements of its type alone (`Condition.Ledger`): what the latest one said, and when the status
began that it says (`Condition.Tells`). The calls on the status of a Release place conditions in
this way, except that a run is not recorded once the status is settled for the generation; then all
of the status stays (`ReleaseStatus.conditions_tell_transitions`). -/

namespace ReleaseControl

namespace Condition

/-- A condition that is placed, with what the clock shows then. -/
structure Placement where
  now : String
  condition : Condition

/-- The conditions after some placements, from none at all. -/
def placeAll (placements : List Placement) : List Condition :=
  placements.foldl (fun conditions p => set p.now p.condition conditions) []

/-- The placements of a type. -/
def ofType (type : String) (placements : List Placement) : List Placement :=
  placements.filter fun p => p.condition.type = type

/-! ## What an entry tells -/

/-- The entry says what the latest placement of its type said, and since when the status is what it
is: the placement at that time was the first or changed the status, and none after it did. -/
structure Tells (entry : Condition) (own : List Placement) : Prop where
  latest : ∃ p, own.getLast? = some p ∧
    entry = { p.condition with lastTransition := entry.lastTransition }
  since : ∃ before turn after, own = before ++ turn :: after ∧
    entry.lastTransition = some turn.now ∧
    (∀ p, before.getLast? = some p → p.condition.status ≠ turn.condition.status) ∧
    ∀ p ∈ after, p.condition.status = turn.condition.status

variable {entry : Condition} {own : List Placement}

/-- The latest placement is the turn or kept its status. -/
theorem Tells.status_eq (h : entry.Tells own) {before after : List Placement} {turn : Placement}
    (hown : own = before ++ turn :: after)
    (hafter : ∀ p ∈ after, p.condition.status = turn.condition.status) :
    entry.status = turn.condition.status := by
  obtain ⟨last, hlast, hentry⟩ := h.latest
  have hmem : last ∈ turn :: after := by
    rw [hown, List.getLast?_append, Option.or_of_isSome (by simp)] at hlast
    exact List.mem_of_getLast? hlast
  rw [hentry]
  rcases List.mem_cons.mp hmem with rfl | hmem
  · rfl
  · exact hafter last hmem

theorem tells_first (p : Placement) :
    Tells { p.condition with lastTransition := some p.now } [p] where
  latest := ⟨p, rfl, rfl⟩
  since := ⟨[], p, [], rfl, rfl, by simp, by simp⟩

/-- A further placement of the type takes over all but the time, which it takes over only if the
status is another one. -/
theorem Tells.concat (h : entry.Tells own) (p : Placement) :
    Tells { p.condition with
      lastTransition :=
        if entry.status = p.condition.status then entry.lastTransition else some p.now }
      (own ++ [p]) where
  latest := ⟨p, List.getLast?_concat, rfl⟩
  since := by
    by_cases hstatus : entry.status = p.condition.status
    · obtain ⟨before, turn, after, hown, htime, hturn, hafter⟩ := h.since
      refine ⟨before, turn, after ++ [p], by simp [hown], by simp [hstatus, htime], hturn, ?_⟩
      rw [List.forall_mem_append]
      refine ⟨hafter, ?_⟩
      simp [← hstatus, h.status_eq hown hafter]
    · obtain ⟨last, hlast, hentry⟩ := h.latest
      refine ⟨own, p, [], rfl, by simp [hstatus], ?_, by simp⟩
      intro q hq
      obtain rfl := Option.some.inj (hlast.symm.trans hq)
      rwa [hentry] at hstatus

/-! ## Types in the order of their first placement -/

section Types

variable {α : Type} [DecidableEq α]

theorem eraseDups_concat (types : List α) (type : α) : (types ++ [type]).eraseDups =
    if type ∈ types then types.eraseDups else types.eraseDups ++ [type] := by
  rw [List.eraseDups_append]
  by_cases h : type ∈ types
  · simp [h, List.removeAll]
  · simp [h, List.removeAll, List.eraseDups_cons]

theorem nodup_eraseDups (types : List α) : types.eraseDups.Nodup := by
  induction types using List.reverseRecOn with
  | nil => simp
  | append_singleton types type ih =>
      rw [eraseDups_concat]
      split
      · exact ih
      · next hnew =>
          refine List.nodup_append.mpr ⟨ih, List.nodup_singleton type, ?_⟩
          rintro a ha b hb rfl
          rw [List.mem_singleton] at hb
          exact hnew (hb ▸ List.mem_eraseDups.mp ha)

end Types

/-! ## The list of entries -/

/-- There is one entry for each type that was placed, in the order in which the types came up, and
it tells of the placements of its type. -/
structure Ledger (placements : List Placement) (conditions : List Condition) : Prop where
  types : conditions.map (·.type) = (placements.map (·.condition.type)).eraseDups
  tells : ∀ entry ∈ conditions, entry.Tells (ofType entry.type placements)

variable {placements : List Placement} {conditions : List Condition}

theorem Ledger.mem_types (h : Ledger placements conditions) (type : String) :
    type ∈ conditions.map (·.type) ↔ type ∈ placements.map (·.condition.type) := by
  rw [h.types, List.mem_eraseDups]

theorem Ledger.nodup (h : Ledger placements conditions) : (conditions.map (·.type)).Nodup := by
  rw [h.types]
  exact nodup_eraseDups _

theorem ofType_concat_self (placements : List Placement) (p : Placement) :
    ofType p.condition.type (placements ++ [p]) = ofType p.condition.type placements ++ [p] := by
  simp [ofType]

/-- What is placed for one type is nothing to an entry of another. -/
theorem Tells.concat_ne (h : entry.Tells (ofType entry.type placements)) {p : Placement}
    (hne : entry.type ≠ p.condition.type) :
    entry.Tells (ofType entry.type (placements ++ [p])) := by
  have hsame : ofType entry.type (placements ++ [p]) = ofType entry.type placements := by
    simp [ofType, hne.symm]
  rwa [hsame]

theorem Ledger.append (h : Ledger placements conditions) {p : Placement}
    (hnew : ∀ b ∈ conditions, b.type ≠ p.condition.type) :
    Ledger (placements ++ [p])
      (conditions ++ [{ p.condition with lastTransition := some p.now }]) := by
  have hfirst : p.condition.type ∉ placements.map (·.condition.type) := by
    rw [← h.mem_types, List.mem_map]
    rintro ⟨b, hb, htype⟩
    exact hnew b hb htype
  have hown : ofType p.condition.type placements = [] := by
    rw [ofType, List.filter_eq_nil_iff]
    intro q hq htype
    exact hfirst (List.mem_map.mpr ⟨q, hq, of_decide_eq_true htype⟩)
  refine ⟨?_, ?_⟩
  · rw [List.map_append, List.map_append, List.map_singleton, List.map_singleton,
      eraseDups_concat, if_neg hfirst, h.types]
  · rw [List.forall_mem_append, List.forall_mem_singleton, ofType_concat_self, hown]
    exact ⟨fun b hb => (h.tells b hb).concat_ne (hnew b hb), tells_first p⟩

theorem Ledger.replace {before rest : List Condition} {old : Condition}
    (h : Ledger placements (before ++ old :: rest)) {p : Placement}
    (hold : old.type = p.condition.type) :
    Ledger (placements ++ [p]) (before ++ { p.condition with
      lastTransition :=
        if old.status = p.condition.status then old.lastTransition else some p.now } :: rest) := by
  have hknown : p.condition.type ∈ placements.map (·.condition.type) := by
    rw [← h.mem_types, ← hold]
    simp
  -- the entry is the only one of its type
  have hnodup := h.nodup
  rw [List.map_append, List.map_cons, List.nodup_middle, ← List.map_append] at hnodup
  have hothers : ∀ b ∈ before ++ rest, b.type ≠ p.condition.type := by
    intro b hb htype
    exact (List.nodup_cons.mp hnodup).1 (List.mem_map.mpr ⟨b, hb, htype.trans hold.symm⟩)
  refine ⟨?_, ?_⟩
  · rw [List.map_append, List.map_append, List.map_singleton, eraseDups_concat, if_pos hknown,
      ← h.types, List.map_append, List.map_cons, List.map_cons, hold]
  · obtain ⟨hfront, hback⟩ := List.forall_mem_append.mp hothers
    have htells := h.tells
    rw [List.forall_mem_append, List.forall_mem_cons] at htells ⊢
    obtain ⟨htellsFront, htellsOld, htellsBack⟩ := htells
    refine ⟨fun b hb => (htellsFront b hb).concat_ne (hfront b hb), ?_,
      fun b hb => (htellsBack b hb).concat_ne (hback b hb)⟩
    rw [ofType_concat_self]
    rw [hold] at htellsOld
    exact htellsOld.concat p

theorem Ledger.place (h : Ledger placements conditions) (p : Placement) :
    Ledger (placements ++ [p]) (set p.now p.condition conditions) := by
  have hplaced := placed_stamp p.now p.condition conditions
  generalize hc : { p.condition with
    lastTransition := stamp p.now p.condition conditions } = c at hplaced
  have htype : c.type = p.condition.type := by rw [← hc]
  generalize set p.now p.condition conditions = conditions' at hplaced
  cases hplaced with
  | appended hnone =>
      rw [htype] at hnone
      have hfind : find? p.condition.type conditions = none := by
        rw [find?, List.find?_eq_none]
        intro b hb
        simpa using hnone b hb
      rw [← hc, stamp, hfind]
      exact h.append hnone
  | replaced hbefore hold =>
      rw [htype] at hbefore hold
      rw [← hc, stamp, find?_append_cons hbefore hold]
      exact h.replace hold

theorem ledger_placeAll (placements : List Placement) :
    Ledger placements (placeAll placements) := by
  induction placements using List.reverseRecOn with
  | nil => exact ⟨by simp [placeAll], by simp [placeAll]⟩
  | append_singleton placements p ih =>
      rw [placeAll, List.foldl_append]
      exact ih.place p

end Condition

/-! ## Writing the status of a Release -/

namespace ReleaseStatus

open Condition

theorem fst_markTriggered (now : String) (run : RecordKey) (generation : Int64)
    (s : ReleaseStatus) : (s.markTriggered now run generation).1 = !s.isSettledFor generation := by
  unfold markTriggered
  cases s.isSettledFor generation <;> rfl

/-- A call that writes a status. -/
inductive Writing where
  | setCondition (c : Condition)
  | setError (message : String) (generation : Int64)
  | setRetrying (message : String) (generation : Int64)
  | markTriggered (run : RecordKey) (generation : Int64)

namespace Writing

def perform (now : String) (s : ReleaseStatus) : Writing → ReleaseStatus
  | setCondition c => s.setCondition now c
  | setError message generation => s.setError now message generation
  | setRetrying message generation => s.setRetrying now message generation
  | markTriggered run generation => (s.markTriggered now run generation).2

/-- The condition that a call places, unless it is refused. -/
def placement? (now : String) (s : ReleaseStatus) : Writing → Option Placement
  | setCondition c => some ⟨now, c⟩
  | setError message generation =>
    some ⟨now, .new succeededType .false errorReason message (some generation)⟩
  | setRetrying message generation =>
    some ⟨now, .new succeededType .false retryingReason message (some generation)⟩
  | markTriggered _ generation =>
    if s.isSettledFor generation then none
    else some ⟨now, .new succeededType .unknown runningReason "Release pipeline triggered"
      (some generation)⟩

theorem conditions_perform (now : String) (s : ReleaseStatus) (w : Writing) :
    (w.perform now s).conditions =
      (w.placement? now s).toList.foldl (fun cs p => Condition.set p.now p.condition cs)
        s.conditions := by
  cases w with
  | setCondition | setError | setRetrying => rfl
  | markTriggered run generation =>
      rw [perform, placement?, ReleaseStatus.markTriggered]
      by_cases hsettled : s.isSettledFor generation
      · rw [if_pos hsettled, if_pos hsettled]
        rfl
      · rw [if_neg hsettled, if_neg hsettled]
        rfl

end Writing

/-- The status after some calls, from the empty one; each call comes with a clock reading. -/
def writeAll (writings : List (String × Writing)) : ReleaseStatus :=
  writings.foldl (fun s w => w.2.perform w.1 s) .empty

/-- The placements that calls make on a status, one after the other. -/
def placementsFrom (s : ReleaseStatus) : List (String × Writing) → List Placement
  | [] => []
  | w :: rest => (w.2.placement? w.1 s).toList ++ placementsFrom (w.2.perform w.1 s) rest

theorem conditions_writeAll (writings : List (String × Writing)) :
    (writeAll writings).conditions = placeAll (placementsFrom .empty writings) := by
  have go (s : ReleaseStatus) : (writings.foldl (fun s w => w.2.perform w.1 s) s).conditions =
      (placementsFrom s writings).foldl (fun cs p => Condition.set p.now p.condition cs)
        s.conditions := by
    induction writings generalizing s with
    | nil => rfl
    | cons w rest ih =>
        rw [List.foldl_cons, ih, placementsFrom, List.foldl_append, Writing.conditions_perform]
  exact go .empty

/-- Whatever calls are made on a status that was empty at first, and whenever: there is one entry
for each type that was ever placed, in the order in which the types came up. It says what the
latest placement of the type said, and its time is that of the latest one which inserted it or
changed its status; the placements that kept the status or were of other types do not move it.
Recording a run fails just if the status is settled for the generation, and then leaves all of it as
it was. -/
theorem conditions_tell_transitions (writings : List (String × Writing)) :
    let conditions := (writeAll writings).conditions
    let placements := placementsFrom .empty writings
    (conditions.map (·.type) = (placements.map (·.condition.type)).eraseDups ∧
        (conditions.map (·.type)).Nodup) ∧
      (∀ entry ∈ conditions, entry.Tells (ofType entry.type placements)) ∧
      ∀ (s : ReleaseStatus) now run generation,
        ((s.markTriggered now run generation).1 = false ↔ s.isSettledFor generation) ∧
          ((s.markTriggered now run generation).1 = false →
            (s.markTriggered now run generation).2 = s) := by
  intro conditions placements
  have hledger : Ledger placements conditions := by
    have := ledger_placeAll placements
    rwa [← conditions_writeAll] at this
  refine ⟨⟨hledger.types, hledger.nodup⟩, hledger.tells, ?_⟩
  intro s now run generation
  have hrefused : (s.markTriggered now run generation).1 = false ↔ s.isSettledFor generation := by
    rw [fst_markTriggered, Bool.not_eq_false']
  refine ⟨hrefused, fun h => ?_⟩
  rw [markTriggered, if_pos (hrefused.mp h)]

/-- Another condition is set in between, the failure is settled at the second try, and a run is
recorded too late. -/
def mixed : List (String × Writing) := [
  ("t1", .setCondition (.new "Verified" .true "Signed" "" none)),
  ("t2", .setRetrying "connection refused" 1),
  ("t3", .setCondition (.new "Verified" .true "Attested" "" none)),
  ("t4", .setError "not found" 1),
  ("t5", .markTriggered ⟨"b", "run"⟩ 1)]

/-- The Release has been failing since the first try. -/
theorem conditions_tell_transitions_mixed :
    ∃ entry ∈ (writeAll mixed).conditions,
      entry = ⟨"Succeeded", .false, "Error", "not found", some "t2", some 1⟩ ∧
        entry.Tells (ofType entry.type (placementsFrom .empty mixed)) ∧
          (writeAll (mixed.take 4)).markTriggered "t5" ⟨"b", "run"⟩ 1 =
            (false, writeAll (mixed.take 4)) := by
  have hmem : ⟨"Succeeded", .false, "Error", "not found", some "t2", some 1⟩ ∈
      (writeAll mixed).conditions := by decide
  obtain ⟨-, htells, hmark⟩ := conditions_tell_transitions mixed
  have hrefused : ((writeAll (mixed.take 4)).markTriggered "t5" ⟨"b", "run"⟩ 1).1 = false := by
    decide
  exact ⟨_, hmem, rfl, htells _ hmem, Prod.ext hrefused ((hmark _ _ _ _).2 hrefused)⟩

end ReleaseStatus

end ReleaseControl
