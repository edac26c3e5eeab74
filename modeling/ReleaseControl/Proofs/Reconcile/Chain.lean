import ReleaseControl.Proofs.Store.Frame
import ReleaseControl.Proofs.Store.Program
import ReleaseControl.Reconcile.Chain

/-! # Following a chain

Resolving a chain only reads and gives up at the first failure, so on a given store it comes to
one result (`Lookup.on`). The result depends on the links and the strategies alone: calls on
Releases and runs do not change it (`resolve_on_congr`). A chain that is complete took three
calls. -/

namespace ReleaseControl.Chain

open Program Store

variable {α β : Type}

/-- What a lookup comes to on a store that does not fail. -/
def Lookup.on (s : Store) (x : Lookup α) : Except ReconcileError α := (x.run.eval "" "" s).1

/-! ## Lookups only read -/

theorem givesUp_pure (a : α) : GivesUp (pure a : Lookup α).run := givesUp_ok a

theorem run_ofExcept (v : Except ReconcileError α) :
    (MonadExcept.ofExcept v : Lookup α).run = .done v := by
  cases v <;> rfl

theorem givesUp_throw {e : ReconcileError} (he : e.isRetryable = false) :
    GivesUp (throw e : Lookup α).run := givesUp_error he

theorem givesUp_bind {x : Lookup α} {f : α → Lookup β} (hx : GivesUp x.run)
    (hf : ∀ a, GivesUp (f a).run) : GivesUp (x >>= f).run :=
  hx.bind (fun _ => rfl) hf

/-- One read, looked through afterwards. -/
theorem givesUp_ask {c : StoreCall} (hread : c.isRead) {g : c.Reply → Except StoreError α}
    (hg : ∀ reply e, g reply = .error e → e.isTransient = false) :
    GivesUp (ofStore ((Program.ask c).bind fun answer => .done (answer.bind g))).run := by
  refine .call hread (fun e => rfl) ?_
  intro reply
  refine .done _ ?_
  intro e he
  obtain ⟨cause, hcause, rfl⟩ := mapError_eq_error he
  exact hg reply cause hcause

section Require

variable {ρ : Type} [Record ρ]

theorem getRecord_eq (key : RecordKey) :
    getRecord ρ key = (ask (.get (Record.kind ρ) key)).bind fun answer =>
      .done (answer.bind fun found =>
        found.elim (.ok none) fun stored => stored.typed.map some) := by
  simp only [getRecord, ask, bind_eq, bind_call, bind_done]
  congr 1
  funext answer
  cases answer with
  | error e => rfl
  | ok found => cases found <;> rfl

theorem run_getRecord_answered (key : RecordKey) (f : Except StoreError (Option ρ) → Program β)
    {uid now : String} (rest : List Fate) (s : Store) :
    ((getRecord ρ key).bind f).run (scripted uid now) (.answered :: rest, s) =
      (f ((s.get? (Record.kind ρ) key).elim (.ok none) fun stored => stored.typed.map some)).run
        (scripted uid now) (rest, s) := by
  rw [getRecord_eq]
  rfl

theorem listRecords_eq (q : Query) :
    listRecords ρ q = (ask (.list (Record.kind ρ) q)).bind fun answer =>
      .done (answer.bind fun stored => stored.mapM StoredRecord.typed) := by
  simp only [listRecords, ask, bind_eq, bind_call, bind_done]
  congr 1
  funext answer
  cases answer <;> rfl

/-- A record that was found is read by its type, which may fail for good. -/
theorem isTransient_of_found {found : Option StoredRecord} {e : StoreError}
    (h : (found.elim (.ok none) fun stored => (stored.typed : Except StoreError ρ).map some) =
      .error e) : e.isTransient = false := by
  cases found with
  | none => cases h
  | some stored => exact StoredRecord.isTransient_of_typed (map_eq_error h)

theorem givesUp_getRecord (key : RecordKey) : GivesUp (ofStore (getRecord ρ key)).run := by
  rw [getRecord_eq]
  exact givesUp_ask rfl fun found e => isTransient_of_found

theorem givesUp_listRecords (q : Query) : GivesUp (ofStore (listRecords ρ q)).run := by
  rw [listRecords_eq]
  exact givesUp_ask rfl fun stored e => StoredRecord.isTransient_of_mapM_typed

theorem givesUp_require (key : RecordKey) : GivesUp (require ρ key).run := by
  apply givesUp_bind (givesUp_getRecord key)
  intro found
  cases found with
  | none => exact givesUp_throw rfl
  | some r => exact givesUp_pure r

end Require

theorem givesUp_findLink (r : Release) : GivesUp (findLink r).run := givesUp_require _

theorem isRetryable_of_choose {policy : AmbiguityPolicy} {link : ReleaseLink}
    {found : List ReleaseLink} {e : ReconcileError} (h : choose policy link found = .error e) :
    e.isRetryable = false := by
  unfold choose at h
  split at h
  · cases h
    rfl
  · cases h
  · split at h
    · cases h
    · cases h
      rfl

theorem givesUp_findTarget (policy : AmbiguityPolicy) (link : ReleaseLink) :
    GivesUp (findTarget policy link).run := by
  apply givesUp_bind (givesUp_listRecords _)
  intro found
  rw [run_ofExcept]
  exact .done _ fun e => isRetryable_of_choose

theorem givesUp_findStrategy (target : ReleaseLink) : GivesUp (findStrategy target).run := by
  unfold findStrategy
  cases target.strategyKey? with
  | none => exact givesUp_throw rfl
  | some key => exact givesUp_require key

theorem givesUp_resolve (policy : AmbiguityPolicy) (r : Release) :
    GivesUp (resolve policy r).run := by
  apply givesUp_bind (givesUp_findLink r)
  intro link
  apply givesUp_bind (givesUp_findTarget policy link)
  intro target
  exact givesUp_bind (givesUp_findStrategy target) fun strategy => givesUp_pure _

/-! ## What they come to -/

theorem on_bind {x : Lookup α} (hx : GivesUp x.run) (f : α → Lookup β) (s : Store) :
    (x >>= f).on s = (x.on s).bind fun a => (f a).on s := by
  show ((x.run.bind _).eval "" "" s).1 = _
  rw [eval_bind, hx.eval_snd, Lookup.on]
  cases (x.run.eval "" "" s).1 <;> rfl

theorem on_ask {c : StoreCall} (g : c.Reply → Except StoreError α) (s : Store) :
    (ofStore ((Program.ask c).bind fun answer => .done (answer.bind g))).on s =
      ((s.perform "" "" c).1.bind g).mapError .store := rfl

/-- The record that has to be there. -/
theorem require_on {ρ : Type} [Record ρ] (key : RecordKey) (s : Store) :
    (require ρ key).on s = match s.get? (Record.kind ρ) key with
      | none => .error (.notFound (Record.kind ρ) key.text)
      | some stored => stored.typed.mapError .store := by
  unfold require
  rw [on_bind (givesUp_getRecord key), getRecord_eq, on_ask]
  show Except.bind (Except.mapError _
    ((s.get? (Record.kind ρ) key).elim (.ok none) fun stored => stored.typed.map some)) _ = _
  cases s.get? (Record.kind ρ) key with
  | none => rfl
  | some stored =>
      show Except.bind (Except.mapError _ (stored.typed.map some)) _ = stored.typed.mapError _
      cases (stored.typed : Except StoreError ρ) <;> rfl

theorem findTarget_on (policy : AmbiguityPolicy) (link : ReleaseLink) (s : Store) :
    (findTarget policy link).on s =
      (((s.list ReleaseLink.kind (counterpartQuery link)).bind fun stored =>
          stored.mapM StoredRecord.typed).mapError .store).bind fun found =>
        choose policy link (counterparts link found) := by
  have hchoose (v : Except ReconcileError ReleaseLink) :
      (MonadExcept.ofExcept v : Lookup ReleaseLink).on s = v := by
    unfold Lookup.on
    rw [run_ofExcept]
    rfl
  unfold findTarget
  rw [on_bind (givesUp_listRecords _), listRecords_eq, on_ask]
  simp only [hchoose]
  rfl

theorem resolve_on (policy : AmbiguityPolicy) (r : Release) (s : Store) :
    (resolve policy r).on s = ((findLink r).on s).bind fun link =>
      ((findTarget policy link).on s).bind fun target =>
        ((findStrategy target).on s).map fun strategy => ⟨link, target, strategy⟩ := by
  unfold resolve
  rw [on_bind (givesUp_findLink r)]
  congr 1
  funext link
  rw [on_bind (givesUp_findTarget policy link)]
  congr 1
  funext target
  rw [on_bind (givesUp_findStrategy target)]
  cases (findStrategy target).on s <;> rfl

/-- Stores that agree on links and strategies lead to the same chain. -/
theorem resolve_on_congr {policy : AmbiguityPolicy} {r : Release} {s s' : Store}
    (hlinks : Agrees ReleaseLink.kind s s') (hstrategies : Agrees ReleaseStrategy.kind s s') :
    (resolve policy r).on s' = (resolve policy r).on s := by
  -- each of the three records is looked up in the same way in both stores
  have hlink : (findLink r).on s' = (findLink r).on s := by
    have hget : s'.get? (Record.kind ReleaseLink) r.linkKey =
        s.get? (Record.kind ReleaseLink) r.linkKey := hlinks.get? _
    unfold findLink
    rw [require_on, require_on, hget]
  have htarget (link : ReleaseLink) :
      (findTarget policy link).on s' = (findTarget policy link).on s := by
    rw [findTarget_on, findTarget_on, hlinks.list rfl]
  have hstrategy (target : ReleaseLink) :
      (findStrategy target).on s' = (findStrategy target).on s := by
    unfold findStrategy
    cases target.strategyKey? with
    | none => rfl
    | some key =>
        have hget : s'.get? (Record.kind ReleaseStrategy) key =
            s.get? (Record.kind ReleaseStrategy) key := hstrategies.get? _
        show (require ReleaseStrategy key).on s' = (require ReleaseStrategy key).on s
        rw [require_on, require_on, hget]
  rw [resolve_on, resolve_on, hlink]
  simp only [htarget, hstrategy]

/-- A chain that does not resolve on a store that answers is settled. -/
theorem isRetryable_of_resolve {policy : AmbiguityPolicy} {r : Release} {s : Store}
    {e : ReconcileError} (h : (resolve policy r).on s = .error e) : e.isRetryable = false :=
  (givesUp_resolve policy r).isRetryable_eval h

/-! ## What a complete chain looks like -/

theorem mem_of_choose {policy : AmbiguityPolicy} {link target : ReleaseLink}
    {found : List ReleaseLink} (h : choose policy link found = .ok target) : target ∈ found := by
  unfold choose at h
  split at h
  · cases h
  · cases h
    exact List.mem_cons_self
  · split at h
    · cases h
      exact List.mem_cons_self
    · cases h

/-- The three records of a complete chain. -/
theorem of_resolve {policy : AmbiguityPolicy} {r : Release} {s : Store} {chain : Chain}
    (h : (resolve policy r).on s = .ok chain) :
    (findLink r).on s = .ok chain.link ∧
      (findTarget policy chain.link).on s = .ok chain.targetLink ∧
        (findStrategy chain.targetLink).on s = .ok chain.strategy := by
  rw [resolve_on] at h
  obtain ⟨link, hlink, h⟩ := exists_of_bind_ok h
  obtain ⟨target, htarget, h⟩ := exists_of_bind_ok h
  cases hstrategy : (findStrategy target).on s with
  | error e => simp [hstrategy, Except.map] at h
  | ok strategy =>
      simp only [hstrategy, Except.map, Except.ok.injEq] at h
      subst h
      exact ⟨hlink, htarget, hstrategy⟩

/-- The workspace a chain leads to has a name: a stored link lives there. -/
theorem target_ne_empty {policy : AmbiguityPolicy} {r : Release} {s : Store} (hs : s.Sound)
    {chain : Chain} (h : (resolve policy r).on s = .ok chain) :
    chain.link.spec.target ≠ "" := by
  have htarget := (of_resolve h).2.1
  rw [findTarget_on] at htarget
  obtain ⟨found, hfound, hchoose⟩ := exists_of_bind_ok htarget
  obtain ⟨stored, hlist, htyped⟩ := exists_of_bind_ok (eq_ok_of_mapError hfound)
  -- the target was chosen among the stored links whose workspace is the target of `link`
  obtain ⟨hmem, hpairs⟩ := List.mem_filter.mp (List.mem_mergeSort.mp (mem_of_choose hchoose))
  obtain ⟨a, ha, hlink⟩ := StoredRecord.exists_of_mem_mapM_typed htyped hmem
  obtain ⟨x, hx⟩ := hs.exists_slot_of_list hlist ha
  have hacc := hs.accounted_link hx hlink
  simp only [ReleaseLink.pairsWith, Bool.and_eq_true, beq_iff_eq] at hpairs
  rw [← hpairs.1.1]
  exact (Json.recordMetadata_eq_ok.mp hacc.objectMetadata).2.1

/-! ## How many calls a complete chain takes -/

theorem calls_bind_lookup {x : Lookup α} (hx : GivesUp x.run) (f : α → Lookup β) {s : Store}
    {a : α} (ha : x.on s = .ok a) :
    (x >>= f).run.calls "" "" s = x.run.calls "" "" s + (f a).run.calls "" "" s := by
  show (x.run.bind _).calls "" "" s = _
  rw [calls_bind, hx.eval_snd]
  unfold Lookup.on at ha
  rw [ha]
  rfl

theorem calls_require {ρ : Type} [Record ρ] (key : RecordKey) {s : Store} {r : ρ}
    (h : (require ρ key).on s = .ok r) : (require ρ key).run.calls "" "" s = 1 := by
  unfold require at h
  rw [on_bind (givesUp_getRecord key)] at h
  obtain ⟨found, hfound, -⟩ := exists_of_bind_ok h
  unfold require
  rw [calls_bind_lookup (givesUp_getRecord key) _ hfound, getRecord_eq]
  cases found <;> rfl

theorem calls_findTarget {policy : AmbiguityPolicy} {link target : ReleaseLink} {s : Store}
    (h : (findTarget policy link).on s = .ok target) :
    (findTarget policy link).run.calls "" "" s = 1 := by
  unfold findTarget at h
  rw [on_bind (givesUp_listRecords _)] at h
  obtain ⟨found, hfound, -⟩ := exists_of_bind_ok h
  rw [findTarget, calls_bind_lookup (givesUp_listRecords _) _ hfound, listRecords_eq,
    run_ofExcept]
  rfl

theorem calls_findStrategy {target : ReleaseLink} {s : Store} {strategy : ReleaseStrategy}
    (h : (findStrategy target).on s = .ok strategy) :
    (findStrategy target).run.calls "" "" s = 1 := by
  unfold findStrategy at h ⊢
  cases hkey : target.strategyKey? with
  | none =>
      rw [hkey] at h
      cases h
  | some key =>
      rw [hkey] at h
      exact calls_require key h

theorem calls_resolve {policy : AmbiguityPolicy} {r : Release} {s : Store} {chain : Chain}
    (h : (resolve policy r).on s = .ok chain) : (resolve policy r).run.calls "" "" s = 3 := by
  obtain ⟨hlink, htarget, hstrategy⟩ := of_resolve h
  rw [resolve, calls_bind_lookup (givesUp_findLink r) _ hlink,
    calls_bind_lookup (givesUp_findTarget policy _) _ htarget,
    calls_bind_lookup (givesUp_findStrategy _) _ hstrategy, findLink, calls_require _ hlink,
    calls_findTarget htarget, calls_findStrategy hstrategy]
  rfl

end ReleaseControl.Chain
