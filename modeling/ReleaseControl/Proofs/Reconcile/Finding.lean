import ReleaseControl.Proofs.Reconcile.Course

/-! # What a verdict goes by

The verdict about a Release depends on the links, the strategies and the runs that bear the name
of the Release's own run (`Consults`). `Judges` follows it on a store that answers: how many calls
it takes at most, and what it finds in the end. All that it reads it reads before it creates the
run, so on another store that looks alike in these records it takes the same way. -/

namespace ReleaseControl

open Program Store

namespace Reconcile

variable {policy : AmbiguityPolicy} {s s' : Store} {r : Release} {chain : Chain}

/-! ## What is consulted -/

/-- The call reads what the verdict about the Release goes by. -/
inductive Consults (r : Release) : StoreCall → Prop where
  | link (key : RecordKey) : Consults r (.get ReleaseLink.kind key)
  | links {q : Query} {sel : FieldSelector} (hq : q.selector = some sel) :
      Consults r (.list ReleaseLink.kind q)
  | strategy (key : RecordKey) : Consults r (.get ReleaseStrategy.kind key)
  | run (workspace : String) :
      Consults r (.get PipelineRun.kind ⟨workspace, PipelineRun.nameFor r⟩)

theorem Consults.isRead {c : StoreCall} (h : Consults r c) : c.isRead := by
  cases h <;> rfl

/-- The stores look alike to the verdict about the Release. -/
structure Resembles (r : Release) (s s' : Store) : Prop where
  links : Agrees ReleaseLink.kind s s'
  strategies : Agrees ReleaseStrategy.kind s s'
  runs : ∀ workspace, s'.get? PipelineRun.kind ⟨workspace, PipelineRun.nameFor r⟩ =
    s.get? PipelineRun.kind ⟨workspace, PipelineRun.nameFor r⟩

namespace Resembles

theorem answer (h : Resembles r s s') {c : StoreCall} (hc : Consults r c)
    (uid now uid' now' : String) : (s'.perform uid' now' c).1 = (s.perform uid now c).1 := by
  cases hc with
  | link key => exact congrArg Except.ok (h.links.get? key)
  | links hq => exact h.links.list hq
  | strategy key => exact congrArg Except.ok (h.strategies.get? key)
  | run workspace => exact congrArg Except.ok (h.runs workspace)

/-- The run can be created in both, or is refused for the same reason. -/
theorem checkNew_run (h : Resembles r s s') (chain : Chain) :
    s'.checkNew PipelineRun.kind (runFor chain r).toJson =
      s.checkNew PipelineRun.kind (runFor chain r).toJson := by
  simp only [checkNew]
  cases hkind : checkKind PipelineRun.kind (runFor chain r).toJson with
  | error e => rfl
  | ok u =>
      cases hmeta : (runFor chain r).toJson.recordMetadata with
      | error e => rfl
      | ok m =>
          -- the metadata that are read are those that were written
          obtain ⟨⟨w, hw, hdecode⟩, -, -⟩ := Json.recordMetadata_eq_ok.mp hmeta
          obtain rfl : (runFor chain r).metadata.toJson = w := by
            simpa [PipelineRun.toJson] using hw
          obtain rfl : (runFor chain r).metadata = m := by
            rw [Metadata.decode_toJson] at hdecode
            exact Except.ok.inj hdecode
          have hslot : s'.get? PipelineRun.kind (runFor chain r).metadata.key =
              s.get? PipelineRun.kind (runFor chain r).metadata.key := h.runs _
          simp only [Bind.bind, Except.bind, hslot]

end Resembles

/-! ## What is found -/

/-- What comes of the verdict: it is reached without a write, or the run is created on the way. -/
inductive Finding where
  | kept (v : Except ReconcileError RecordKey)
  | created (chain : Chain)

namespace Finding

/-- The verdict about the Release. -/
def verdict (r : Release) : Finding → Except ReconcileError RecordKey
  | kept v => v
  | created chain => .ok (runKey chain r)

/-- What is found on a store. -/
def on (policy : AmbiguityPolicy) (s : Store) (r : Release) : Finding :=
  match (Chain.resolve policy r).on s with
  | .error e => .kept (.error e)
  | .ok chain =>
    match s.checkNew PipelineRun.kind (runFor chain r).toJson with
    | .ok _ => .created chain
    | .error e => .kept ((afterCreation chain r (.error e)).eval "" "" s).1

end Finding

/-- What is left of a verdict takes at most so many calls on the store and comes to the finding. -/
inductive Judges (s : Store) (r : Release) :
    Finding → Nat → Program (Except ReconcileError RecordKey) → Prop where
  | through {v : Except ReconcileError RecordKey} (n : Nat) (hv : IsSettled v) :
      Judges s r (.kept v) n (.done v)
  | consults {f : Finding} {n : Nat} {c : StoreCall}
      {next : Except StoreError c.Reply → Program (Except ReconcileError RecordKey)}
      (hc : Consults r c) (hnext : Judges s r f n (next (s.perform "" "" c).1)) :
      Judges s r f (n + 1) (.call c next)
  | refused {f : Finding} {n : Nat} {chain : Chain} {e : StoreError}
      {next : Except StoreError (StoreCall.create PipelineRun.kind (runFor chain r).toJson).Reply →
        Program (Except ReconcileError RecordKey)}
      (hnew : s.checkNew PipelineRun.kind (runFor chain r).toJson = .error e)
      (hnext : Judges s r f n (next (.error e))) :
      Judges s r f (n + 1) (.call (.create PipelineRun.kind (runFor chain r).toJson) next)
  | creates {n : Nat} {chain : Chain} {m : Metadata}
      {next : Except StoreError (StoreCall.create PipelineRun.kind (runFor chain r).toJson).Reply →
        Program (Except ReconcileError RecordKey)}
      (hnew : s.checkNew PipelineRun.kind (runFor chain r).toJson = .ok m)
      (hnext : ∀ (stored : StoredRecord) (run : PipelineRun), stored.typed = .ok run →
        next (.ok stored) = .done (.ok (runKey chain r))) :
      Judges s r (.created chain) (n + 1)
        (.call (.create PipelineRun.kind (runFor chain r).toJson) next)

theorem Judges.mono {f : Finding} {m n : Nat} {p : Program (Except ReconcileError RecordKey)}
    (h : Judges s r f m p) (hle : m ≤ n) : Judges s r f n p := by
  induction h generalizing n with
  | through _ hv => exact .through n hv
  | consults hc _ ih =>
      obtain ⟨n, rfl⟩ := Nat.exists_eq_add_of_lt hle
      exact .consults hc (ih (Nat.le_of_lt_succ hle))
  | refused hnew _ ih =>
      obtain ⟨n, rfl⟩ := Nat.exists_eq_add_of_lt hle
      exact .refused hnew (ih (Nat.le_of_lt_succ hle))
  | creates hnew hnext =>
      obtain ⟨n, rfl⟩ := Nat.exists_eq_add_of_lt hle
      exact .creates hnew hnext

/-! ## Following the chain -/

section Lookups

variable {α β : Type}

/-- The lookup takes at most so many calls, all of which the verdict may make. -/
def Takes (s : Store) (r : Release) (n : Nat) (x : Chain.Lookup α) : Prop :=
  ∀ (f : Finding) (m : Nat) (g : Except ReconcileError α →
    Program (Except ReconcileError RecordKey)),
      Judges s r f m (g (x.on s)) → Judges s r f (n + m) (x.run.bind g)

theorem takes_pure (a : α) : Takes s r 0 (pure a : Chain.Lookup α) := by
  intro f m g h
  rw [Nat.zero_add]
  exact h

theorem takes_throw (e : ReconcileError) : Takes s r 0 (throw e : Chain.Lookup α) := by
  intro f m g h
  rw [Nat.zero_add]
  exact h

theorem takes_bind {m n : Nat} {x : Chain.Lookup α} (hgives : GivesUp x.run)
    {f : α → Chain.Lookup β} (hx : Takes s r m x) (hf : ∀ a, x.on s = .ok a → Takes s r n (f a)) :
    Takes s r (m + n) (x >>= f) := by
  intro finding k g h
  rw [Chain.on_bind hgives] at h
  have hrun : (x >>= f).run.bind g =
      x.run.bind fun v => (ExceptT.bindCont f v : Program (Except ReconcileError β)).bind g :=
    bind_bind x.run (ExceptT.bindCont f) g
  rw [hrun, Nat.add_assoc]
  apply hx
  cases ha : x.on s with
  | error e =>
      rw [ha] at h
      exact Judges.mono h (Nat.le_add_left k n)
  | ok a =>
      rw [ha] at h
      exact hf a ha _ _ g h

theorem takes_ask {c : StoreCall} (hc : Consults r c) (g : c.Reply → Except StoreError α) :
    Takes s r 1 (Chain.ofStore ((ask c).bind fun answer => .done (answer.bind g))) := by
  intro f m next h
  rw [Nat.add_comm]
  exact .consults hc h

theorem takes_require {ρ : Type} [Record ρ] {key : RecordKey}
    (hc : Consults r (.get (Record.kind ρ) key)) : Takes s r 1 (Chain.require ρ key) := by
  have hread : Takes s r 1 (Chain.ofStore (getRecord ρ key)) := by
    rw [Chain.getRecord_eq]
    exact takes_ask hc _
  unfold Chain.require
  refine takes_bind (n := 0) (Chain.givesUp_getRecord key) hread ?_
  intro found hfound
  cases found with
  | none => exact takes_throw _
  | some a => exact takes_pure a

theorem takes_findTarget (policy : AmbiguityPolicy) (link : ReleaseLink) :
    Takes s r 1 (Chain.findTarget policy link) := by
  have hread : Takes s r 1
      (Chain.ofStore (listRecords ReleaseLink (Chain.counterpartQuery link))) := by
    rw [Chain.listRecords_eq]
    exact takes_ask (.links rfl) _
  unfold Chain.findTarget
  refine takes_bind (n := 0) (Chain.givesUp_listRecords _) hread ?_
  intro found hfound
  cases Chain.choose policy link (Chain.counterparts link found) with
  | error e => exact takes_throw e
  | ok target => exact takes_pure target

theorem takes_findStrategy (target : ReleaseLink) : Takes s r 1 (Chain.findStrategy target) := by
  unfold Chain.findStrategy
  cases target.strategyKey? with
  | none =>
      intro f m g h
      exact Judges.mono h (Nat.le_add_left m 1)
  | some key => exact takes_require (.strategy key)

theorem takes_resolve (policy : AmbiguityPolicy) (s : Store) (r : Release) :
    Takes s r 3 (Chain.resolve policy r) := by
  unfold Chain.resolve
  refine takes_bind (n := 2) (Chain.givesUp_findLink r) (takes_require (.link _)) ?_
  intro link hlink
  refine takes_bind (n := 1) (Chain.givesUp_findTarget policy link)
    (takes_findTarget policy link) ?_
  intro target htarget
  refine takes_bind (n := 0) (Chain.givesUp_findStrategy target) (takes_findStrategy target) ?_
  intro strategy hstrategy
  exact takes_pure _

end Lookups

/-! ## The whole verdict -/

/-- A run that cannot be created is looked at with one call at most. -/
theorem judges_afterCreation {e : StoreError} (he : e.isTransient = false) :
    Judges s r (.kept ((afterCreation chain r (.error e)).eval "" "" s).1) 1
      (afterCreation chain r (.error e)) := by
  unfold afterCreation
  split
  · next h => cases h
  · cases hu : r.metadata.uid with
    | none =>
        unfold Trigger.findOwned
        rw [hu]
        exact .through 1 (isSettled_error rfl)
    | some u =>
        rw [findOwned_eq hu, Chain.getRecord_eq]
        refine .consults (.run chain.link.spec.target) ?_
        simp only [bind_done, bind_call, ask, eval, perform, runKey, Except.bind]
        -- what is there decides, and no call is left
        cases s.get? PipelineRun.kind ⟨chain.link.spec.target, PipelineRun.nameFor r⟩ with
        | none => exact .through 0 (isSettled_error rfl)
        | some stored =>
            rw [Option.elim_some]
            cases htyped : (stored.typed : Except StoreError PipelineRun) with
            | error e =>
                exact .through 0 (isSettled_error (StoredRecord.isTransient_of_typed htyped))
            | ok run =>
                simp only [Except.map, mapError_ok, Option.filter]
                cases Trigger.isOwnedBy u run with
                | true => exact .through 0 (isSettled_ok _)
                | false => exact .through 0 (isSettled_error rfl)
  · next h =>
      cases h
      exact .through 1 (isSettled_error he)

theorem judges_verdict (policy : AmbiguityPolicy) (s : Store) (r : Release) :
    Judges s r (.on policy s r) 5 (verdict policy r) := by
  unfold verdict Finding.on
  refine takes_resolve policy s r _ 2 _ ?_
  cases hresolve : (Chain.resolve policy r).on s with
  | error e => exact .through 2 (isSettled_error (Chain.isRetryable_of_resolve hresolve))
  | ok chain =>
      dsimp only
      rw [startOrAdopt_eq, createRecord_eq]
      cases hnew : s.checkNew PipelineRun.kind (runFor chain r).toJson with
      | error e => exact .refused hnew (judges_afterCreation (isTransient_of_checkNew hnew))
      | ok m =>
          refine .creates hnew ?_
          intro stored run hrun
          show afterCreation chain r stored.typed = _
          rw [hrun]
          rfl

end Reconcile

end ReleaseControl
