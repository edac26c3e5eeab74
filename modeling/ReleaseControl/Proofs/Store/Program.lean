import ReleaseControl.Proofs.Store.Typed
import ReleaseControl.Reconcile.Error

/-! # Programs that fail and stop

`eval` runs a program on a store that never fails. `scripted` runs it under a script: each call is
answered by the store or fails with a transient error, before it did anything or after, and where
the script ends the program is cut off. A script of answers alone, long enough, is `eval`. Programs
that only read and give up at the first failure (`GivesUp`) leave the store alone and either come
to what `eval` says or end with a failure of the script; on a store that answers they end with
settled errors only. -/

namespace ReleaseControl

/-- An error after which the same call may succeed later. -/
abbrev TransientError := { e : StoreError // e.isTransient }

/-- What happens to a call that can fail with some errors. -/
inductive FateOf (errors : StoreError → Prop) where
  | answered
  /-- The call fails and does nothing. -/
  | failed (e : { e // errors e })
  /-- The call is made and its answer lost. -/
  | lost (e : { e // errors e })

namespace FateOf

variable {errors errors' : StoreError → Prop}

/-- Whether the store gets the call. -/
def isMade : FateOf errors → Bool
  | answered | lost _ => true
  | failed _ => false

/-- The same, where more errors are possible. -/
def widen (h : ∀ e, errors e → errors' e) : FateOf errors → FateOf errors'
  | answered => answered
  | failed e => failed ⟨e.1, h e.1 e.2⟩
  | lost e => lost ⟨e.1, h e.1 e.2⟩

end FateOf

/-- What happens to a call that can fail for now. -/
abbrev Fate := FateOf fun e => e.isTransient

/-- What happens to a call that can fail with any error. -/
abbrev AnyFate := FateOf fun _ => True

namespace Fate

/-- A call that fails without effect. -/
def refused : Fate := .failed ⟨.connection "refused", rfl⟩

/-- A call of the script fails with the error. -/
def FailsWith (e : TransientError) (script : List Fate) : Prop :=
  .failed e ∈ script ∨ .lost e ∈ script

theorem FailsWith.mono {e : TransientError} {script script' : List Fate} (h : FailsWith e script)
    (hsub : script ⊆ script') : FailsWith e script' :=
  h.imp (fun h => hsub h) fun h => hsub h

theorem not_failsWith_replicate {e : TransientError} (n : Nat) :
    ¬ FailsWith e (List.replicate n .answered) := by
  rintro (h | h) <;> cases List.eq_of_mem_replicate h

/-- The script answers a number of calls and makes the next one. -/
def Makes (n : Nat) (script : List Fate) : Prop :=
  ∃ f rest, f.isMade ∧ script = List.replicate n .answered ++ f :: rest

end Fate

/-- Calls that leave every store as it is. -/
def StoreCall.isRead : StoreCall → Bool
  | .get .. | .list .. => true
  | _ => false

namespace Store

theorem perform_snd_of_isRead {c : StoreCall} (h : c.isRead) (uid now : String) (s : Store) :
    (s.perform uid now c).2 = s := by
  cases c <;> first | rfl | cases h

theorem perform_of_isRead {c : StoreCall} (h : c.isRead) (uid now uid' now' : String)
    (s : Store) : s.perform uid now c = s.perform uid' now' c := by
  cases c <;> first | rfl | cases h

/-- The store's own failures are settled. -/
theorem isTransient_of_isRead {c : StoreCall} (h : c.isRead) {uid now : String} {s : Store}
    {e : StoreError} (he : (s.perform uid now c).1 = .error e) : e.isTransient = false := by
  cases c with
  | get => cases he
  | list kind query => exact isTransient_of_list he
  | create | update | updateStatus | delete => cases h

end Store

namespace Program

variable {α β : Type} {uid now : String}

/-! ## Running -/

@[simp] theorem pure_eq (a : α) : (pure a : Program α) = .done a := rfl

@[simp] theorem bind_eq (p : Program α) (f : α → Program β) : p >>= f = p.bind f := rfl

@[simp] theorem bind_done (a : α) (f : α → Program β) : (done a).bind f = f a := rfl

@[simp] theorem bind_call (c : StoreCall) (next : Except StoreError c.Reply → Program α)
    (f : α → Program β) : (call c next).bind f = .call c fun answer => (next answer).bind f := rfl

@[simp] theorem bind_bind {γ : Type} (p : Program α) (f : α → Program β) (g : β → Program γ) :
    (p.bind f).bind g = p.bind fun a => (f a).bind g := by
  induction p with
  | done a => rfl
  | call c next ih =>
      simp only [bind_call, call.injEq, heq_eq_eq, true_and]
      funext answer
      exact ih answer

/-- What a program does and leaves when no call fails. -/
def eval (uid now : String) : Program α → Store → α × Store
  | .done a, s => (a, s)
  | .call c next, s =>
    let (answer, s) := s.perform uid now c
    (next answer).eval uid now s

/-- How many calls it makes then. -/
def calls (uid now : String) : Program α → Store → Nat
  | .done _, _ => 0
  | .call c next, s =>
    let (answer, s) := s.perform uid now c
    (next answer).calls uid now s + 1

theorem eval_bind (p : Program α) (f : α → Program β) (s : Store) :
    (p.bind f).eval uid now s = (f (p.eval uid now s).1).eval uid now (p.eval uid now s).2 := by
  induction p generalizing s with
  | done a => rfl
  | call c next ih => exact ih _ _

theorem calls_bind (p : Program α) (f : α → Program β) (s : Store) :
    (p.bind f).calls uid now s =
      p.calls uid now s + (f (p.eval uid now s).1).calls uid now (p.eval uid now s).2 := by
  induction p generalizing s with
  | done a => exact (Nat.zero_add _).symm
  | call c next ih =>
      simp only [bind_call, calls, eval, ih]
      omega

theorem run_bind {σ : Type} (handler : Handler σ) (p : Program α) (f : α → Program β) (s : σ) :
    (p.bind f).run handler s = match p.run handler s with
      | (.returned a, s) => (f a).run handler s
      | (.crashed, s) => (.crashed, s) := by
  induction p generalizing s with
  | done a => rfl
  | call c next ih =>
      simp only [bind_call, run]
      split
      · exact ih _ _
      · rfl

/-! ## Scripts -/

/-- Answers calls as a script says. -/
def scripted (uid now : String) : Handler (List Fate × Store) := fun c (script, s) =>
  match script with
  | [] => (.crashed, [], s)
  | .answered :: rest =>
    let (answer, s) := s.perform uid now c
    (.returned answer, rest, s)
  | .failed e :: rest => (.returned (.error e.1), rest, s)
  | .lost e :: rest => (.returned (.error e.1), rest, (s.perform uid now c).2)

@[simp] theorem run_done {σ : Type} (handler : Handler σ) (a : α) (s : σ) :
    (done a).run handler s = (.returned a, s) := rfl

@[simp] theorem run_cut (c : StoreCall) (next : Except StoreError c.Reply → Program α)
    (s : Store) : (call c next).run (scripted uid now) ([], s) = (.crashed, [], s) := rfl

@[simp] theorem run_answered (c : StoreCall) (next : Except StoreError c.Reply → Program α)
    (rest : List Fate) (s : Store) :
    (call c next).run (scripted uid now) (.answered :: rest, s) =
      (next (s.perform uid now c).1).run (scripted uid now) (rest, (s.perform uid now c).2) := rfl

@[simp] theorem run_failed (c : StoreCall) (next : Except StoreError c.Reply → Program α)
    (e : TransientError) (rest : List Fate) (s : Store) :
    (call c next).run (scripted uid now) (.failed e :: rest, s) =
      (next (.error e.1)).run (scripted uid now) (rest, s) := rfl

@[simp] theorem run_lost (c : StoreCall) (next : Except StoreError c.Reply → Program α)
    (e : TransientError) (rest : List Fate) (s : Store) :
    (call c next).run (scripted uid now) (.lost e :: rest, s) =
      (next (.error e.1)).run (scripted uid now) (rest, (s.perform uid now c).2) := rfl

/-- Enough answers bring a program to its end. -/
theorem run_of_answered (uid now : String) (p : Program α) (s : Store) (rest : List Fate) :
    p.run (scripted uid now) (List.replicate (p.calls uid now s) .answered ++ rest, s) =
      (.returned (p.eval uid now s).1, rest, (p.eval uid now s).2) := by
  induction p generalizing s with
  | done a => rfl
  | call c next ih =>
      simp only [calls, List.replicate_succ, List.cons_append, run_answered, eval]
      exact ih _ _

/-! ## Reading and giving up -/

/-- Programs that only read and give up at the first failure. The errors that they find themselves
are settled. -/
inductive GivesUp {α : Type} : Program (Except ReconcileError α) → Prop where
  | done (v : Except ReconcileError α) (hv : ∀ e, v = .error e → e.isRetryable = false) :
      GivesUp (.done v)
  | call {c : StoreCall} {next : Except StoreError c.Reply → Program (Except ReconcileError α)}
      (hread : c.isRead)
      (hfails : ∀ e, next (.error e) = .done (.error (.store e)))
      (hnext : ∀ reply, GivesUp (next (.ok reply))) : GivesUp (.call c next)

/-- Going on after success only. -/
theorem GivesUp.bind {p : Program (Except ReconcileError α)} (hp : GivesUp p)
    {f : Except ReconcileError α → Program (Except ReconcileError β)}
    (herror : ∀ e, f (.error e) = .done (.error e)) (hok : ∀ a, GivesUp (f (.ok a))) :
    GivesUp (p.bind f) := by
  induction hp with
  | done v hv =>
      cases v with
      | ok a => exact hok a
      | error e =>
          rw [bind_done, herror]
          refine .done _ ?_
          rintro e' ⟨⟩
          exact hv e rfl
  | call hread hfails hnext ih =>
      refine .call hread ?_ ih
      intro e
      rw [hfails, bind_done, herror]

/-- A program that is through. -/
theorem givesUp_ok (a : α) : GivesUp (.done (.ok a)) :=
  .done _ fun e h => by cases h

theorem givesUp_error {e : ReconcileError} (he : e.isRetryable = false) :
    GivesUp (.done (.error e) : Program (Except ReconcileError α)) := by
  refine .done _ ?_
  rintro e' ⟨⟩
  exact he

theorem GivesUp.eval_snd {p : Program (Except ReconcileError α)} (hp : GivesUp p) (s : Store) :
    (p.eval uid now s).2 = s := by
  induction hp with
  | done v => rfl
  | @call c next hread hfails hnext ih =>
      simp only [eval, Store.perform_snd_of_isRead hread]
      cases (s.perform uid now c).1 with
      | error e => rw [hfails]; rfl
      | ok reply => exact ih reply

/-- What would be created does not matter to them. -/
theorem GivesUp.eval_fst {p : Program (Except ReconcileError α)} (hp : GivesUp p)
    (uid now uid' now' : String) (s : Store) :
    (p.eval uid now s).1 = (p.eval uid' now' s).1 := by
  induction hp with
  | done v => rfl
  | @call c next hread hfails hnext ih =>
      simp only [eval, Store.perform_of_isRead hread uid now uid' now',
        Store.perform_snd_of_isRead hread]
      cases (s.perform uid' now' c).1 with
      | error e => rw [hfails]; rfl
      | ok reply => exact ih reply

theorem GivesUp.calls_eq {p : Program (Except ReconcileError α)} (hp : GivesUp p)
    (uid now uid' now' : String) (s : Store) : p.calls uid now s = p.calls uid' now' s := by
  induction hp with
  | done v => rfl
  | @call c next hread hfails hnext ih =>
      simp only [calls, Store.perform_of_isRead hread uid now uid' now',
        Store.perform_snd_of_isRead hread]
      cases (s.perform uid' now' c).1 with
      | error e => rw [hfails]; rfl
      | ok reply => rw [ih reply]

/-- On a store that answers, its errors are settled. -/
theorem GivesUp.isRetryable_eval {p : Program (Except ReconcileError α)} (hp : GivesUp p)
    {s : Store} {e : ReconcileError} (h : (p.eval uid now s).1 = .error e) :
    e.isRetryable = false := by
  induction hp with
  | done v hv => exact hv e h
  | @call c next hread hfails hnext ih =>
      simp only [eval, Store.perform_snd_of_isRead hread] at h
      cases hanswer : (s.perform uid now c).1 with
      | error cause =>
          rw [hanswer, hfails] at h
          cases h
          exact Store.isTransient_of_isRead hread hanswer
      | ok reply =>
          rw [hanswer] at h
          exact ih reply h

/-- Under a script such a program is answered throughout, or it is cut off, or it returns a failure
of the script. -/
theorem GivesUp.run_cases {p : Program (Except ReconcileError α)} (hp : GivesUp p)
    (uid now : String) (script : List Fate) (s : Store) :
    (∃ rest, script = List.replicate (p.calls uid now s) .answered ++ rest ∧
        p.run (scripted uid now) (script, s) = (.returned (p.eval uid now s).1, rest, s)) ∨
      (∃ rest, p.run (scripted uid now) (script, s) = (.crashed, rest, s)) ∨
      ∃ e rest, Fate.FailsWith e script ∧ rest ⊆ script ∧
        p.run (scripted uid now) (script, s) = (.returned (.error (.store e.1)), rest, s) := by
  induction hp generalizing script with
  | done v => exact .inl ⟨script, rfl, rfl⟩
  | @call c next hread hfails hnext ih =>
      -- a reply goes on to the next call, everything else ends the program here
      cases script with
      | nil => exact .inr (.inl ⟨[], rfl⟩)
      | cons fate rest =>
          cases fate with
          | failed e =>
              refine .inr (.inr ⟨e, rest, .inl List.mem_cons_self, List.subset_cons_self _ _, ?_⟩)
              rw [run_failed, hfails]
              rfl
          | lost e =>
              refine .inr (.inr ⟨e, rest, .inr List.mem_cons_self, List.subset_cons_self _ _, ?_⟩)
              rw [run_lost, hfails, Store.perform_snd_of_isRead hread]
              rfl
          | answered =>
              simp only [run_answered, calls, eval, Store.perform_snd_of_isRead hread]
              cases hanswer : (s.perform uid now c).1 with
              | error e =>
                  rw [hfails]
                  exact .inl ⟨rest, rfl, rfl⟩
              | ok reply =>
                  rcases ih reply rest with ⟨rest', rfl, hrun⟩ | ⟨rest', hrun⟩ |
                    ⟨e, rest', he, hsub, hrun⟩
                  · exact .inl ⟨rest', rfl, hrun⟩
                  · exact .inr (.inl ⟨rest', hrun⟩)
                  · exact .inr (.inr ⟨e, rest', he.mono (List.subset_cons_self _ _),
                      List.subset_cons_of_subset _ hsub, hrun⟩)

end Program

end ReleaseControl
