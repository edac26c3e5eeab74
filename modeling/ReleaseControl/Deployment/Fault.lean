import ReleaseControl.Store.Program

/-! # A store that fails as planned

A `FaultyStore` is a record store with a list of planned failures. Every call looks at the first
plan that is not used up and fits the call. The plan may let some calls pass first; then it makes
writes of its own behind the caller's back, and crashes the caller, answers with an error instead
of the call or in place of its result, or lets the call through. -/

namespace ReleaseControl

inductive StoreMethod where
  | create
  | get
  | list
  | update
  | updateStatus
  | delete
  deriving DecidableEq, Repr

def StoreCall.method : StoreCall → StoreMethod
  | create .. => .create
  | get .. => .get
  | list .. => .list
  | update .. => .update
  | updateStatus .. => .updateStatus
  | delete .. => .delete

/-- How a plan ends the call it hits. -/
inductive FaultEffect where
  | pass
  | crash
  | failBefore (e : StoreError)
  /-- The call is made and its result dropped. -/
  | failAfter (e : StoreError)

structure Fault where
  method : StoreMethod
  /-- The kind of record the plan is for; any without one. -/
  kind : Option String
  /-- How many calls pass before the plan takes effect. -/
  skip : Nat
  /-- How many calls the plan takes effect on. -/
  times : Nat
  writes : List StoreCall
  effect : FaultEffect

namespace Fault

def fits (c : StoreCall) (f : Fault) : Bool :=
  0 < f.times && f.method == c.method && f.kind.all fun k => k == c.kind

/-- The plan that takes effect on a call, and the plans after the call. -/
def plan (c : StoreCall) : List Fault → Option Fault × List Fault
  | [] => (none, [])
  | f :: rest =>
    if f.fits c then
      if 0 < f.skip then (none, { f with skip := f.skip - 1 } :: rest)
      else (some f, { f with times := f.times - 1 } :: rest)
    else
      let (hit, rest) := plan c rest
      (hit, f :: rest)

end Fault

/-- The uid of the `n`-th record created: `n` in eight hexadecimal digits, then a fixed tail. -/
def numberedUid (n : Nat) : String :=
  let ds := Nat.toDigits 16 n
  String.ofList (List.replicate (8 - ds.length) '0' ++ ds) ++ "-0000-4000-8000-000000000000"

structure FaultyStore where
  store : Store
  faults : List Fault
  /-- How many records were created. -/
  created : Nat
  /-- What the clock shows. -/
  now : String

namespace FaultyStore

/-- Makes a call on the store itself; a creation that succeeds uses up a uid. -/
def perform (c : StoreCall) (s : FaultyStore) : Except StoreError c.Reply × FaultyStore :=
  let (answer, store) := s.store.perform (numberedUid (s.created + 1)) s.now c
  let isCreation := c.method == .create && answer.toBool
  (answer, { s with store, created := if isCreation then s.created + 1 else s.created })

/-- Makes calls on the store itself and drops the answers. -/
def performAll (calls : List StoreCall) (s : FaultyStore) : FaultyStore :=
  calls.foldl (fun s c => (s.perform c).2) s

/-- Makes a call subject to the plans. -/
def answer : Program.Handler FaultyStore := fun c s =>
  let (hit, faults) := Fault.plan c s.faults
  let s := { s with faults }
  match hit with
  | none => let (a, s) := s.perform c; (.returned a, s)
  | some f =>
    let s := s.performAll f.writes
    match f.effect with
    | .pass => let (a, s) := s.perform c; (.returned a, s)
    | .crash => (.crashed, s)
    | .failBefore e => (.returned (.error e), s)
    | .failAfter e => (.returned (.error e), (s.perform c).2)

end FaultyStore

end ReleaseControl
