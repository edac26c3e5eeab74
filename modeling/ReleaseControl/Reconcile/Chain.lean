import ReleaseControl.Reconcile.Error
import ReleaseControl.Record.Release
import ReleaseControl.Record.ReleaseLink
import ReleaseControl.Record.ReleaseStrategy
import ReleaseControl.Store.Program

/-! # The chain of a Release

A Release names a link; the link and its counterpart in the workspace it points at form a pair;
the counterpart names the strategy. The programs here only read. Which counterpart is meant when
there are several is a matter of policy. -/

namespace ReleaseControl

/-- What to do when several links pair with one. -/
inductive AmbiguityPolicy where
  | strict
  /-- Take the one whose name comes first. -/
  | firstByName
  deriving DecidableEq, Repr

namespace AmbiguityPolicy

/-- The name of the policy in settings. -/
def text : AmbiguityPolicy → String
  | .strict => "strict"
  | .firstByName => "first_by_name"

/-- The name of the policy in descriptions. -/
def label : AmbiguityPolicy → String
  | .strict => "Strict"
  | .firstByName => "FirstByName"

def known : List (String × AmbiguityPolicy) :=
  [("strict", .strict), ("first_by_name", .firstByName)]

end AmbiguityPolicy

/-- The records a Release leads to. -/
structure Chain where
  link : ReleaseLink
  targetLink : ReleaseLink
  strategy : ReleaseStrategy

namespace Chain

/-- Programs that read from the store and may fail. -/
abbrev Lookup (α : Type) := ExceptT ReconcileError Program α

/-- A store failure fails the lookup. -/
def ofStore {α : Type} (p : Program (Except StoreError α)) : Lookup α :=
  ExceptT.mk do return (← p).mapError .store

/-- Reads a record that has to be there. -/
def require (ρ : Type) [Record ρ] (key : RecordKey) : Lookup ρ := do
  match ← ofStore (Program.getRecord ρ key) with
  | some r => return r
  | none => throw (.notFound (Record.kind ρ) key.text)

/-- The link a Release names, in its own workspace. -/
def findLink (r : Release) : Lookup ReleaseLink := require ReleaseLink r.linkKey

/-- The field indexes that following a chain needs. -/
def indexes : FieldIndexes := .ofList [(ReleaseLink.kind, ReleaseLink.targetField)]

/-- Asks for the links in the target workspace that point back at the link's own. -/
def counterpartQuery (link : ReleaseLink) : Query :=
  ⟨some link.spec.target, some ⟨ReleaseLink.targetField, link.metadata.workspace⟩, .empty⟩

/-- The counterparts of a link among some links, in the order of their names. -/
def counterparts (link : ReleaseLink) (found : List ReleaseLink) : List ReleaseLink :=
  (found.filter link.pairsWith).mergeSort fun a b => decide (a.metadata.name ≤ b.metadata.name)

/-- The counterpart that is meant. -/
def choose (policy : AmbiguityPolicy) (link : ReleaseLink) :
    List ReleaseLink → Except ReconcileError ReleaseLink
  | [] => .error
    (.noMatchingTarget link.spec.target link.metadata.workspace link.spec.application)
  | [c] => .ok c
  | c :: more =>
    match policy with
    | .firstByName => .ok c
    | .strict => .error
      (.ambiguousTarget link.spec.target link.spec.application
        ((c :: more).map (·.metadata.name)))

/-- The counterpart of a link in the workspace it points at. -/
def findTarget (policy : AmbiguityPolicy) (link : ReleaseLink) : Lookup ReleaseLink := do
  let found ← ofStore (Program.listRecords ReleaseLink (counterpartQuery link))
  MonadExcept.ofExcept (choose policy link (counterparts link found))

/-- The strategy a target link names, in its own workspace. -/
def findStrategy (targetLink : ReleaseLink) : Lookup ReleaseStrategy := do
  match targetLink.strategyKey? with
  | some key => require ReleaseStrategy key
  | none =>
    throw (.invalidReference ReleaseLink.kind targetLink.key.text "spec.releaseStrategy")

/-- Follows the whole chain. -/
def resolve (policy : AmbiguityPolicy) (r : Release) : Lookup Chain := do
  let link ← findLink r
  let target ← findTarget policy link
  let strategy ← findStrategy target
  return ⟨link, target, strategy⟩

end Chain

end ReleaseControl
