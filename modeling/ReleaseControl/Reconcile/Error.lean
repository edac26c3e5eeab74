import ReleaseControl.Store.Error

/-! # Reconcile errors

Why an attempt to reconcile a Release fails. All but transient store failures are settled: they
are written to the Release and not retried until it changes. -/

namespace ReleaseControl

inductive ReconcileError where
  | notFound (kind key : String)
  | noMatchingTarget (target origin application : String)
  | ambiguousTarget (target application : String) (candidates : List String)
  /-- A record leaves a field empty that is needed. -/
  | invalidReference (kind key field : String)
  | createConflict (kind key : String)
  | store (cause : StoreError)
  | serialization (cause : DecodeError)

namespace ReconcileError

def message : ReconcileError → String
  | notFound kind key => s!"{kind} \"{key}\" not found"
  | noMatchingTarget target origin application =>
    s!"no ReleaseLink found in target workspace '{target}' with target '{origin}' "
      ++ s!"and application '{application}'"
  | ambiguousTarget target application candidates =>
    s!"multiple ReleaseLinks found in target workspace '{target}' "
      ++ s!"for application '{application}': " ++ String.intercalate ", " candidates
  | invalidReference kind key field => s!"{kind} \"{key}\" does not set {field}"
  | createConflict kind key => s!"{kind} \"{key}\" already exists"
  | store cause => cause.message
  | serialization cause => s!"serialization error: {cause.message}"

/-- Whether the Release is to be tried again after a while. -/
def isRetryable : ReconcileError → Bool
  | store cause => cause.isTransient
  | _ => false

/-- Category of the store failure behind the error. -/
def category? : ReconcileError → Option ErrorCategory
  | store cause => some cause.category
  | _ => none

/-- Short name of the cause. -/
def reason : ReconcileError → String
  | notFound .. => "not_found"
  | noMatchingTarget .. => "no_matching_target"
  | ambiguousTarget .. => "ambiguous_target"
  | invalidReference .. => "invalid_reference"
  | createConflict .. => "create_conflict"
  | store _ => "store"
  | serialization _ => "serialization"

end ReconcileError

end ReleaseControl
