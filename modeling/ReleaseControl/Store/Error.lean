import ReleaseControl.Record.Basic

/-! # Store errors

Why a store call fails. A failure is transient when the same call may succeed later; only those
are worth a retry. -/

namespace ReleaseControl

inductive StoreError where
  | notFound (kind key : String)
  | alreadyExists (kind key : String)
  /-- The caller's version of the record is not the stored one. -/
  | versionConflict (expected actual : String)
  | invalidObject (message : String)
  /-- The field of a selector has no index. -/
  | indexNotFound (kind field : String)
  | connection (message : String)
  | internal (message : String)
  deriving DecidableEq, Repr

inductive ErrorCategory where
  | notFound
  | conflict
  | validation
  | infrastructure
  | internal
  deriving DecidableEq, Repr

def ErrorCategory.text : ErrorCategory → String
  | .notFound => "not_found"
  | .conflict => "conflict"
  | .validation => "validation"
  | .infrastructure => "infrastructure"
  | .internal => "internal"

namespace StoreError

def message : StoreError → String
  | notFound kind key => s!"{kind} \"{key}\" not found"
  | alreadyExists kind key => s!"{kind} \"{key}\" already exists"
  | versionConflict expected actual =>
    s!"Version conflict: expected resourceVersion {expected}, found {actual}"
  | invalidObject message => s!"Invalid object: {message}"
  | indexNotFound kind field =>
    s!"Index with name field:{field} does not exist for kind {kind}"
  | connection message => s!"Connection error: {message}"
  | internal message => s!"Internal error: {message}"

def isTransient : StoreError → Bool
  | versionConflict .. | connection _ | internal _ => true
  | _ => false

def category : StoreError → ErrorCategory
  | notFound .. => .notFound
  | alreadyExists .. | versionConflict .. => .conflict
  | invalidObject _ | indexNotFound .. => .validation
  | connection _ => .infrastructure
  | internal _ => .internal

def isNotFound : StoreError → Bool
  | notFound .. => true
  | _ => false

def isAlreadyExists : StoreError → Bool
  | alreadyExists .. => true
  | _ => false

def isVersionConflict : StoreError → Bool
  | versionConflict .. => true
  | _ => false

/-- A record that cannot be read is an invalid object. -/
def ofRecordError (e : RecordError) : StoreError := .invalidObject e.message

end StoreError

end ReleaseControl
