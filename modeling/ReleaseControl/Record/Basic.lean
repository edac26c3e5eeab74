import ReleaseControl.Record.Metadata

/-! # Records

A record is kept as a JSON object with `kind`, `metadata` and `spec`, and for some kinds a
`status`. The class `Record` ties a Lean type to its kind and its JSON form; `Record.ofJson` reads
an object as a record and refuses an object of another kind. -/

namespace ReleaseControl

/-- Why a value is no record of the kind asked for. -/
inductive RecordError where
  | undecodable (cause : DecodeError)
  | invalidName (name : String)
  | invalidObject (message : String)
  | kindMismatch (expected actual : String)
  deriving Repr

def RecordError.message : RecordError → String
  | undecodable cause => s!"JSON serialization error: {cause.message}"
  | invalidName name => s!"Invalid object name: {name}"
  | invalidObject message => s!"Invalid object: {message}"
  | kindMismatch expected actual => s!"Kind mismatch: expected {expected}, found {actual}"

class Record (ρ : Type) where
  kind : String
  metadata : ρ → Metadata
  /-- The record as an object that names its kind. -/
  toJson : ρ → Json
  decode : Decoder ρ

namespace Record

variable {ρ : Type} [Record ρ]

def key (r : ρ) : RecordKey := (metadata r).key

/-- Reads a record. A `kind` that is a text must be the right one; without one the value is read
as it is. -/
def ofJson (v : Json) : Except RecordError ρ :=
  match (v.get? "kind").bind Json.asString? with
  | some found =>
    if found = kind ρ then (decode v).mapError .undecodable
    else .error (.kindMismatch (kind ρ) found)
  | none => (decode v).mapError .undecodable

end Record

end ReleaseControl
