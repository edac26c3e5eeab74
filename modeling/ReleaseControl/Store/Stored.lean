import ReleaseControl.Store.Error

/-! # Stored records

What a store holds and hands out: the record's object and, beside it, the facts the store keeps.
Objects that come from clients are looked at through `recordKind` and `recordMetadata`. -/

namespace ReleaseControl

structure StoredRecord where
  kind : String
  key : RecordKey
  uid : String
  /-- Generation after the write that made this state. -/
  generation : Int64
  /-- Generation before that write; `none` for a creation. -/
  previousGeneration : Option Int64
  resourceVersion : String
  /-- The whole record, metadata included. -/
  object : Json

namespace StoredRecord

/-- Reads the record as its type. -/
def typed {ρ : Type} [Record ρ] (s : StoredRecord) : Except StoreError ρ :=
  (Record.ofJson s.object).mapError .ofRecordError

def generationChanged (s : StoredRecord) : Bool := s.previousGeneration != some s.generation

end StoredRecord

namespace Json

/-- The kind an object names. -/
def recordKind (object : Json) : Except StoreError String :=
  match (object.get? "kind").bind asString? with
  | some kind => .ok kind
  | none => .error (.invalidObject "Missing kind field")

/-- The metadata of an object, with workspace and name set. -/
def recordMetadata (object : Json) : Except StoreError Metadata :=
  match object.get? "metadata" with
  | none => .error (.invalidObject "Missing metadata field")
  | some v =>
    match Metadata.decode v with
    | .error e => .error (.invalidObject s!"Invalid metadata: {e.message}")
    | .ok m =>
      if m.workspace.isEmpty then .error (.invalidObject "metadata.namespace must be set")
      else if m.name.isEmpty then .error (.invalidObject "metadata.name must be set")
      else .ok m

/-- The object with its metadata replaced. -/
def withMetadata (object : Json) (m : Metadata) : Except StoreError Json :=
  if object.isObject then .ok (object.set "metadata" m.toJson)
  else .error (.invalidObject "Record must be a JSON object")

end Json

end ReleaseControl
