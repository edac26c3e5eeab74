import ReleaseControl.Assoc
import ReleaseControl.Name
import ReleaseControl.Store.FieldIndex
import ReleaseControl.Store.Query

/-! # The record store

Records sit in slots; the slot of a record is named by its kind and key. The store assigns uid,
generation, version and creation time, keeps the status apart from the rest (`create` drops it,
`update` keeps it, `updateStatus` replaces nothing else) and counts generations: a record starts
at generation 1 and gains one with every change of its `spec`. Versions are numbers drawn from one
counter, so no two writes share one.

Each call returns its result together with the store after it. Calls that look at the object
first (`checkNew`, `revise`) decide about errors before anything is written. -/

namespace ReleaseControl

/-- What a field index is looked up by. -/
structure IndexEntry where
  kind : String
  field : String
  value : String
  deriving DecidableEq, Repr

structure Store where
  indexes : FieldIndexes
  slots : List (String × StoredRecord)
  /-- Keys of the records found under each entry. -/
  index : List (IndexEntry × List RecordKey)
  nextVersion : Nat

namespace Store

def empty (indexes : FieldIndexes) : Store := ⟨indexes, [], [], 1⟩

/-- The slot of a record. -/
def slot (kind : String) (key : RecordKey) : String := s!"{kind}/{key.workspace}/{key.name}"

def get? (s : Store) (kind : String) (key : RecordKey) : Option StoredRecord :=
  Assoc.get? (slot kind key) s.slots

/-- How many records of a kind are stored. -/
def count (s : Store) (kind : String) : Nat :=
  (s.slots.filter fun e => e.2.kind == kind).length

/-! ## The index -/

def indexEntries (s : Store) (kind : String) (r : StoredRecord) : List IndexEntry :=
  (s.indexes.entriesOf kind r.object).map fun e => ⟨kind, e.1, e.2⟩

/-- The keys found under an entry. -/
def keysAt (index : List (IndexEntry × List RecordKey)) (e : IndexEntry) : List RecordKey :=
  (Assoc.get? e index).getD []

def addIndexed (key : RecordKey) (index : List (IndexEntry × List RecordKey)) (e : IndexEntry) :
    List (IndexEntry × List RecordKey) :=
  let keys := keysAt index e
  if key ∈ keys then index else Assoc.put e (keys ++ [key]) index

/-- An entry without keys is dropped. -/
def dropIndexed (key : RecordKey) (index : List (IndexEntry × List RecordKey)) (e : IndexEntry) :
    List (IndexEntry × List RecordKey) :=
  match (keysAt index e).filter (· ≠ key) with
  | [] => Assoc.remove e index
  | keys => Assoc.put e keys index

def indexRecord (kind : String) (r : StoredRecord) (s : Store) : Store :=
  { s with index := (s.indexEntries kind r).foldl (addIndexed r.key) s.index }

def unindexRecord (kind : String) (r : StoredRecord) (s : Store) : Store :=
  { s with index := (s.indexEntries kind r).foldl (dropIndexed r.key) s.index }

/-- Puts a record into the slot of its kind and key. -/
def place (r : StoredRecord) (s : Store) : Store :=
  { s with slots := Assoc.put (slot r.kind r.key) r s.slots }

/-! ## Creating -/

/-- The object must name the kind it is stored as. -/
def checkKind (kind : String) (object : Json) : Except StoreError Unit := do
  let found ← object.recordKind
  if found = kind then .ok ()
  else .error (.invalidObject s!"Kind mismatch: expected {kind}, found {found}")

/-- The metadata of an object that may be created. -/
def checkNew (s : Store) (kind : String) (object : Json) : Except StoreError Metadata := do
  checkKind kind object
  let m ← object.recordMetadata
  (Name.check m.name).mapError fun e => .invalidObject e.message
  if (s.get? kind m.key).isSome then .error (.alreadyExists kind m.key.text)
  else .ok m

/-- Draws the next version. -/
def drawVersion (s : Store) : String × Store :=
  (toString s.nextVersion, { s with nextVersion := s.nextVersion + 1 })

/-- Stores a new record under the given uid at the given time. -/
def create (uid now kind : String) (object : Json) (s : Store) :
    Except StoreError StoredRecord × Store :=
  match s.checkNew kind object with
  | .error e => (.error e, s)
  | .ok incoming =>
    let (version, s) := s.drawVersion
    let m := { incoming with
      uid := some uid, generation := some 1, resourceVersion := some version,
      createdAt := some now }
    match (object.remove "status").withMetadata m with
    | .error e => (.error e, s)
    | .ok record =>
      let stored : StoredRecord := ⟨kind, m.key, uid, 1, none, version, record⟩
      (.ok stored, (s.indexRecord kind stored).place stored)

/-! ## Writing -/

/-- The part of a record that a write replaces. -/
inductive Part where
  | spec
  | status
  deriving DecidableEq, Repr

/-- The spec an update writes; an object without one writes `null`. -/
def newSpec (object : Json) : Json := (object.get? "spec").getD .null

/-- Whether writing `object`'s spec changes `record`. A record without a spec changes always. -/
def specChanges (record object : Json) : Bool :=
  match record.get? "spec" with
  | some old => !old.same (newSpec object)
  | none => true

/-- Replaces one part of a record by that of an object. -/
def replacePart (part : Part) (record object : Json) : Json :=
  match part with
  | .spec => record.set "spec" (newSpec object)
  | .status =>
    match object.get? "status" with
    | some status => record.set "status" status
    | none => record.remove "status"

/-- The record that a write addresses and the metadata that came with the object. A version in
the metadata must be the stored one. -/
def revise (s : Store) (kind : String) (object : Json) :
    Except StoreError (StoredRecord × Metadata) := do
  checkKind kind object
  let incoming ← object.recordMetadata
  match s.get? kind incoming.key with
  | none => .error (.notFound kind incoming.key.text)
  | some existing =>
    match incoming.resourceVersion with
    | some expected =>
      if expected = existing.resourceVersion then .ok (existing, incoming)
      else .error (.versionConflict expected existing.resourceVersion)
    | none => .ok (existing, incoming)

/-- Replaces one part of a stored record. An update of the spec takes the labels along. -/
def write (part : Part) (kind : String) (object : Json) (s : Store) :
    Except StoreError StoredRecord × Store :=
  match s.revise kind object with
  | .error e => (.error e, s)
  | .ok (existing, incoming) =>
    match existing.object.recordMetadata with
    | .error e => (.error e, s)
    | .ok kept =>
      let (generation, labels) := match part with
        | .spec =>
          (if specChanges existing.object object then existing.generation + 1
            else existing.generation, incoming.labels)
        | .status => (existing.generation, kept.labels)
      let record := replacePart part existing.object object
      let (version, s) := s.drawVersion
      let m := { kept with
        labels, generation := some generation, resourceVersion := some version }
      match record.withMetadata m with
      | .error e => (.error e, s)
      | .ok record =>
        let stored : StoredRecord :=
          ⟨kind, incoming.key, existing.uid, generation, some existing.generation, version, record⟩
        (.ok stored, ((s.unindexRecord kind existing).indexRecord kind stored).place stored)

/-- Replaces spec and labels. -/
def update : String → Json → Store → Except StoreError StoredRecord × Store := write .spec

/-- Replaces the status. -/
def updateStatus : String → Json → Store → Except StoreError StoredRecord × Store := write .status

/-- Takes a record out and returns its last state. -/
def delete (kind : String) (key : RecordKey) (s : Store) :
    Except StoreError StoredRecord × Store :=
  match s.get? kind key with
  | none => (.error (.notFound kind key.text), s)
  | some r =>
    (.ok r, { s with slots := Assoc.remove (slot kind key) s.slots }.unindexRecord kind r)

/-! ## Listing -/

/-- The records a query looks through: those found under its selector, or all of the kind. -/
def candidates (s : Store) (kind : String) (q : Query) : Except StoreError (List StoredRecord) :=
  match q.selector with
  | none => .ok ((s.slots.map (·.2)).filter fun r => r.kind == kind)
  | some sel =>
    if s.indexes.contains kind sel.field then
      .ok ((keysAt s.index ⟨kind, sel.field, sel.value⟩).filterMap (s.get? kind))
    else .error (.indexNotFound kind sel.field)

/-- Keeps the records whose metadata fit the query. -/
def selectMatching (q : Query) : List StoredRecord → Except StoreError (List StoredRecord)
  | [] => .ok []
  | r :: rest => do
    let m ← r.object.recordMetadata
    let kept ← selectMatching q rest
    return if q.matchesMetadata m then r :: kept else kept

/-- The records of a kind that fit a query, in key order. -/
def list (s : Store) (kind : String) (q : Query) : Except StoreError (List StoredRecord) := do
  let rs ← selectMatching q (← s.candidates kind q)
  return rs.mergeSort fun a b => a.key.atMost b.key

end Store

end ReleaseControl
