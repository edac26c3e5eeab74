import ReleaseControl.Record.Key

/-! # Metadata — identity and bookkeeping of a record

Every record carries its key and labels. The store owns the rest: it assigns `uid` and
`createdAt` once, and keeps `generation` and `resourceVersion` up to date. -/

namespace ReleaseControl

/-- Labels: texts under names, ascending. -/
structure Labels where
  entries : List (String × String)
  ascending : Dictionary.Ascending entries
  deriving DecidableEq

namespace Labels

def empty : Labels := ⟨[], List.Pairwise.nil⟩

def insert (name value : String) (l : Labels) : Labels :=
  ⟨Dictionary.insert name value l.entries, Dictionary.ascending_insert name value l.ascending⟩

def ofList (entries : List (String × String)) : Labels :=
  ⟨Dictionary.ofList entries, Dictionary.ascending_ofList entries⟩

def get? (name : String) (l : Labels) : Option String := Dictionary.get? name l.entries

/-- Whether every entry of `wanted` is an entry of `l`. -/
def includes (l wanted : Labels) : Bool :=
  wanted.entries.all fun e => l.get? e.1 == some e.2

def decode : Decoder Labels := fun v => (Decoder.textMembers v).map ofList

def toJson (l : Labels) : Json := .obj (l.entries.map fun e => (e.1, .str e.2))

/-- The labels as a member that is left out when there are none. -/
def toField (l : Labels) : Option Json := if l.entries.isEmpty then none else some l.toJson

end Labels

structure Metadata where
  workspace : String
  name : String
  uid : Option String
  generation : Option Int64
  resourceVersion : Option String
  labels : Labels
  createdAt : Option String
  deriving DecidableEq

namespace Metadata

/-- Metadata of a record that was never stored. -/
def new (key : RecordKey) (labels : Labels) : Metadata :=
  ⟨key.workspace, key.name, none, none, none, labels, none⟩

def key (m : Metadata) : RecordKey := ⟨m.workspace, m.name⟩

/-- The generation the store gave; 0 for a record that was never stored. -/
def currentGeneration (m : Metadata) : Int64 := m.generation.getD 0

open Shape Decoder in
def decode : Decoder Metadata :=
  Shape.decode "ObjectMeta" <|
    mk <$> required "namespace" string <*> required "name" string <*> optional "uid" string
      <*> optional "generation" int64 <*> optional "resourceVersion" string
      <*> withDefault "labels" Labels.decode Labels.empty
      <*> optional "creationTimestamp" string

def toJson (m : Metadata) : Json :=
  .ofFields [
    ("creationTimestamp", m.createdAt.map .str),
    ("generation", m.generation.map fun g => .int g.toInt),
    ("labels", m.labels.toField),
    ("name", some (.str m.name)),
    ("namespace", some (.str m.workspace)),
    ("resourceVersion", m.resourceVersion.map .str),
    ("uid", m.uid.map .str)]

end Metadata

end ReleaseControl
