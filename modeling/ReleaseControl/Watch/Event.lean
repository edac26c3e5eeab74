import ReleaseControl.Record.Release
import ReleaseControl.Watch.Timestamp

/-! # Watch events

A watch event tells that a stored record changed: which record, and its generation before and
after. The controller looks at Releases only, and only at those that were created or whose
generation moved; it never hears of writes to a status. -/

namespace ReleaseControl

/-- Kind of change. -/
inductive ChangeType where
  | created
  | updated
  | deleted
  /-- Sent from outside, with no change attached. -/
  | generic
  deriving DecidableEq, Repr

namespace ChangeType

def text : ChangeType → String
  | .created => "created"
  | .updated => "updated"
  | .deleted => "deleted"
  | .generic => "generic"

def decode : Decoder ChangeType :=
  .choice [("created", .created), ("updated", .updated), ("deleted", .deleted),
    ("generic", .generic)]

/-- Whether a change between the generations calls for a reconciliation. -/
def callsFor (type : ChangeType) (old new : Option Int64) : Bool :=
  match type with
  | .created => true
  | .updated => old != new
  | .deleted | .generic => false

end ChangeType

structure WatchEvent where
  type : ChangeType
  kind : String
  key : RecordKey
  oldGeneration : Option Int64
  newGeneration : Option Int64
  deriving DecidableEq, Repr

namespace WatchEvent

def created (kind : String) (key : RecordKey) (generation : Int64) : WatchEvent :=
  ⟨.created, kind, key, none, some generation⟩

def updated (kind : String) (key : RecordKey) (old new : Int64) : WatchEvent :=
  ⟨.updated, kind, key, some old, some new⟩

def deleted (kind : String) (key : RecordKey) (generation : Int64) : WatchEvent :=
  ⟨.deleted, kind, key, some generation, none⟩

def generic (kind : String) (key : RecordKey) : WatchEvent :=
  ⟨.generic, kind, key, none, none⟩

def isKind (e : WatchEvent) (kind : String) : Bool := e.kind == kind

/-- Whether the controller reconciles the record of the event. -/
def isAccepted (e : WatchEvent) : Bool :=
  e.isKind Release.kind && e.type.callsFor e.oldGeneration e.newGeneration

/-- Members of the JSON form, all of them always present. -/
def toFields (e : WatchEvent) : List (String × Option Json) :=
  let generation := fun g : Option Int64 => some ((g.map fun g => Json.int g.toInt).getD .null)
  [("event_type", some (.str e.type.text)),
    ("key", some e.key.toJson),
    ("kind", some (.str e.kind)),
    ("new_generation", generation e.newGeneration),
    ("old_generation", generation e.oldGeneration)]

def toJson (e : WatchEvent) : Json := .ofFields e.toFields

end WatchEvent

/-- An event with the time it was made, as it travels. -/
structure TimedEvent where
  event : WatchEvent
  time : Timestamp
  deriving DecidableEq, Repr

namespace TimedEvent

open Shape Decoder in
def decode : Decoder TimedEvent :=
  Shape.decode "WatchEvent" <|
    (fun type kind key old new time => ⟨⟨type, kind, key, old, new⟩, time⟩)
      <$> required "event_type" ChangeType.decode <*> required "kind" string
      <*> required "key" RecordKey.decode <*> Shape.nullable "old_generation" int64
      <*> Shape.nullable "new_generation" int64 <*> required "timestamp" Timestamp.decode

def toJson (e : TimedEvent) : Json :=
  .ofFields (e.event.toFields ++ [("timestamp", some (.str e.time.text))])

end TimedEvent

end ReleaseControl
