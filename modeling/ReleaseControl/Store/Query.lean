import ReleaseControl.Record.Metadata

/-! # Queries

What a list call asks for: a workspace or all of them, labels that must be there, and at most one
field with a value. -/

namespace ReleaseControl

structure FieldSelector where
  field : String
  value : String
  deriving DecidableEq, Repr

def FieldSelector.text (s : FieldSelector) : String := s!"{s.field}={s.value}"

structure Query where
  workspace : Option String
  selector : Option FieldSelector
  labels : Labels
  deriving DecidableEq

namespace Query

/-- Asks for every record. -/
def all : Query := ⟨none, none, .empty⟩

/-- Whether metadata fit the workspace and the labels asked for. -/
def matchesMetadata (q : Query) (m : Metadata) : Bool :=
  (q.workspace.all fun w => m.workspace == w) && m.labels.includes q.labels

end Query

end ReleaseControl
