import ReleaseControl.Store.Stored
import ReleaseControl.Text.Split

/-! # Field indexes

An index is declared for a kind and a field, a path of member names parted by dots. A record is
found under the text at the end of the path, or under each text of an array there. -/

namespace ReleaseControl

/-- The member names of a dotted path. -/
def pathNames (field : String) : List String := Text.splitText '.' field

namespace Json

/-- The value at the end of a path. -/
def at? (names : List String) (v : Json) : Option Json := names.foldlM (fun w n => w.get? n) v

/-- The texts under which an object is found by a field. -/
def fieldValues (field : String) (object : Json) : List String :=
  match object.at? (pathNames field) with
  | some (.str s) => [s]
  | some (.arr items) => items.filterMap asString?
  | _ => []

end Json

/-- The declared indexes, as pairs of kind and field, each once. -/
structure FieldIndexes where
  declared : List (String × String)
  deriving DecidableEq, Repr

namespace FieldIndexes

def none : FieldIndexes := ⟨[]⟩

/-- Declares an index; a repeated declaration changes nothing. -/
def declare (kind field : String) (x : FieldIndexes) : FieldIndexes :=
  if (kind, field) ∈ x.declared then x else ⟨x.declared ++ [(kind, field)]⟩

def ofList (declared : List (String × String)) : FieldIndexes :=
  declared.foldl (fun x d => x.declare d.1 d.2) .none

def contains (x : FieldIndexes) (kind field : String) : Bool := x.declared.contains (kind, field)

/-- The fields indexed for a kind. -/
def fieldsOf (x : FieldIndexes) (kind : String) : List String :=
  (x.declared.filter fun d => d.1 == kind).map (·.2)

/-- The fields and texts under which an object of the kind is found. -/
def entriesOf (x : FieldIndexes) (kind : String) (object : Json) : List (String × String) :=
  (x.fieldsOf kind).flatMap fun field => (object.fieldValues field).map (field, ·)

end FieldIndexes

end ReleaseControl
