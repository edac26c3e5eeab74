import ReleaseControl.Json.Decode

/-! # Record keys

A record lives in a workspace under a name. Keys are ordered by workspace, then by name, both by
code point. -/

namespace ReleaseControl

structure RecordKey where
  workspace : String
  name : String
  deriving DecidableEq, Repr, Inhabited

namespace RecordKey

/-- The key as one text: `workspace/name`. -/
def text (k : RecordKey) : String := s!"{k.workspace}/{k.name}"

instance : ToString RecordKey := ⟨text⟩

/-- Strict order of keys. -/
def before (a b : RecordKey) : Bool :=
  a.workspace < b.workspace || (a.workspace == b.workspace && a.name < b.name)

/-- Order of keys for sorting. -/
def atMost (a b : RecordKey) : Bool := !before b a

open Shape Decoder in
def decode : Decoder RecordKey :=
  Shape.decode "ObjectKey" (mk <$> required "namespace" string <*> required "name" string)

def toJson (k : RecordKey) : Json :=
  .ofFields [("name", some (.str k.name)), ("namespace", some (.str k.workspace))]

end RecordKey

end ReleaseControl
