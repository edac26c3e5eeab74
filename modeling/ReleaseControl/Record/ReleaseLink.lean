import ReleaseControl.Record.Basic

/-! # Release links

A link in workspace `W1` that points at `W2` is one side of an agreement: it takes effect together
with a link in `W2` that points back at `W1` for the same application. -/

namespace ReleaseControl

structure ReleaseLinkSpec where
  displayName : Option String
  /-- Workspace the link points at. -/
  target : String
  application : String
  /-- Strategy to use; needed on the target side. -/
  releaseStrategy : Option String
  deriving DecidableEq, Repr

structure ReleaseLink where
  metadata : Metadata
  spec : ReleaseLinkSpec
  deriving DecidableEq

namespace ReleaseLinkSpec

open Shape Decoder in
def decode : Decoder ReleaseLinkSpec :=
  Shape.decode "ReleaseLinkSpec" <|
    mk <$> optional "displayName" string <*> required "target" string
      <*> required "application" string <*> optional "releaseStrategy" string

def toJson (s : ReleaseLinkSpec) : Json :=
  .ofFields [
    ("application", some (.str s.application)),
    ("displayName", s.displayName.map .str),
    ("releaseStrategy", s.releaseStrategy.map .str),
    ("target", some (.str s.target))]

end ReleaseLinkSpec

namespace ReleaseLink

def kind : String := "ReleaseLink"

/-- Path of the field that names the workspace a link points at. -/
def targetField : String := "spec.target"

def new (key : RecordKey) (target application : String) (releaseStrategy : Option String) :
    ReleaseLink :=
  ⟨.new key .empty, ⟨none, target, application, releaseStrategy⟩⟩

def key (l : ReleaseLink) : RecordKey := l.metadata.key

/-- Key of the strategy the link names; an empty name names none. -/
def strategyKey? (l : ReleaseLink) : Option RecordKey :=
  (l.spec.releaseStrategy.filter fun name => !name.isEmpty).map fun name =>
    ⟨l.metadata.workspace, name⟩

/-- Whether the two links point at each other's workspaces for one application. -/
def pairsWith (l other : ReleaseLink) : Bool :=
  other.metadata.workspace == l.spec.target && other.spec.target == l.metadata.workspace
    && other.spec.application == l.spec.application

open Shape in
def decode : Decoder ReleaseLink :=
  Shape.decode "ReleaseLink" <|
    mk <$> required "metadata" Metadata.decode <*> required "spec" ReleaseLinkSpec.decode

def toJson (l : ReleaseLink) : Json :=
  .ofFields [
    ("kind", some (.str kind)),
    ("metadata", some l.metadata.toJson),
    ("spec", some l.spec.toJson)]

instance : Record ReleaseLink where
  kind := kind
  metadata := metadata
  toJson := toJson
  decode := decode

end ReleaseLink

end ReleaseControl
