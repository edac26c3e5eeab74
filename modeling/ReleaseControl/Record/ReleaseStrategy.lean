import ReleaseControl.Record.Basic

/-! # Release strategies

A strategy says which pipeline releases an application, with which parameters. A parameter is
declared with one value or with a list of values; the list wins when it is not empty. -/

namespace ReleaseControl

/-- Value of a pipeline parameter. -/
inductive ParamValue where
  | single (value : String)
  | list (values : List String)
  deriving DecidableEq, Repr

namespace ParamValue

/-- A text, or an array of texts. -/
def decode : Decoder ParamValue
  | .str s => .ok (.single s)
  | .arr items =>
    match items.mapM Json.asString? with
    | some values => .ok (.list values)
    | none => .error (.noAlternative "ParamValue")
  | _ => .error (.noAlternative "ParamValue")

def toJson : ParamValue → Json
  | .single s => .str s
  | .list values => .arr (values.map .str)

end ParamValue

/-- A parameter as a strategy declares it. -/
structure Param where
  name : String
  value : Option String
  values : List String
  deriving DecidableEq, Repr

namespace Param

def resolved (p : Param) : ParamValue :=
  if p.values.isEmpty then .single (p.value.getD "") else .list p.values

open Shape Decoder in
def decode : Decoder Param :=
  Shape.decode "Param" <|
    mk <$> required "name" string <*> optional "value" string
      <*> withDefault "values" (list string) []

def toJson (p : Param) : Json :=
  .ofFields [
    ("name", some (.str p.name)),
    ("value", p.value.map .str),
    ("values", if p.values.isEmpty then none else some (.arr (p.values.map .str)))]

end Param

structure ReleaseStrategySpec where
  /-- Name of the pipeline to run. -/
  pipeline : String
  /-- Bundle that holds the pipeline. -/
  bundle : Option String
  /-- Policy handed to the pipeline. -/
  policy : Option String
  params : List Param
  serviceAccount : Option String
  deriving DecidableEq, Repr

structure ReleaseStrategy where
  metadata : Metadata
  spec : ReleaseStrategySpec
  deriving DecidableEq

namespace ReleaseStrategySpec

open Shape Decoder in
def decode : Decoder ReleaseStrategySpec :=
  Shape.decode "ReleaseStrategySpec" <|
    mk <$> required "pipeline" string <*> optional "bundle" string <*> optional "policy" string
      <*> withDefault "params" (list Param.decode) [] <*> optional "serviceAccount" string

def toJson (s : ReleaseStrategySpec) : Json :=
  .ofFields [
    ("bundle", s.bundle.map .str),
    ("params", if s.params.isEmpty then none else some (.arr (s.params.map Param.toJson))),
    ("pipeline", some (.str s.pipeline)),
    ("policy", s.policy.map .str),
    ("serviceAccount", s.serviceAccount.map .str)]

end ReleaseStrategySpec

namespace ReleaseStrategy

def kind : String := "ReleaseStrategy"

def new (key : RecordKey) (pipeline : String) (bundle policy : Option String)
    (params : List Param) : ReleaseStrategy :=
  ⟨.new key .empty, ⟨pipeline, bundle, policy, params, none⟩⟩

def key (s : ReleaseStrategy) : RecordKey := s.metadata.key

open Shape in
def decode : Decoder ReleaseStrategy :=
  Shape.decode "ReleaseStrategy" <|
    mk <$> required "metadata" Metadata.decode <*> required "spec" ReleaseStrategySpec.decode

def toJson (s : ReleaseStrategy) : Json :=
  .ofFields [
    ("kind", some (.str kind)),
    ("metadata", some s.metadata.toJson),
    ("spec", some s.spec.toJson)]

instance : Record ReleaseStrategy where
  kind := kind
  metadata := metadata
  toJson := toJson
  decode := decode

end ReleaseStrategy

end ReleaseControl
