import ReleaseControl.Name
import ReleaseControl.Record.Release
import ReleaseControl.Record.ReleaseStrategy

/-! # Pipeline runs

A run is the order to execute a pipeline for one Release. `PipelineRun.forRelease` builds it from
the strategy: its name is fixed by the Release, its labels name the Release and the strategy, and
its parameters are the strategy's followed by the standard ones, which shadow strategy parameters
of the same name. -/

namespace ReleaseControl

structure PipelineRef where
  name : String
  bundle : Option String
  deriving DecidableEq, Repr

structure PipelineRunParam where
  name : String
  value : ParamValue
  deriving DecidableEq, Repr

structure PipelineRunSpec where
  pipelineRef : PipelineRef
  params : List PipelineRunParam
  serviceAccountName : Option String
  deriving DecidableEq, Repr

structure PipelineRun where
  metadata : Metadata
  spec : PipelineRunSpec
  deriving DecidableEq

/-! ## JSON -/

namespace PipelineRef

open Shape Decoder in
def decode : Decoder PipelineRef :=
  Shape.decode "PipelineRef" (mk <$> required "name" string <*> optional "bundle" string)

def toJson (r : PipelineRef) : Json :=
  .ofFields [("bundle", r.bundle.map .str), ("name", some (.str r.name))]

end PipelineRef

namespace PipelineRunParam

open Shape Decoder in
def decode : Decoder PipelineRunParam :=
  Shape.decode "PipelineRunParam" <|
    mk <$> required "name" string <*> required "value" ParamValue.decode

def toJson (p : PipelineRunParam) : Json :=
  .ofFields [("name", some (.str p.name)), ("value", some p.value.toJson)]

end PipelineRunParam

namespace PipelineRunSpec

open Shape Decoder in
def decode : Decoder PipelineRunSpec :=
  Shape.decode "PipelineRunSpec" <|
    mk <$> required "pipelineRef" PipelineRef.decode
      <*> withDefault "params" (list PipelineRunParam.decode) []
      <*> optional "serviceAccountName" string

def toJson (s : PipelineRunSpec) : Json :=
  .ofFields [
    ("params",
      if s.params.isEmpty then none else some (.arr (s.params.map PipelineRunParam.toJson))),
    ("pipelineRef", some s.pipelineRef.toJson),
    ("serviceAccountName", s.serviceAccountName.map .str)]

end PipelineRunSpec

namespace PipelineRun

def kind : String := "PipelineRun"

def key (r : PipelineRun) : RecordKey := r.metadata.key

/-- The value of the first parameter with the name. -/
def param? (name : String) (r : PipelineRun) : Option ParamValue :=
  (r.spec.params.find? fun p => p.name == name).map (·.value)

open Shape in
def decode : Decoder PipelineRun :=
  Shape.decode "PipelineRun" <|
    mk <$> required "metadata" Metadata.decode <*> required "spec" PipelineRunSpec.decode

def toJson (r : PipelineRun) : Json :=
  .ofFields [
    ("kind", some (.str kind)),
    ("metadata", some r.metadata.toJson),
    ("spec", some r.spec.toJson)]

instance : Record PipelineRun where
  kind := kind
  metadata := metadata
  toJson := toJson
  decode := decode

/-! ## Names -/

/-- How many letters and digits of the Release's uid end the name of its run. -/
def uidLength : Nat := 8

/-- The first ASCII letters and digits of a uid, in lower case. -/
def uidSuffix (uid : List Char) : List Char :=
  ((uid.filter Char.isAlphanum).take uidLength).map Char.toLower

/-- Joins the label and the uid suffix with a dash; the label is cut so that the whole fits. -/
def joinName (label suffix : List Char) : List Char :=
  if suffix.isEmpty then label
  else Name.trimDashes (label.take (Name.maxLength - suffix.length - 1)) ++ '-' :: suffix

/-- Name of the run for a Release: stable over retries, a valid record name, and told apart from
the runs of other Releases by the uid at its end. -/
def nameFor (r : Release) : String :=
  let label := Name.labelChars s!"release-{r.metadata.workspace}-{r.metadata.name}".toList
  String.ofList (joinName label (uidSuffix (r.metadata.uid.getD "").toList))

/-! ## Labels and parameters -/

def nameLabel : String := "release.appstudio.openshift.io/name"
def workspaceLabel : String := "release.appstudio.openshift.io/workspace"
def uidLabel : String := "release.appstudio.openshift.io/uid"
def strategyLabel : String := "release.appstudio.openshift.io/strategy"

/-- Parameter that carries the key text of the Release. -/
def releaseParam : String := "release"

/-- Parameter that carries the strategy's policy. -/
def policyParam : String := "policy"

/-- Labels that tie a run to its Release and strategy. -/
def labelsFor (strategy : ReleaseStrategy) (r : Release) : Labels :=
  let labels := Labels.empty
    |>.insert nameLabel r.metadata.name
    |>.insert workspaceLabel r.metadata.workspace
    |>.insert strategyLabel strategy.key.text
  match r.metadata.uid with
  | some uid => labels.insert uidLabel uid
  | none => labels

/-- The parameters every run gets. -/
def standardParams (strategy : ReleaseStrategy) (r : Release) : List PipelineRunParam :=
  ⟨releaseParam, .single r.key.text⟩
    :: (strategy.spec.policy.map fun p => ⟨policyParam, .single p⟩).toList

/-- The strategy's parameters, in order and without those a standard one shadows, then the
standard ones. -/
def paramsFor (strategy : ReleaseStrategy) (r : Release) : List PipelineRunParam :=
  let standard := standardParams strategy r
  let own := strategy.spec.params.filter fun p => !standard.any fun s => s.name == p.name
  own.map (fun p => ⟨p.name, p.resolved⟩) ++ standard

/-- The run for a Release in the workspace it is shipped to. -/
def forRelease (strategy : ReleaseStrategy) (workspace : String) (r : Release) : PipelineRun where
  metadata := .new ⟨workspace, nameFor r⟩ (labelsFor strategy r)
  spec := {
    pipelineRef := ⟨strategy.spec.pipeline, strategy.spec.bundle⟩
    params := paramsFor strategy r
    serviceAccountName := strategy.spec.serviceAccount }

end PipelineRun

end ReleaseControl
