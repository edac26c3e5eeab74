import ReleaseControl.Record.Basic
import ReleaseControl.Record.Condition

/-! # Releases

A Release asks for an application to be shipped through the link it names. Its status holds the
conditions, the run that was started for it and when. The `Succeeded` condition is settled for a
generation when it was observed for that generation and is true, or false for any reason but
`Retrying`. -/

namespace ReleaseControl

structure ReleaseSpec where
  /-- Name of a link in the Release's own workspace. -/
  releaseLink : String
  deriving DecidableEq, Repr

structure ReleaseStatus where
  conditions : List Condition
  /-- Key text of the run that was started. -/
  pipelineRun : Option String
  startTime : Option String
  deriving DecidableEq, Repr

structure Release where
  metadata : Metadata
  spec : ReleaseSpec
  status : ReleaseStatus
  deriving DecidableEq

namespace ReleaseSpec

open Shape Decoder in
def decode : Decoder ReleaseSpec :=
  Shape.decode "ReleaseSpec" (mk <$> required "releaseLink" string)

def toJson (s : ReleaseSpec) : Json := .ofFields [("releaseLink", some (.str s.releaseLink))]

end ReleaseSpec

namespace ReleaseStatus

def empty : ReleaseStatus := ⟨[], none, none⟩

def succeededType : String := "Succeeded"

/-- Reason of a failure that stays until the Release gets a new generation. -/
def errorReason : String := "Error"

/-- Reason of a failure that is retried. -/
def retryingReason : String := "Retrying"

/-- Reason while the run is under way. -/
def runningReason : String := "Running"

def succeeded? (s : ReleaseStatus) : Option Condition :=
  Condition.find? succeededType s.conditions

def hasError (s : ReleaseStatus) : Bool := s.succeeded?.any fun c => c.status == .false

/-- The message of the failure, if the status is one. -/
def errorMessage? (s : ReleaseStatus) : Option String :=
  (s.succeeded?.filter fun c => c.status == .false).map (·.message)

def isTriggered (s : ReleaseStatus) : Bool := s.pipelineRun.isSome

/-- Whether the condition decides the Release for `generation`. -/
def isSettledCondition (c : Condition) (generation : Int64) : Bool :=
  c.observedGeneration == some generation &&
    match c.status with
    | .true => true
    | .false => c.reason != retryingReason
    | .unknown => false

def isSettledFor (s : ReleaseStatus) (generation : Int64) : Bool :=
  s.succeeded?.any fun c => isSettledCondition c generation

/-! ## Writing the status -/

/-- Places a condition, see `Condition.set`. -/
def setCondition (now : String) (c : Condition) (s : ReleaseStatus) : ReleaseStatus :=
  { s with conditions := Condition.set now c s.conditions }

def setSucceeded (now : String) (status : ConditionStatus) (reason message : String)
    (generation : Int64) (s : ReleaseStatus) : ReleaseStatus :=
  s.setCondition now (.new succeededType status reason message (some generation))

/-- Records a settled failure. -/
def setError (now message : String) (generation : Int64) (s : ReleaseStatus) : ReleaseStatus :=
  s.setSucceeded now .false errorReason message generation

/-- Records a failure that will be retried. -/
def setRetrying (now message : String) (generation : Int64) (s : ReleaseStatus) : ReleaseStatus :=
  s.setSucceeded now .false retryingReason message generation

/-- Records the run started for the Release and tells whether it did: a status that is settled for
the generation already is left as it is. -/
def markTriggered (now : String) (run : RecordKey) (generation : Int64) (s : ReleaseStatus) :
    Bool × ReleaseStatus :=
  if s.isSettledFor generation then (false, s)
  else
    (true, { s with pipelineRun := some run.text, startTime := some now }.setSucceeded now
      .unknown runningReason "Release pipeline triggered" generation)

/-! ## JSON -/

open Shape Decoder in
def decode : Decoder ReleaseStatus :=
  Shape.decode "ReleaseStatus" <|
    mk <$> withDefault "conditions" (list Condition.decode) []
      <*> optional "releasePipelineRun" string <*> optional "startTime" string

def toJson (s : ReleaseStatus) : Json :=
  .ofFields [
    ("conditions",
      if s.conditions.isEmpty then none else some (.arr (s.conditions.map Condition.toJson))),
    ("releasePipelineRun", s.pipelineRun.map .str),
    ("startTime", s.startTime.map .str)]

end ReleaseStatus

namespace Release

def kind : String := "Release"

def new (key : RecordKey) (releaseLink : String) : Release :=
  ⟨.new key .empty, ⟨releaseLink⟩, .empty⟩

def key (r : Release) : RecordKey := r.metadata.key

/-- Key of the link the Release names. -/
def linkKey (r : Release) : RecordKey := ⟨r.metadata.workspace, r.spec.releaseLink⟩

/-- Whether nothing is left to do for the Release: a run was started, or the status is settled
for its generation. -/
def isFinished (r : Release) : Bool :=
  r.status.isTriggered || r.status.isSettledFor r.metadata.currentGeneration

open Shape in
def decode : Decoder Release :=
  Shape.decode "Release" <|
    mk <$> required "metadata" Metadata.decode <*> required "spec" ReleaseSpec.decode
      <*> withDefault "status" ReleaseStatus.decode .empty

def toJson (r : Release) : Json :=
  .ofFields [
    ("kind", some (.str kind)),
    ("metadata", some r.metadata.toJson),
    ("spec", some r.spec.toJson),
    ("status", some r.status.toJson)]

instance : Record Release where
  kind := kind
  metadata := metadata
  toJson := toJson
  decode := decode

end Release

end ReleaseControl
