import ReleaseControl.Record.Metadata

/-! # Conditions

A condition reports one aspect of a record's state: its type, whether it holds, why, and since
when. A list of conditions has at most one entry per type as far as `Condition.set` wrote it, and
the transition time of an entry moves only when its status changes. Clock readings are texts given
by the caller. -/

namespace ReleaseControl

inductive ConditionStatus where
  | true
  | false
  | unknown
  deriving DecidableEq, Repr

namespace ConditionStatus

def text : ConditionStatus → String
  | .true => "True"
  | .false => "False"
  | .unknown => "Unknown"

def decode : Decoder ConditionStatus :=
  .choice [("True", .true), ("False", .false), ("Unknown", .unknown)]

end ConditionStatus

structure Condition where
  type : String
  status : ConditionStatus
  reason : String
  message : String
  lastTransition : Option String
  observedGeneration : Option Int64
  deriving DecidableEq, Repr

namespace Condition

/-- A condition that has not been placed yet. -/
def new (type : String) (status : ConditionStatus) (reason message : String)
    (observedGeneration : Option Int64) : Condition :=
  ⟨type, status, reason, message, none, observedGeneration⟩

def find? (type : String) (conditions : List Condition) : Option Condition :=
  conditions.find? fun c => c.type == type

/-- Puts a condition over the first one of its type, or at the end. The transition time is kept
while the status stays and is `now` otherwise. -/
def set (now : String) (c : Condition) : List Condition → List Condition
  | [] => [{ c with lastTransition := some now }]
  | old :: rest =>
    if old.type = c.type then
      { c with
        lastTransition := if old.status = c.status then old.lastTransition else some now } :: rest
    else old :: set now c rest

open Shape Decoder in
def decode : Decoder Condition :=
  Shape.decode "Condition" <|
    mk <$> required "type" string <*> required "status" ConditionStatus.decode
      <*> withDefault "reason" string "" <*> withDefault "message" string ""
      <*> optional "lastTransitionTime" string <*> optional "observedGeneration" int64

def toJson (c : Condition) : Json :=
  .ofFields [
    ("lastTransitionTime", c.lastTransition.map .str),
    ("message", some (.str c.message)),
    ("observedGeneration", c.observedGeneration.map fun g => .int g.toInt),
    ("reason", some (.str c.reason)),
    ("status", some (.str c.status.text)),
    ("type", some (.str c.type))]

end Condition

end ReleaseControl
