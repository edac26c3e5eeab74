import ReleaseControl.Queue.Backoff
import ReleaseControl.Reconcile.Chain
import ReleaseControl.Text.Blank

/-! # Settings

How the controller is run: its workers and waits, the log level, and the directory whose manifests
fill the store. `Settings.check` refuses settings the controller cannot run with and names the
first fault. -/

namespace ReleaseControl

structure ControllerSettings where
  workers : Nat
  eventCapacity : Nat
  retryBaseDelay : Nat
  retryMaxDelay : Nat
  ambiguousTarget : AmbiguityPolicy
  deriving DecidableEq, Repr

structure LoggingSettings where
  level : String
  deriving DecidableEq, Repr

structure BootstrapSettings where
  seedDir : Option String
  deriving DecidableEq, Repr

structure Settings where
  controller : ControllerSettings
  logging : LoggingSettings
  bootstrap : BootstrapSettings
  deriving DecidableEq, Repr

namespace ControllerSettings

def default : ControllerSettings := ⟨4, 1024, 100, 30000, .strict⟩

def backoff (s : ControllerSettings) : Backoff := ⟨s.retryBaseDelay, s.retryMaxDelay⟩

open Shape Decoder in
def decode : Decoder ControllerSettings :=
  Shape.decode "ControllerConfig" <|
    mk <$> withDefault "workers" (word "usize") default.workers
      <*> withDefault "event_capacity" (word "usize") default.eventCapacity
      <*> withDefault "retry_base_delay_ms" (word "u64") default.retryBaseDelay
      <*> withDefault "retry_max_delay_ms" (word "u64") default.retryMaxDelay
      <*> withDefault "ambiguous_target" (choice AmbiguityPolicy.known) default.ambiguousTarget

def toJson (s : ControllerSettings) : Json :=
  .ofFields [
    ("ambiguous_target", some (.str s.ambiguousTarget.text)),
    ("event_capacity", some (.int s.eventCapacity)),
    ("retry_base_delay_ms", some (.int s.retryBaseDelay)),
    ("retry_max_delay_ms", some (.int s.retryMaxDelay)),
    ("workers", some (.int s.workers))]

end ControllerSettings

namespace LoggingSettings

def default : LoggingSettings := ⟨"info"⟩

open Shape Decoder in
def decode : Decoder LoggingSettings :=
  Shape.decode "LoggingConfig" (mk <$> withDefault "level" string default.level)

def toJson (s : LoggingSettings) : Json := .ofFields [("level", some (.str s.level))]

end LoggingSettings

namespace BootstrapSettings

def default : BootstrapSettings := ⟨none⟩

open Shape Decoder in
def decode : Decoder BootstrapSettings :=
  Shape.decode "BootstrapConfig" (mk <$> optional "seed_dir" string)

def toJson (s : BootstrapSettings) : Json :=
  .ofFields [("seed_dir", some ((s.seedDir.map Json.str).getD .null))]

end BootstrapSettings

/-- Why the controller cannot run with some settings. -/
inductive SettingsFault where
  | noWorkers
  | noEventCapacity
  | noBaseDelay
  | baseDelayAboveMax
  | unknownLogLevel
  | blankSeedDir
  deriving DecidableEq, Repr

/-- The log levels, from the most to the least talkative. -/
def logLevels : List String := ["trace", "debug", "info", "warn", "error", "off"]

def SettingsFault.message : SettingsFault → String
  | noWorkers => "controller.workers must be > 0"
  | noEventCapacity => "controller.event_capacity must be > 0"
  | noBaseDelay => "controller.retry_base_delay_ms must be > 0"
  | baseDelayAboveMax =>
    "controller.retry_base_delay_ms must be <= controller.retry_max_delay_ms"
  | unknownLogLevel =>
    "logging.level must be one of ["
      ++ String.intercalate ", " (logLevels.map Text.quoted) ++ "]"
  | blankSeedDir => "bootstrap.seed_dir must not be empty when set"

namespace Settings

def default : Settings := ⟨.default, .default, .default⟩

/-- Finds the first fault. -/
def check (s : Settings) : Except SettingsFault Unit :=
  if s.controller.workers = 0 then .error .noWorkers
  else if s.controller.eventCapacity = 0 then .error .noEventCapacity
  else if s.controller.retryBaseDelay = 0 then .error .noBaseDelay
  else if s.controller.retryBaseDelay > s.controller.retryMaxDelay then .error .baseDelayAboveMax
  else if !logLevels.contains s.logging.level.toLower then .error .unknownLogLevel
  else if s.bootstrap.seedDir.any Text.allBlank then .error .blankSeedDir
  else .ok ()

open Shape in
def decode : Decoder Settings :=
  Shape.decode "AppConfig" <|
    mk <$> withDefault "controller" ControllerSettings.decode .default
      <*> withDefault "logging" LoggingSettings.decode .default
      <*> withDefault "bootstrap" BootstrapSettings.decode .default

def toJson (s : Settings) : Json :=
  .ofFields [
    ("bootstrap", some s.bootstrap.toJson),
    ("controller", some s.controller.toJson),
    ("logging", some s.logging.toJson)]

end Settings

end ReleaseControl
