import ReleaseControl.Settings.Basic
import ReleaseControl.Settings.Format
import ReleaseControl.Settings.Layers

/-! # Loading settings

Settings are read from merged layers with goodwill: a number may be written as a text, a text as a
number, a truth value counts as 0 or 1, and a section may list its fields in order without their
names. Settings that cannot be read that way, or that fail the check, are refused. -/

namespace ReleaseControl

/-- Why there are no settings. -/
inductive LoadError where
  /-- The file is no document of a known format. -/
  | unparsable
  /-- The path of a setting asks for an array that is too long. -/
  | overlong
  /-- A value is not of the kind its field needs. -/
  | undecodable
  | invalid (fault : SettingsFault)
  deriving DecidableEq, Repr

def LoadError.message : LoadError → String
  | unparsable => "config build error"
  | overlong => "config path asks for too many items"
  | undecodable => "config deserialize error"
  | invalid fault => fault.message

/-! ## Reading with goodwill -/

namespace Lenient

def word : Json → Option Nat
  | .int n => if 0 ≤ n ∧ n < Int.pow 2 64 then some n.toNat else none
  | .bool b => some b.toNat
  | .float bits => some (Double.toWord bits)
  | .str s =>
    match s.toLower with
    | "true" | "on" | "yes" => some 1
    | "false" | "off" | "no" => some 0
    | _ => Plain.word? s
  | _ => none

def text : Json → Option String
  | .str s => some s
  | .bool b => some (if b then "true" else "false")
  | .int n => some (toString n)
  | .float bits => some (Plain.doubleText bits)
  | _ => none

/-- A value or nothing. -/
def orNull {α : Type} (read : Json → Option α) : Json → Option (Option α)
  | .null => some none
  | v => (read v).map some

/-- The policy of a name; the name may be the only member of an object. -/
def policy : Json → Option AmbiguityPolicy
  | .str name | .obj [(name, _)] => Dictionary.get? name AmbiguityPolicy.known
  | _ => none

/-- A field of a section by its name, or by its place in a section without names. -/
def field {α : Type} (v : Json) (place : Nat) (name : String) (read : Json → Option α)
    (default : α) : Option α :=
  let found := match v with
    | .arr items => items[place]?
    | v => v.get? name
  match found with
  | some value => read value
  | none => some default

/-- A section is an object or an array. -/
def section? {α : Type} (read : Json → Option α) : Json → Option α
  | v@(.obj _) | v@(.arr _) => read v
  | _ => none

end Lenient

open Lenient

def ControllerSettings.ofLayers? (v : Json) : Option ControllerSettings :=
  let d := ControllerSettings.default
  return {
    workers := ← field v 0 "workers" word d.workers
    eventCapacity := ← field v 1 "event_capacity" word d.eventCapacity
    retryBaseDelay := ← field v 2 "retry_base_delay_ms" word d.retryBaseDelay
    retryMaxDelay := ← field v 3 "retry_max_delay_ms" word d.retryMaxDelay
    ambiguousTarget := ← field v 4 "ambiguous_target" policy d.ambiguousTarget }

def LoggingSettings.ofLayers? (v : Json) : Option LoggingSettings :=
  return { level := ← field v 0 "level" text LoggingSettings.default.level }

def BootstrapSettings.ofLayers? (v : Json) : Option BootstrapSettings :=
  return { seedDir := ← field v 0 "seed_dir" (orNull text) none }

namespace Settings

/-- The settings in merged layers, if every value can be read. -/
def ofLayers? (v : Json) : Option Settings :=
  return {
    controller := ← field v 0 "controller" (section? ControllerSettings.ofLayers?) .default
    logging := ← field v 1 "logging" (section? LoggingSettings.ofLayers?) .default
    bootstrap := ← field v 2 "bootstrap" (section? BootstrapSettings.ofLayers?) .default }

/-! ## Loading -/

/-- File that is read when none is named. -/
def defaultPath : String := "release-service.toml"

/-- The layer of a source; nothing is an empty layer. -/
def sourceLayer : SettingsSource → Except LoadError Layer
  | .nothing => .ok []
  | .other => .error .unparsable
  | .file format content =>
    match format.read? content with
    | some v => .ok (.ofFile v)
    | none => .error .unparsable

/-- The settings of a source and, over it, of the environment. -/
def ofSource (source : SettingsSource) (env : Environment) : Except LoadError Settings := do
  let file ← sourceLayer source
  match Layer.merge? [file, .ofEnvironment env] with
  | none => .error .overlong
  | some v =>
    match ofLayers? v with
    | none => .error .undecodable
    | some settings =>
      settings.check.mapError .invalid
      return settings

/-- The settings that a path and the environment give. -/
def load {m : Type → Type} [Monad m] (disk : Disk m) (path : String) (env : Environment) :
    m (Except LoadError Settings) := do
  return ofSource (← SettingsSource.find disk path) env

end Settings

end ReleaseControl
