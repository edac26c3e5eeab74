import ReleaseControl.CommandLine.Report
import ReleaseControl.Deployment.Basic
import ReleaseControl.Environment.File

/-! # A session of the command

A run of the command from its arguments to the point where it waits for the signal to stop: the
environment file, the log filter, the settings, the store and its seed, and a controller at work on
it. `Session.start` does all this with the files that a `Disk` shows and keeps what is to be
written, in order; `Session.stop` is what the signal does. -/

namespace ReleaseControl

/-- Where the path of the settings file comes from. -/
inductive PathSource where
  | fromArgument
  | fromEnvironment
  | byDefault
  deriving DecidableEq, Repr

def PathSource.text : PathSource → String
  | fromArgument => "CLI argument (--config)"
  | fromEnvironment => "environment variable (RELEASE_SERVICE_CONFIG)"
  | byDefault => "default"

/-- What has been written so far, and which lines of the log are. -/
structure Output where
  filter : LogFilter
  errors : List String
  log : List LogLine

namespace Output

/-- Writes a line to the log if the filter lets it through. -/
def write (l : LogLine) (o : Output) : Output :=
  if o.filter.allows l then { o with log := o.log ++ [l] } else o

def complain (message : String) (o : Output) : Output :=
  { o with errors := o.errors ++ [message] }

end Output

/-- A command that waits for the signal to stop. -/
structure Session where
  output : Output
  deployment : Deployment

namespace Session

/-! ## The environment -/

/-- File that variables are read from. -/
def environmentPath : String := ".env"

/-- Variable that overrides the log level. -/
def filterVariable : String := "RUST_LOG"

/-- Variable that names the settings file. -/
def pathVariable : String := "RELEASE_SERVICE_CONFIG"

/-- The variables with those of the environment file, and what is wrong with that file. -/
def withFile (found : Found) (env : Environment) : Environment × List String :=
  match found with
  | .file content =>
    let (env, fault) := EnvFile.load content env
    (env, (fault.map fun f => s!"Warning: Failed to load .env file: {f.message}").toList)
  | _ => (env, [])

/-- The filter at the start: the variable's if it has one, else down to `info`. -/
def initialFilter (env : Environment) : LogFilter :=
  ((Assoc.get? filterVariable env).bind LogFilter.parse?).getD (.ofLevel .info)

/-- The filter once the settings are there; the variable, even a bad one, keeps them out. -/
def settledFilter (env : Environment) (level : String) (current : LogFilter) : LogFilter :=
  if Assoc.contains filterVariable env then current
  else (LogFilter.parse? level).getD current

/-- The path behind the first `--config` that has one. -/
def argumentPath? : List String → Option String
  | "--config" :: path :: _ => some path
  | _ :: rest => argumentPath? rest
  | [] => none

def settingsPath (args : List String) (env : Environment) : String × PathSource :=
  match argumentPath? args with
  | some path => (path, .fromArgument)
  | none =>
    match (Assoc.get? pathVariable env).filter fun path => !path.isEmpty with
    | some path => (path, .fromEnvironment)
    | none => (Settings.defaultPath, .byDefault)

/-! ## The store and the controller -/

/-- A deployment with an empty store, the controller's receiver subscribed. -/
def deploy (now : String) (settings : Settings) : Except RunError Deployment :=
  match Channel.new? settings.controller.eventCapacity with
  | none => .error .crashed
  | some channel => .ok
    { backend := ⟨.empty Chain.indexes, [], 0, now⟩
      channel := channel.subscribe Deployment.controllerReceiver
      policy := settings.controller.ambiguousTarget
      controller := none }

/-- Fills the store from the manifests of the seed folder. -/
def seed (folder : String) (manifests : Option (List Manifest)) (s : Session) :
    Except RunError Session :=
  match s.deployment.run (Seed.load folder manifests) with
  | (.returned (.ok stats), deployment) => .ok ⟨s.output.write (.seeded stats), deployment⟩
  | (.returned (.error e), _) => .error (.seeding folder e)
  | (.crashed, _) => .error .crashed

/-- Queues the stored Releases and sets the controller to work on them. -/
def launch (settings : ControllerSettings) (s : Session) : Except RunError Session :=
  match (s.deployment.withController settings.backoff settings.workers).resync with
  | (.returned (.ok count), d) => .ok ⟨s.output.write (.releasesQueued count), d.start.settle⟩
  | (.returned (.error e), _) => .error (.listing e)
  | (.crashed, _) => .error .crashed

/-! ## Running -/

/-- A run that ended early: why, and what it wrote. -/
abbrev Failure := RunError × Output

/-- Ends a run early if a step failed. -/
def orFail (output : Output) : Except RunError Session → Except Failure Session
  | .ok s => .ok s
  | .error e => .error (e, output.complain e.message)

/-- Runs up to the wait with the settings that were loaded. -/
def enter {m : Type → Type} [Monad m] (disk : Disk m) (now : String) (settings : Settings)
    (output : Output) : m (Except Failure Session) := do
  let seed : Session → Except RunError Session ← match settings.bootstrap.seedDir with
    | none => pure .ok
    | some folder => do
      let manifests ← Manifest.ofFolder disk folder
      pure fun session => session.seed folder manifests
  return do
    let session ← orFail output <| (deploy now settings).map fun d => ⟨output, d⟩
    let session ← orFail output (seed session)
    orFail session.output (session.launch settings.controller)

/-- Runs up to the wait, or to the error that ends the run. -/
def start {m : Type → Type} [Monad m] (disk : Disk m) (now : String) (args : List String)
    (env : Environment) : m (Except Failure Session) := do
  let (env, warnings) := withFile (← disk.look environmentPath) env
  let output : Output := ⟨initialFilter env, warnings, []⟩
  let (path, source) := settingsPath args env
  match ← Settings.load disk path env with
  | .error .overlong => return orFail output (.error .crashed)
  | .error e => return orFail output (.error (.settings e))
  | .ok settings =>
    let output := output.write (.settingsLoaded path source.text)
    let filter := settledFilter env settings.logging.level output.filter
    enter disk now settings { output with filter }

/-- Ends the wait. -/
def stop (s : Session) : Session := ⟨s.output.write .interrupted, s.deployment.stop⟩

end Session

end ReleaseControl
