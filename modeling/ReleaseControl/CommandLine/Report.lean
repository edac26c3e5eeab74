import ReleaseControl.Log.Filter
import ReleaseControl.Seed.Basic
import ReleaseControl.Settings.Load

/-! # What the command writes

The lines of the log and the errors a run ends with. -/

namespace ReleaseControl

/-- Why a run ends before it waits. -/
inductive RunError where
  | settings (cause : LoadError)
  | seeding (folder : String) (cause : SeedError)
  | listing (cause : StoreError)
  | crashed

namespace RunError

/-- What the run says: the error and, behind it, its causes. -/
def message : RunError → String
  | settings cause => s!"Configuration error: {cause.message}"
  | seeding folder cause =>
    let behind := match cause with
      | .refused _ e => s!": {e.message}"
      | _ => ""
    s!"Controller error: seeding from {folder}: {cause.message}{behind}"
  | listing cause =>
    s!"Controller error: listing Releases at startup: {cause.message}"
  | crashed => "Controller crashed"

def exitCode : RunError → Nat
  | settings _ => 2
  | seeding .. | listing _ => 1
  | crashed => 101

end RunError

namespace LogLine

/-- Target of the lines the command writes itself. -/
def commandTarget : String := "release_controller"

/-- Target of the lines about seeding. -/
def seedTarget : String := "release_controller::bootstrap"

def settingsLoaded (path source : String) : LogLine :=
  ⟨commandTarget, .info, "Configuration loaded", [("path", path), ("source", source)]⟩

def seeded (s : SeedStats) : LogLine :=
  ⟨seedTarget, .info, "Seed manifests loaded",
    [("files", toString s.files), ("created", toString s.created),
      ("skipped", toString s.skipped)]⟩

def releasesQueued (count : Nat) : LogLine :=
  ⟨commandTarget, .info, "Initial Releases queued", [("queued", toString count)]⟩

def interrupted : LogLine := ⟨commandTarget, .info, "Shutdown signal received", []⟩

end LogLine

end ReleaseControl
