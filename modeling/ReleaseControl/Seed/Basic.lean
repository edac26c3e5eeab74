import ReleaseControl.Json.Reader
import ReleaseControl.Seed.Manifest
import ReleaseControl.Store.Program

/-! # Seeding

Fills a store from the manifests of a folder. A manifest holds one record or an array of records.
Records are created in order, those that are there already are skipped, and the first failure
ends the seeding; what was created before it stays. -/

namespace ReleaseControl

inductive SeedError where
  /-- The folder or a file in it cannot be read. -/
  | unreadable (path : String)
  | unparsable (path : String)
  /-- The store refused a record of the file. -/
  | refused (path : String) (cause : StoreError)
  deriving DecidableEq, Repr

def SeedError.message : SeedError → String
  | unreadable path => s!"failed to read {path}"
  | unparsable path => s!"failed to parse {path}"
  | refused path cause => s!"failed to apply a record from {path}: {cause.message}"

/-- What a seeding did. -/
structure SeedStats where
  files : Nat
  created : Nat
  skipped : Nat
  deriving DecidableEq, Repr

namespace Seed

/-- The records of a manifest. -/
def records : Json → List Json
  | .arr items => items
  | v => [v]

/-- Creates one record and tells whether it was new. -/
def apply (record : Json) : Program (Except StoreError Bool) := do
  match record.recordKind with
  | .error e => return .error e
  | .ok kind =>
    match ← Program.ask (.create kind record) with
    | .ok _ => return .ok true
    | .error (.alreadyExists ..) => return .ok false
    | .error e => return .error e

/-- Creates records in order. -/
def applyAll (stats : SeedStats) : List Json → Program (Except StoreError SeedStats)
  | [] => return .ok stats
  | record :: rest => do
    match ← apply record with
    | .error e => return .error e
    | .ok true => applyAll { stats with created := stats.created + 1 } rest
    | .ok false => applyAll { stats with skipped := stats.skipped + 1 } rest

/-- Applies manifests in order. -/
def loadAll (stats : SeedStats) : List Manifest → Program (Except SeedError SeedStats)
  | [] => return .ok stats
  | manifest :: rest => do
    match manifest.text with
    | none => return .error (.unreadable manifest.path)
    | some text =>
      match Json.read? text with
      | none => return .error (.unparsable manifest.path)
      | some v =>
        match ← applyAll stats (records v) with
        | .error e => return .error (.refused manifest.path e)
        | .ok stats => loadAll { stats with files := stats.files + 1 } rest

/-- Seeds from the manifests of a folder, if there is one. -/
def load (folder : String) : Option (List Manifest) → Program (Except SeedError SeedStats)
  | none => return .error (.unreadable folder)
  | some manifests => loadAll ⟨0, 0, 0⟩ manifests

end Seed

end ReleaseControl
