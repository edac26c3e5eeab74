import ReleaseControl.Files.Disk

/-! # Manifests

The files of a folder whose extension is `json`, in the order of their names. -/

namespace ReleaseControl

structure Manifest where
  path : String
  /-- The text of the file, unless it cannot be read. -/
  text : Option String
  deriving DecidableEq, Repr

namespace Manifest

def isName (name : String) : Bool := Disk.extension? name == some "json"

/-- The manifests of a folder; none when there is no such folder. -/
def ofFolder {m : Type → Type} [Monad m] (disk : Disk m) (folder : String) :
    m (Option (List Manifest)) := do
  match ← disk.look folder with
  | .folder names =>
    let names := (names.filter isName).mergeSort fun a b => decide (a ≤ b)
    return some (← names.mapM fun name => do
      let path := Disk.join folder name
      return ⟨path, (← disk.look path).text?⟩)
  | _ => return none

end Manifest

end ReleaseControl
