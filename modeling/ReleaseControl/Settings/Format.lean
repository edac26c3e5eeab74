import ReleaseControl.Files.Disk
import ReleaseControl.Ini.Reader
import ReleaseControl.Json.Reader
import ReleaseControl.Json5.Reader
import ReleaseControl.Ron.Reader
import ReleaseControl.Text.Utf8
import ReleaseControl.Toml.Reader
import ReleaseControl.Yaml.Value

/-! # Formats of settings files

A settings file is written in one of several formats, which the extension of its name tells. What a
file holds is an object in every format. -/

namespace ReleaseControl

inductive SettingsFormat where
  | toml
  | json
  | yaml
  | ini
  | ron
  | json5
  deriving DecidableEq, Repr

namespace SettingsFormat

/-- The formats with the extensions of their files, in the order in which files are looked for. -/
def extensions : List (String × SettingsFormat) :=
  [("toml", toml), ("json", json), ("yaml", yaml), ("yml", yaml), ("ini", ini), ("ron", ron),
    ("json5", json5)]

/-- The format of a file's name. -/
def ofName? (name : String) : Option SettingsFormat := do
  Assoc.get? (← Disk.extension? name) extensions

mutual
/-- Holds an integer beyond 63 bits as a double. -/
def narrow : Json → Json
  | .int n => if n < Int.pow 2 63 then .int n else .float (Double.ofDecimal false ⟨n.toNat, 0⟩)
  | .arr vs => .arr (narrowItems vs)
  | .obj ms => .obj (narrowMembers ms)
  | v => v
def narrowItems : List Json → List Json
  | [] => []
  | v :: vs => narrow v :: narrowItems vs
def narrowMembers : List (String × Json) → List (String × Json)
  | [] => []
  | (name, v) :: ms => (name, narrow v) :: narrowMembers ms
end

/-- The value that a text writes in a format. -/
def value? : SettingsFormat → String → Option Json
  | toml, text => Toml.read? text
  | json, text => (Json.read? text).map narrow
  | yaml, text => Yaml.read? text
  | ini, text => Ini.read? text
  | ron, text => Ron.read? text
  | json5, text => Json5.read? text

/-- The object of a file. A byte-order mark is skipped, and faults of the text's coding do not
count. -/
def read? (f : SettingsFormat) (content : ByteArray) : Option Json :=
  let text := match (Text.Utf8.decode content).toList with
    | '\ufeff' :: rest => String.ofList rest
    | cs => String.ofList cs
  (f.value? text).filter Json.isObject

end SettingsFormat

/-! ## Finding the file -/

/-- Where settings are read from. -/
inductive SettingsSource where
  | nothing
  | file (format : SettingsFormat) (content : ByteArray)
  /-- Something that is no settings file. -/
  | other

namespace SettingsSource

variable {m : Type → Type} [Monad m]

/-- Looks for a file whose name is the stem with one of the extensions. -/
def beside (disk : Disk m) (stem : String) :
    List (String × SettingsFormat) → m SettingsSource
  | [] => return .other
  | (ext, format) :: rest => do
    match ← disk.look s!"{stem}.{ext}" with
    | .file content => return .file format content
    | _ => beside disk stem rest

/-- What a path leads to. For a folder the file beside it counts whose name has one of the known
extensions more. -/
def find (disk : Disk m) (path : String) : m SettingsSource := do
  match ← disk.look path with
  | .nothing => return .nothing
  | .file content =>
    match SettingsFormat.ofName? (Disk.lastName path) with
    | some format => return .file format content
    | none => return .other
  | .folder _ =>
    match Disk.folderStem? path with
    | some stem => beside disk stem SettingsFormat.extensions
    | none => return .other

end SettingsSource

end ReleaseControl
