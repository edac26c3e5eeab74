import ReleaseControl.Environment.Basic
import ReleaseControl.Number.Plain
import ReleaseControl.Settings.Path

/-! # Layers of settings

Settings come in layers: a file, and over it the variables of the environment. A layer is a list of
values under keys, and a key is a path to where its value belongs. Objects are merged member by
member, every other value replaces what a lower layer has. -/

namespace ReleaseControl

/-- A source of settings: values under keys. -/
abbrev Layer := List (String × Json)

namespace Layer

/-- Lays a value over what is at the path of its key. -/
def putAt (root : Json) (key : String) (v : Json) : Option Json :=
  root.alterAt (fun below => some (below.overlay v)) (.ofKey key)

/-- The object of some layers, the lowest first; none if an array would get too long. -/
def merge? (layers : List Layer) : Option Json :=
  layers.flatten.foldlM (fun root e => putAt root e.1 e.2) (.obj [])

/-- The layer of a file. -/
def ofFile : Json → Layer
  | .obj members => members
  | _ => []

/-! ## The environment -/

/-- What a variable's name starts with, in any case, to be a setting. -/
def variableStart : String := "release_service__"

/-- The small letter of a character. Names of settings are ASCII; of all other characters only the
Kelvin sign has a small letter among them. -/
def toSmall (c : Char) : Char := if c == '\u212a' then 'k' else c.toLower

/-- Puts a dot for every two underscores, which part the names in a variable's name. -/
def dotted : List Char → List Char
  | [] => []
  | '_' :: '_' :: rest => '.' :: dotted rest
  | c :: rest => c :: dotted rest

/-- The key a variable's name stands for. -/
def keyOfVariable? (name : String) : Option String :=
  let cs := name.toList.map toSmall
  if variableStart.toList.isPrefixOf cs then
    some (String.ofList (dotted (cs.drop variableStart.length)))
  else none

/-- What a variable's text stands for: a truth value, an integer, a double, or itself. -/
def valueOfText (text : String) : Json :=
  match text.toLower with
  | "true" => .bool true
  | "false" => .bool false
  | _ =>
    match Plain.int64? text, Plain.double? text with
    | some n, _ => .int n
    | none, some bits => .float bits
    | none, none => .str text

/-- The layer of the environment's variables. -/
def ofEnvironment (env : Environment) : Layer :=
  Dictionary.ofList <| env.filterMap fun v =>
    (keyOfVariable? v.1).map fun key => (key, valueOfText v.2)

end Layer

end ReleaseControl
