import ReleaseControl.Files.Disk
import ReleaseControl.Text.Split

/-! # Files in memory

A tree of named files and folders, read as a `Disk` whose relative paths start at the root of the
tree. All around the tree there are empty folders: above it, and at the root of all paths. -/

namespace ReleaseControl

inductive FileTree where
  | file (content : ByteArray)
  | folder (entries : List (String × FileTree))

namespace FileTree

def empty : FileTree := .folder []

/-- The entry of a name. -/
def child? (name : String) : FileTree → Option FileTree
  | .file _ => none
  | .folder entries => (entries.find? fun e => e.1 == name).map (·.2)

/-- Puts an entry in place of the one of that name, or adds it. -/
def putChild (t : FileTree) (name : String) (child : FileTree) : FileTree :=
  match t with
  | .file content => .file content
  | .folder entries => .folder (entries.filter (fun e => e.1 != name) ++ [(name, child)])

/-- Puts a tree under a path of names; folders on the way are made. -/
def put (t : FileTree) : List String → FileTree → FileTree
  | [], tree => tree
  | name :: names, tree => t.putChild name (put ((t.child? name).getD .empty) names tree)

/-- The tree of some files, given by their paths. -/
def ofPaths (files : List (String × FileTree)) : FileTree :=
  files.foldl (fun t f => t.put (Text.splitText '/' f.1) f.2) .empty

/-- Follows names down a tree; `up` are the folders above, the nearest first. An empty name and
`.` stay in a folder, `..` leaves it. -/
def follow : List FileTree → FileTree → List String → Option FileTree
  | _, t, [] => some t
  | _, .file _, _ :: _ => none
  | up, t, name :: names =>
    if name = "" ∨ name = "." then follow up t names
    else if name = ".." then
      match up with
      | [] => follow [] .empty names
      | above :: up => follow up above names
    else
      match t.child? name with
      | some c => follow (t :: up) c names
      | none => none

/-- What a path leads to; the empty one leads nowhere. -/
def look (t : FileTree) (path : String) : Found :=
  if path.isEmpty then .nothing
  else
    match follow [] (if path.startsWith "/" then .empty else t) (Text.splitText '/' path) with
    | none => .nothing
    | some (.file content) => .file content
    | some (.folder entries) => .folder (entries.map (·.1))

/-- The tree as a disk. -/
def disk (t : FileTree) : Disk Id := ⟨t.look⟩

end FileTree

end ReleaseControl
