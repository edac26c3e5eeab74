/-! # Files

How the outside is read: a `Disk` says what a path leads to. Paths are texts with `/` between the
names. Reading happens in a monad of its own, so that the same code works on real files and on a
tree of files held in memory. -/

namespace ReleaseControl

/-- What a path leads to. A file that cannot be read counts as nothing. -/
inductive Found where
  | nothing
  | file (content : ByteArray)
  | folder (names : List String)

structure Disk (m : Type → Type) where
  look : String → m Found

namespace Disk

/-- The path of a name inside a folder. -/
def join (folder name : String) : String :=
  if folder.isEmpty || folder.endsWith "/" then folder ++ name else s!"{folder}/{name}"

/-- What follows the last dot of a file name; a dot at the start does not count. -/
def extension? (name : String) : Option String :=
  let behind := name.toList.reverse.takeWhile (· != '.')
  if behind.length + 1 < name.length then some (String.ofList behind.reverse) else none

/-- The last name of a path. -/
def lastName (path : String) : String :=
  String.ofList (path.toList.reverse.takeWhile (· != '/')).reverse

/-- The path of a folder without slashes and dots at its end, if a name is left there. -/
def folderStem? (path : String) : Option String :=
  let stem := (trimEnd path.toList.reverse).reverse
  match stem.reverse.takeWhile (· != '/') with
  | [] | ['.', '.'] | ['.'] => none
  | _ => some (String.ofList stem)
where
  /-- Drops the names in front that stay in a folder, from a path that is written backwards. -/
  trimEnd : List Char → List Char
    | '/' :: rest => trimEnd rest
    | '.' :: '/' :: rest => trimEnd rest
    | cs => cs

end Disk

/-- The text of a file, if it is UTF-8. -/
def Found.text? : Found → Option String
  | .file content => String.fromUTF8? content
  | _ => none

end ReleaseControl
