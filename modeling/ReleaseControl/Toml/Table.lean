import ReleaseControl.Assoc
import ReleaseControl.Json.Basic

/-! # TOML tables

A document builds one tree of tables from headers and dotted keys. Every name may be defined once:
a header may take over a table that deeper headers implied, dotted keys may add only to tables that
have no header of their own, and values never change. -/

namespace ReleaseControl.Toml

/-- What made a table. -/
inductive Origin where
  | header
  /-- A header of a table inside it. -/
  | implied
  | dottedKey
  deriving DecidableEq, Repr

inductive Node where
  /-- A value, also an array or a table written as one. -/
  | value (v : Json)
  | table (origin : Origin) (entries : List (String × Node))
  /-- The tables of an array, in order. -/
  | tables (elements : List (List (String × Node)))

/-- A table while it is built. -/
structure Table where
  origin : Origin
  entries : List (String × Node)

namespace Table

def new (origin : Origin) : Table := ⟨origin, []⟩

/-- The table of a whole document, empty. -/
def root : Table := .new .header

def get? (t : Table) (name : String) : Option Node := Assoc.get? name t.entries

def put (t : Table) (name : String) (node : Node) : Table :=
  { t with entries := Assoc.put name node t.entries }

def putTable (t : Table) (name : String) (child : Table) : Table :=
  t.put name (.table child.origin child.entries)

/-- Changes the table at a path. Tables missing on the way are made; of an array the last table is
meant. A dotted key does not enter a table that has a header. -/
def alter (isDotted : Bool) (f : Table → Option Table) : List String → Table → Option Table
  | [], t => f t
  | name :: names, t =>
    match t.get? name with
    | none => do
      let child ← alter isDotted f names (.new (if isDotted then .dottedKey else .implied))
      return t.putTable name child
    | some (.value _) => none
    | some (.table origin entries) =>
      if isDotted && origin == .header then none
      else do
        let child ← alter isDotted f names ⟨origin, entries⟩
        return t.putTable name child
    | some (.tables elements) =>
      match elements.getLast? with
      | none => none
      | some last => do
        let child ← alter isDotted f names ⟨.header, last⟩
        return t.put name (.tables (elements.dropLast ++ [child.entries]))

/-- Defines a name that is not there yet. A key with dots adds to no table that has a header. -/
def define (isDotted : Bool) (name : String) (v : Json) (t : Table) : Option Table :=
  if isDotted && t.origin == .header then none
  else
    match t.get? name with
    | none => some (t.put name (.value v))
    | some _ => none

/-- Changes the parent of the last name of a path. -/
def alterParent (isDotted : Bool) (f : String → Table → Option Table) (path : List String)
    (t : Table) : Option Table := do
  alter isDotted (f (← path.getLast?)) path.dropLast t

/-- Sets the value of a dotted key. -/
def setKey (key : List String) (v : Json) (t : Table) : Option Table :=
  alterParent true (fun name => define (key.length > 1) name v) key t

/-- Opens the table of a header. -/
def openTable : List String → Table → Option Table :=
  alterParent false fun name t =>
    match t.get? name with
    | none => some (t.putTable name (.new .header))
    | some (.table .implied entries) => some (t.putTable name ⟨.header, entries⟩)
    | some _ => none

/-- Adds a table to the array of a header. -/
def addElement : List String → Table → Option Table :=
  alterParent false fun name t =>
    match t.get? name with
    | none => some (t.put name (.tables [[]]))
    | some (.tables elements) => some (t.put name (.tables (elements ++ [[]])))
    | some _ => none

end Table

/-! ## Values -/

mutual
def Node.toJson : Node → Json
  | .value v => v
  | .table _ entries => .ofMembers (membersOf entries)
  | .tables elements => .arr (itemsOf elements)
def membersOf : List (String × Node) → List (String × Json)
  | [] => []
  | (name, node) :: rest => (name, node.toJson) :: membersOf rest
def itemsOf : List (List (String × Node)) → List Json
  | [] => []
  | entries :: rest => .ofMembers (membersOf entries) :: itemsOf rest
end

def Table.toJson (t : Table) : Json := (Node.table t.origin t.entries).toJson

end ReleaseControl.Toml
