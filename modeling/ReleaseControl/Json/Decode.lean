import ReleaseControl.Json.Basic
import ReleaseControl.Number.Double
import ReleaseControl.Text.Quoted

/-! # Typed reading of JSON values

A `Decoder` reads a value as a typed one or says what is wrong with it. Records are described by a
`Shape`: their fields in declaration order, each required, optional or with a default. A record
may be written as an object or as the array of its fields in that order.

- In an object the members are looked at in their own order, so the first bad one decides the
  error; only then are missing fields reported, in declaration order. Unknown members are ignored.
- In an array every field takes the next item; only fields with a default may be left out at the
  end, and no item may be left over. -/

namespace ReleaseControl

/-- Why a value cannot be read as the type that is asked for. -/
inductive DecodeError where
  | wrongType (found : Json) (expected : String)
  | wrongValue (found : Json) (expected : String)
  | wrongLength (length : Nat) (expected : String)
  | missingField (name : String)
  | unknownVariant (name : String) (known : List String)
  | noAlternative (type : String)
  deriving Repr

/-- How a message names a value it did not expect. -/
def Json.describe : Json → String
  | .null => "null"
  | .bool b => s!"boolean `{b}`"
  | .int n => s!"integer `{n}`"
  | .float bits => s!"floating point `{Double.jsonText bits}`"
  | .str s => s!"string {Text.quoted s}"
  | .arr _ => "sequence"
  | .obj _ => "map"

namespace DecodeError

/-- The alternatives of a choice as a message lists them. -/
def alternatives (known : List String) : String :=
  match known.map fun k => s!"`{k}`" with
  | [] => "there are no variants"
  | [a] => s!"expected {a}"
  | [a, b] => s!"expected {a} or {b}"
  | all => "expected one of " ++ String.intercalate ", " all

def message : DecodeError → String
  | wrongType found expected => s!"invalid type: {found.describe}, expected {expected}"
  | wrongValue found expected => s!"invalid value: {found.describe}, expected {expected}"
  | wrongLength length expected => s!"invalid length {length}, expected {expected}"
  | missingField name => s!"missing field `{name}`"
  | unknownVariant name known => s!"unknown variant `{name}`, {alternatives known}"
  | noAlternative type => s!"data did not match any variant of untagged enum {type}"

end DecodeError

abbrev Decoder (α : Type) := Json → Except DecodeError α

namespace Decoder

def string : Decoder String
  | .str s => .ok s
  | v => .error (.wrongType v "a string")

/-- A signed 64-bit integer. -/
def int64 : Decoder Int64
  | .int n =>
    if -(Int.pow 2 63) ≤ n ∧ n < Int.pow 2 63 then .ok (Int64.ofInt n)
    else .error (.wrongValue (.int n) "i64")
  | v => .error (.wrongType v "i64")

/-- An unsigned 64-bit integer; `type` is how messages name it. -/
def word (type : String) : Decoder Nat
  | .int n => if 0 ≤ n ∧ n < Int.pow 2 64 then .ok n.toNat else .error (.wrongValue (.int n) type)
  | v => .error (.wrongType v type)

/-- A value or `null`. -/
def nullable {α : Type} (decode : Decoder α) : Decoder (Option α)
  | .null => .ok none
  | v => (decode v).map some

def list {α : Type} (decode : Decoder α) : Decoder (List α)
  | .arr items => items.mapM decode
  | v => .error (.wrongType v "a sequence")

/-- An object whose members are all texts, in the order of the object. -/
def textMembers : Decoder (List (String × String))
  | .obj members => members.mapM fun m => (string m.2).map fun s => (m.1, s)
  | v => .error (.wrongType v "a map")

/-- One of a fixed set of names, written as the name or as an object with that one member and no
payload. -/
def choice {α : Type} (known : List (String × α)) : Decoder α :=
  let pick := fun name => match Dictionary.get? name known with
    | some a => .ok a
    | none => .error (.unknownVariant name (known.map (·.1)))
  fun
  | .str name => pick name
  | .obj [(name, payload)] => do
    let a ← pick name
    match payload with
    | .null => .ok a
    | v => .error (.wrongType v "unit")
  | .obj members => .error (.wrongValue (.obj members) "map with a single key")
  | v => .error (.wrongType v "string or map")

end Decoder

/-! ## Records -/

/-- The fields of a record and how each is read. `check` looks at one member of an object, `build`
puts the record together from its members, `take` reads it off the front of a list of items and
fails with the given error when the list is too short. -/
structure Shape (α : Type) where
  fields : List String
  check : String → Json → Except DecodeError Unit
  build : (String → Option Json) → Except DecodeError α
  take : DecodeError → List Json → Except DecodeError (α × List Json)

namespace Shape

variable {α β : Type}

/-- One field: what stands in for it when an object lacks it, and when an array ends before it. -/
def field (name : String) (decode : Decoder α) (absent : Except DecodeError α)
    (short : Option α) : Shape α where
  fields := [name]
  check n v := if n = name then (decode v).map fun _ => () else .ok ()
  build find := match find name with
    | some v => decode v
    | none => absent
  take err items := match items, short with
    | v :: rest, _ => (decode v).map fun a => (a, rest)
    | [], some a => .ok (a, [])
    | [], none => .error err

/-- A field that must be there. -/
def required (name : String) (decode : Decoder α) : Shape α :=
  field name decode (.error (.missingField name)) none

/-- A field with a default; its value must not be `null` unless `decode` takes it. -/
def withDefault (name : String) (decode : Decoder α) (default : α) : Shape α :=
  field name decode (.ok default) (some default)

/-- A field that may be absent or `null`, also at the end of an array. -/
def optional (name : String) (decode : Decoder α) : Shape (Option α) :=
  withDefault name (.nullable decode) none

/-- A field that may be absent from an object or `null`, but has its place in an array. -/
def nullable (name : String) (decode : Decoder α) : Shape (Option α) :=
  field name (.nullable decode) (.ok none) none

def map (f : α → β) (s : Shape α) : Shape β where
  fields := s.fields
  check := s.check
  build find := (s.build find).map f
  take err items := (s.take err items).map fun (a, rest) => (f a, rest)

/-- Two groups of fields, one declared after the other. -/
def seq (s : Shape (α → β)) (t : Unit → Shape α) : Shape β where
  fields := s.fields ++ (t ()).fields
  check n v := do
    s.check n v
    (t ()).check n v
  build find := do
    let f ← s.build find
    let a ← (t ()).build find
    return f a
  take err items := do
    let (f, rest) ← s.take err items
    let (a, rest) ← (t ()).take err rest
    return (f a, rest)

instance : Functor Shape where
  map := map

instance : Seq Shape where
  seq := seq

/-- How an error counts the fields of a record. -/
def sizeText (s : Shape α) : String :=
  match s.fields.length with
  | 1 => "1 element"
  | n => s!"{n} elements"

/-- Reads a record whose type messages name `type`. -/
def decode (type : String) (s : Shape α) : Decoder α
  | .obj members => do
    members.forM fun m => s.check m.1 m.2
    s.build fun name => Dictionary.get? name members
  | .arr items => do
    let (a, rest) ← s.take (.wrongLength items.length s!"struct {type} with {s.sizeText}") items
    if rest.isEmpty then .ok a
    else .error (.wrongLength items.length "fewer elements in array")
  | v => .error (.wrongType v s!"struct {type}")

end Shape

end ReleaseControl
