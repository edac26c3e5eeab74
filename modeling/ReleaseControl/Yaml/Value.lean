import ReleaseControl.Assoc
import ReleaseControl.Json.Basic
import ReleaseControl.Number.Plain
import ReleaseControl.Yaml.Token

/-! # YAML values

Builds the JSON value of a document from its tokens. Plain scalars without a tag stand for null,
truth values, integers of 64 bits or doubles if they look like one; all other scalars are texts. The
keys of a mapping are texts or integers, each at most once. -/

namespace ReleaseControl.Yaml

/-! ## Scalars -/

/-- A signed integer of 64 bits in a base; a sign may stand in front of its digits. -/
def integer? (base : Nat) (digits : List Char) : Option Json := do
  let (isNegative, cs) := Plain.sign digits
  if cs.isEmpty then none
  let n ← Text.numberOfDigits? base cs
  let value : Int := if isNegative then -n else n
  if -(Int.pow 2 63) ≤ value ∧ value < Int.pow 2 63 then some (.int value) else none

/-- The integer that a plain scalar writes, decimal or behind a mark for its base. -/
def plainInteger? (text : String) : Option Json :=
  let marked := match text.toList with
    | '0' :: 'x' :: digits => integer? 16 digits
    | '0' :: 'o' :: digits => integer? 8 digits
    | '+' :: digits => integer? 10 digits
    | _ => none
  marked.or (integer? 10 text.toList)

/-- The words for doubles that are not finite. -/
def specialDoubles : List String :=
  [".inf", ".Inf", ".INF", "+.inf", "+.Inf", "+.INF", "-.inf", "-.Inf", "-.INF", ".nan", "NaN",
    ".NAN"]

/-- Whether a plain scalar looks like a double. -/
def isDouble (text : String) : Bool :=
  specialDoubles.contains text || (text.toList.any Char.isDigit && (Plain.double? text).isSome)

/-- The double that a scalar writes. Of the special words only `NaN` can be read as one. -/
def double? (text : String) : Option Json := (Plain.double? text).map .float

/-- The value of a plain scalar without a tag; none for a double that cannot be read. -/
def plainValue? (text : String) : Option Json :=
  match text with
  | "" | "~" | "null" => some .null
  | "true" => some (.bool true)
  | "false" => some (.bool false)
  | text =>
    match plainInteger? text with
    | some v => some v
    | none => if isDouble text then double? text else some (.str text)

/-- What the handle of the known tags stands for. -/
def knownTags : String := "tag:yaml.org,2002:"

/-- The value of a plain scalar with a known tag; a scalar that does not fit its tag is null. -/
def taggedValue? (name text : String) : Option Json :=
  match name with
  | "bool" =>
    some (if text == "true" then .bool true else if text == "false" then .bool false else .null)
  | "int" => some ((integer? 10 text.toList).getD .null)
  | "float" => if isDouble text then double? text else some .null
  | "null" => some .null
  | _ => some (.str text)

/-- The value of a scalar with the handle and the name of its tag. -/
def scalarValue? (tag : Option (String × String)) (text : String) (isPlain : Bool) : Option Json :=
  match isPlain, tag with
  | true, none => plainValue? text
  | true, some (handle, name) =>
    if handle == knownTags then taggedValue? name text else some (.str text)
  | false, _ => some (.str text)

/-! ## Mappings -/

/-- The name that a key stands for. -/
def keyName? : Json → Option String
  | .str s => some s
  | .int n => some (toString n)
  | _ => none

/-- The object of a mapping, if no key comes twice. -/
def mapping? (entries : List (Json × Json)) : Option Json := do
  let isSame := fun (a b : Json × Json) => a.1.same b.1
  if (entries.eraseDupsBy isSame).length ≠ entries.length then none
  return .ofMembers (← entries.mapM fun e => do return (← keyName? e.1, e.2))

/-! ## Nodes -/

/-- What is left of the tokens, and what the document has declared so far. -/
structure Reading where
  tokens : List Token
  anchors : List (String × Json)
  tags : List (String × String)

abbrev Build (α : Type) := StateT Reading Option α

namespace Build

def peek? : Build (Option Token) := do return (← get).tokens.head?

def advance : Build Unit := modify fun s => { s with tokens := s.tokens.drop 1 }

/-- Takes a token if it comes next. -/
def skip (t : Token) : Build Bool := do
  if (← peek?) == some t then
    advance
    return true
  return false

/-- Whether one of some tokens comes next. -/
def isAt (ts : List Token) : Build Bool := do return (← peek?).any ts.contains

def setAnchor (name : String) (v : Json) : Build Unit := modify fun s =>
  { s with anchors := Assoc.put name v s.anchors }

/-- What the handle of a tag stands for. -/
def resolve (handle name : String) : Build (String × String) := do
  match Assoc.get? handle (← get).tags with
  | some start => return (start, name)
  | none =>
    if handle == "!!" then return (knownTags, name)
    if handle.length ≥ 2 then failure
    return (handle, name)

/-- The anchor and the tag in front of a node, in either order. -/
def properties : Build (Option String × Option (String × String)) := do
  match ← peek? with
  | some (.anchor a) =>
    advance
    match ← peek? with
    | some (.tag handle name) =>
      advance
      return (some a, some (← resolve handle name))
    | _ => return (some a, none)
  | some (.tag handle name) =>
    advance
    let tag ← resolve handle name
    match ← peek? with
    | some (.anchor a) =>
      advance
      return (some a, some tag)
    | _ => return (none, some tag)
  | _ => return (none, none)

mutual
/-- A node. Blocks may start only where `isBlock` says so, and the entries of a sequence without an
indentation of its own only where `isEntry` does. -/
def node : Nat → Bool → Bool → Build Json
  | 0, _, _ => failure
  | fuel + 1, isBlock, isEntry => do
    if let some (.alias name) ← peek? then
      advance
      return ← Assoc.get? name (← get).anchors
    let (anchor, tag) ← properties
    if let some a := anchor then setAnchor a .null
    let v ← content fuel isBlock isEntry anchor tag
    if let some a := anchor then setAnchor a v
    return v

/-- What stands behind the anchor and the tag of a node. -/
def content : Nat → Bool → Bool → Option String → Option (String × String) → Build Json
  | 0, _, _, _, _ => failure
  | fuel + 1, isBlock, isEntry, anchor, tag => do
    match ← peek? with
    | some (.scalar text isPlain) =>
      advance
      scalarValue? tag text isPlain
    | t =>
      if t == some .blockEntry && isEntry then return .arr (← entries fuel)
      if ← skip .flowSequenceStart then return .arr (← flowItems fuel)
      if ← skip .flowMappingStart then return ← mapping? (← flowMembers fuel)
      if isBlock then
        if ← skip .blockSequenceStart then
          let vs ← entries fuel
          if !(← skip .blockEnd) then failure
          return .arr vs
        if ← skip .blockMappingStart then
          let ms ← blockMembers fuel
          if !(← skip .blockEnd) then failure
          return ← mapping? ms
      if anchor.isNone && tag.isNone then failure
      scalarValue? tag "" true

/-- The entries of a block sequence. -/
def entries : Nat → Build (List Json)
  | 0 => failure
  | fuel + 1 => do
    if !(← skip .blockEntry) then return []
    let v ← nodeUnless fuel [.blockEntry, .key, .value, .blockEnd] true false
    return v :: (← entries fuel)

/-- The entries of a block mapping. -/
def blockMembers : Nat → Build (List (Json × Json))
  | 0 => failure
  | fuel + 1 => do
    if !(← isAt [.key, .value]) then return []
    let ends := [.key, .value, .blockEnd]
    let k ← if ← skip .key then nodeUnless fuel ends true true else pure .null
    let v ← if ← skip .value then nodeUnless fuel ends true true else pure .null
    return (k, v) :: (← blockMembers fuel)

/-- The items of a flow sequence up to its bracket. A key makes an item a mapping of one entry. -/
def flowItems : Nat → Build (List Json)
  | 0 => failure
  | fuel + 1 => do
    if ← skip .flowSequenceEnd then return []
    let v ← if ← isAt [.key, .value] then do
        mapping? [← flowMember fuel .flowSequenceEnd]
      else node fuel false false
    if ← skip .flowEntry then return v :: (← flowItems fuel)
    if ← skip .flowSequenceEnd then return [v]
    failure

/-- The entries of a flow mapping up to its brace. -/
def flowMembers : Nat → Build (List (Json × Json))
  | 0 => failure
  | fuel + 1 => do
    if ← skip .flowMappingEnd then return []
    let e ← flowMember fuel .flowMappingEnd
    if ← skip .flowEntry then return e :: (← flowMembers fuel)
    if ← skip .flowMappingEnd then return [e]
    failure

/-- A key and its value in a flow collection that ends with `last`; both may be missing. -/
def flowMember : Nat → Token → Build (Json × Json)
  | 0, _ => failure
  | fuel + 1, last => do
    let ends := [.flowEntry, last]
    let k ← if ← skip .key then nodeUnless fuel (.value :: ends) false false
      else if ← isAt [.value] then pure .null
      else node fuel false false
    let v ← if ← skip .value then nodeUnless fuel ends false false else pure .null
    return (k, v)

/-- A node, or null if one of some tokens comes next. -/
def nodeUnless : Nat → List Token → Bool → Bool → Build Json
  | 0, _, _, _ => failure
  | fuel + 1, ts, isBlock, isEntry => do
    if ← isAt ts then return .null
    node fuel isBlock isEntry
end

/-! ## Documents -/

/-- Reads the directives in front of a document and says whether there are any. -/
def directives : Nat → Build Bool
  | 0 => failure
  | fuel + 1 => do
    match ← peek? with
    | some (.directive tag) =>
      advance
      if let some (handle, start) := tag then
        modify fun s => { s with tags := Assoc.put handle start s.tags }
      let _ ← directives fuel
      return true
    | _ => return false

/-- A document that is started by its mark. -/
def markedDocument (fuel : Nat) : Build Json := do
  let _ ← directives fuel
  if !(← skip .documentStart) then failure
  match ← peek? with
  | none | some (.directive _) | some .documentStart | some .documentEnd => return .null
  | _ => node fuel true false

/-- All documents. One without a mark may stand at the start or behind the end of another; a
directive needs the end of the document before it. -/
def documents (fuel : Nat) : Nat → Bool → Build (List Json)
  | 0, _ => failure
  | count + 1, needsMark => do
    while ← skip .documentEnd do pure ()
    match ← peek? with
    | none => return []
    | some t =>
      modify fun s => { s with anchors := [], tags := [] }
      let isMarked := needsMark || t == .documentStart || t matches .directive _
      let v ← if isMarked then markedDocument fuel else node fuel true false
      let hasEnd ← skip .documentEnd
      if let some (.directive _) ← peek? then if !hasEnd then failure
      return v :: (← documents fuel count !hasEnd)

end Build

/-- The value of a text with one document; without any it is the empty object. -/
def read? (text : String) : Option Json := do
  let tokens ← Token.ofText? (text.toList.takeWhile (· != '\x00'))
  let fuel := 4 * tokens.length + 4
  match ← (Build.documents fuel fuel false).run ⟨tokens, [], []⟩ with
  | ([], _) => return .obj []
  | ([v], _) => return v
  | _ => none

end ReleaseControl.Yaml
