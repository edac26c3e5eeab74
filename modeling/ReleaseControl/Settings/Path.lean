import ReleaseControl.Json.Basic
import ReleaseControl.Text.Reader

/-! # Paths of settings

A key of a layer writes a path: a name, and behind it names with a dot in front and places in
brackets, such as `hosts[0].port`. What stands in the way of a path gives place to what the path
needs: an object for a name, an array for a place. -/

namespace ReleaseControl

/-- A step from a value to one inside it. -/
inductive PathStep where
  | name (text : String)
  /-- The place of an item; a negative one counts from the end. -/
  | place (index : Int)
  deriving DecidableEq, Repr

abbrev SettingPath := List PathStep

/-! ## Keys -/

namespace SettingPath

open Text (Reader)
open Text.Reader

def isNameChar (c : Char) : Bool := c.isAlphanum || c == '_' || c == '-'

def isSpace (c : Char) : Bool := c == ' ' || c == '\t'

def name : Reader PathStep := do
  let cs ← takeWhile isNameChar
  if cs.isEmpty then failure
  return .name (String.ofList cs)

/-- The place behind an opening bracket, up to the closing one; a 64-bit integer. -/
def place : Reader PathStep := do
  let _ ← takeWhile isSpace
  let isNegative ← skip "-"
  let digits ← takeWhile Char.isDigit
  if digits.isEmpty then failure
  let n := digits.foldl (fun n c => n * 10 + (c.toNat - '0'.toNat)) 0
  if n > (if isNegative then Nat.pow 2 63 else Nat.pow 2 63 - 1) then failure
  let _ ← takeWhile isSpace
  expect "]"
  return .place (if isNegative then -n else n)

/-- The steps behind the first name; `fuel` bounds their number. -/
def steps : Nat → Reader SettingPath
  | 0 => failure
  | fuel + 1 => do
    if ← skip "." then
      let step ← name
      return step :: (← steps fuel)
    if ← skip "[" then
      let step ← place
      return step :: (← steps fuel)
    return []

/-- The path a key writes. A key that writes none is one name. -/
def ofKey (key : String) : SettingPath :=
  let cs := key.toList
  let path : Reader SettingPath := do return (← name) :: (← steps (cs.length + 1))
  (readAll path cs).getD [.name key]

end SettingPath

/-! ## Values -/

namespace Json

/-- A value that members can be put into: itself if it is an object, else the empty one. -/
def orObject (v : Json) : Json := if v.isObject then v else .obj []

/-- The items of an array; any other value has none. -/
def items : Json → List Json
  | .arr vs => vs
  | _ => []

mutual
/-- A value laid over another. The members of an object are laid over those of the value below,
every other value hides it. -/
def overlay (below : Json) : Json → Json
  | .obj members => overlayMembers below.orObject members
  | v => v
def overlayMembers (below : Json) : List (String × Json) → Json
  | [] => below
  | (name, v) :: rest =>
    overlayMembers (below.set name (((below.get? name).getD .null).overlay v)) rest
end

/-- The most items an array can have. -/
def maxItems : Nat := Nat.pow 2 31

/-- Changes the item at a place. Nulls fill up an array that does not reach the place; none if it
would have too many items. -/
def alterItem (f : Json → Option Json) (index : Int) (vs : List Json) : Option (List Json) :=
  let i := if index < 0 then index + vs.length else index
  if i.natAbs ≥ maxItems then none
  else if 0 ≤ i then
    let vs := vs ++ List.replicate (i.toNat + 1 - vs.length) .null
    (f (vs.getD i.toNat .null)).map fun v => vs.set i.toNat v
  else (f .null).map fun v => v :: List.replicate (i.natAbs - 1) .null ++ vs

/-- Changes the value at the end of a path. -/
def alterAt (f : Json → Option Json) : SettingPath → Json → Option Json
  | [], v => f v
  | .name text :: path, v => do
    let inner ← alterAt f path ((v.get? text).getD .null)
    return v.orObject.set text inner
  | .place index :: path, v => return .arr (← alterItem (alterAt f path) index v.items)

end Json

end ReleaseControl
