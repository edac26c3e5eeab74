import ReleaseControl.Dictionary

/-! # JSON values

`Json` keeps integers and binary floating-point numbers apart: `1` and `1.0` are different values.
A number with a fraction or an exponent is held as the 64 bits of its double. Members of an
object form a dictionary: ascending names, each once (`ofMembers` establishes this), so that two
objects with the same members are the same value. -/

namespace ReleaseControl

inductive Json where
  | null
  | bool (b : Bool)
  | int (n : Int)
  | float (bits : UInt64)
  | str (s : String)
  | arr (items : List Json)
  | obj (members : List (String × Json))
  deriving Repr, Inhabited

namespace Json

/-! ## Objects -/

/-- The object of the given members; of two members with one name the later stays. -/
def ofMembers (members : List (String × Json)) : Json :=
  .obj (Dictionary.ofList members)

/-- The object of those members that are present. -/
def ofFields (fields : List (String × Option Json)) : Json :=
  .obj (fields.filterMap fun f => f.2.map (f.1, ·))

/-- Member of an object; a value that is not an object has none. -/
def get? (name : String) : Json → Option Json
  | .obj members => Dictionary.get? name members
  | _ => none

/-- Puts a member into an object and leaves every other value alone. -/
def set (v : Json) (name : String) (value : Json) : Json :=
  match v with
  | .obj members => .obj (Dictionary.insert name value members)
  | v => v

/-- Takes a member out of an object and leaves every other value alone. -/
def remove (name : String) : Json → Json
  | .obj members => .obj (Dictionary.erase name members)
  | v => v

def isObject : Json → Bool
  | .obj _ => true
  | _ => false

def asString? : Json → Option String
  | .str s => some s
  | _ => none

/-! ## Equality -/

/-- Doubles are equal when their bits are, and the two zeros are equal. -/
def sameFloat (a b : UInt64) : Bool := a == b || (a <<< 1 == 0 && b <<< 1 == 0)

mutual
/-- Equality of values: numbers of different kind differ, and the two zeros are one double. -/
def same : Json → Json → Bool
  | .null, .null => true
  | .bool a, .bool b => a == b
  | .int a, .int b => a == b
  | .float a, .float b => sameFloat a b
  | .str a, .str b => a == b
  | .arr a, .arr b => sameItems a b
  | .obj a, .obj b => sameMembers a b
  | _, _ => false
def sameItems : List Json → List Json → Bool
  | [], [] => true
  | a :: as, b :: bs => same a b && sameItems as bs
  | _, _ => false
def sameMembers : List (String × Json) → List (String × Json) → Bool
  | [], [] => true
  | (m, a) :: as, (n, b) :: bs => m == n && same a b && sameMembers as bs
  | _, _ => false
end

end Json

end ReleaseControl
