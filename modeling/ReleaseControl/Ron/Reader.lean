import ReleaseControl.Json.Basic
import ReleaseControl.Number.Plain
import ReleaseControl.Text.Alphanumeric
import ReleaseControl.Text.Hex

/-! # RON reader

Reads a RON document as a JSON value. Structs with named fields and maps become objects, lists and
tuples become arrays, characters become texts, and a name alone counts as null. An option counts as
what it holds. -/

namespace ReleaseControl.Ron

open Text (Reader)
open Text.Reader

/-! ## Blanks and comments -/

def isBlank (c : Char) : Bool := " \t\n\r\x0b\x0c\u0085\u200e\u200f\u2028\u2029".contains c

/-- What follows the end of a block comment that lies inside `depth` others. -/
def behindComment? : Nat → List Char → Option (List Char)
  | _, [] => none
  | depth, '/' :: '*' :: rest => behindComment? (depth + 1) rest
  | 0, '*' :: '/' :: rest => some rest
  | depth + 1, '*' :: '/' :: rest => behindComment? depth rest
  | depth, _ :: rest => behindComment? depth rest

/-- Takes blanks or a comment, if they come next. -/
def skipGap? : Reader (Option Unit) := do
  if ← skip "//" then
    let _ ← takeWhile (· != '\n')
    return some ()
  if ← skip "/*" then
    set (← behindComment? 0 (← get))
    return some ()
  let blanks ← takeWhile isBlank
  return if blanks.isEmpty then none else some ()

/-- Takes blanks and comments. -/
def skipGaps : Reader Unit := do let _ ← collect skipGap?

/-- Takes a mark, which must come next, and the gap behind it. -/
def expectMark (mark : String) : Reader Unit := do if !(← skipMark skipGaps mark) then failure

/-! ## Names, strings and characters -/

def isNameStart (c : Char) : Bool := c == '_' || (Text.isAlphanumeric c && !c.isDigit)

def isNameChar (c : Char) : Bool := c == '_' || Text.isAlphanumeric c

/-- A name, if one comes next. -/
def name? : Reader (Option String) := do
  if (← peek?).any isNameStart then return some (String.ofList (← takeWhile isNameChar))
  return none

/-- The character that a backslash introduces. -/
def escape : Reader Char := do
  match ← next with
  | '\'' => return '\''
  | '"' => return '"'
  | '\\' => return '\\'
  | 'n' => return '\n'
  | 'r' => return '\r'
  | 't' => return '\t'
  | '0' => return '\x00'
  | 'x' => codePoint 2
  | 'u' =>
    expect "\x7b"
    let digits ← takeWhile fun c => (Text.hexDigit? c).isSome
    expect "\x7d"
    if digits.isEmpty || digits.length > 6 then failure
    Text.charOfCode? (← Text.numberOfDigits? 16 digits)
  | _ => failure

def stringPiece? : Reader (Option Char) := do
  match ← next with
  | '"' => return none
  | '\\' => return some (← escape)
  | c => return some c

/-- The text before a mark, and takes the mark. -/
def rawText (mark : List Char) : List Char → Option (List Char × List Char)
  | [] => none
  | c :: cs =>
    if mark.isPrefixOf (c :: cs) then some ([], (c :: cs).drop mark.length)
    else (rawText mark cs).map fun (text, rest) => (c :: text, rest)

/-- How many number signs stand behind the `r` of a raw string, if one comes next. -/
def rawStart? : List Char → Option Nat
  | 'r' :: rest =>
    if (rest.dropWhile (· == '#')).head? == some '"' then some (rest.takeWhile (· == '#')).length
    else none
  | _ => none

/-- A string or a character, if one comes next. -/
def text? : Reader (Option String) := do
  if let some n := rawStart? (← get) then
    modify (·.drop (n + 2))
    return some (String.ofList (← fun cs => rawText ('"' :: List.replicate n '#') cs))
  if ← skip "\"" then return some (String.ofList (← collect stringPiece?))
  if ← skip "'" then
    let c ← match ← next with
      | '\\' => escape
      | c => pure c
    expect "'"
    return some (String.ofList [c])
  return none

/-! ## Numbers -/

def isFloatChar (c : Char) : Bool := c.isDigit || "eE.+-_".contains c

def isIntegerChar (c : Char) : Bool := (Text.hexDigit? c).isSome || c == '_'

/-- The base that the mark at the start of an integer tells. -/
def base : Reader Nat := do
  if ← skip "0x" then return 16
  if ← skip "0o" then return 8
  if ← skip "0b" then return 2
  return 10

/-- An integer of 64 bits, unsigned if it has no sign. Underscores may stand behind digits. -/
def integer : Reader Json := do
  let isPositive ← skip "+"
  let isNegative ← if isPositive then pure false else skip "-"
  let base ← base
  let word ← takeWhile isIntegerChar
  if word.isEmpty || word.head? == some '_' then failure
  let n ← Text.numberOfDigits? base (word.filter (· != '_'))
  let bound :=
    if isNegative then Nat.pow 2 63 + 1 else if isPositive then Nat.pow 2 63 else Nat.pow 2 64
  if n ≥ bound then failure
  return .int (if isNegative then -n else n)

/-- A number. It is a double if the characters of a double reach farther than those of an
integer. -/
def number : Reader Json := do
  let cs ← get
  let body := if cs.head?.any (fun c => c == '+' || c == '-') then cs.drop 1 else cs
  if (body.takeWhile isFloatChar).length > (body.takeWhile isIntegerChar).length then
    let word ← takeWhile isFloatChar
    return .float (← Plain.double? (String.ofList word))
  integer

/-! ## Values -/

/-- Whether the fields of a struct have names: a name comes next and a colon behind it. -/
def startsField (cs : List Char) : Bool :=
  let look : Reader Bool := do
    if (← name?).isNone then return false
    skipGaps
    skip ":"
  (look.run cs).any (·.1)

/-- A field of a struct, whose value is read by `value`. -/
def structField (value : Reader Json) : Reader (String × Json) := do
  match ← name? with
  | none => failure
  | some name =>
    skipGaps
    expectMark ":"
    return (name, ← value)

/-- An entry of a map; its key must be a text. -/
def entry (value : Reader Json) : Reader (String × Json) := do
  match ← value with
  | .str name =>
    expectMark ":"
    return (name, ← value)
  | _ => failure

/-- The fields of a struct or the items of a tuple, up to the parenthesis. -/
def group (value : Reader Json) : Reader Json := do
  if startsField (← get) then return .ofMembers (← list skipGaps (structField value) ")")
  return .arr (← list skipGaps value ")")

/-- The value that starts with a name. -/
def named (value : Reader Json) (name : String) : Reader Json := do
  match name with
  | "true" => return .bool true
  | "false" => return .bool false
  | "inf" => return .float (Double.infinity false)
  | "NaN" => return .float Double.nan
  | _ =>
    skipGaps
    if !(← skipMark skipGaps "(") then return .null
    if name == "Some" then
      let v ← value
      let _ ← skipMark skipGaps ","
      expectMark ")"
      return v
    group value

/-- A value and the gap behind it. -/
def value : Nat → Reader Json
  | 0 => failure
  | fuel + 1 => do
    if ← skipMark skipGaps "[" then return .arr (← list skipGaps (value fuel) "]")
    if ← skipMark skipGaps "\x7b" then
      return .ofMembers (← list skipGaps (entry (value fuel)) "\x7d")
    if ← skipMark skipGaps "(" then
      if ← skipMark skipGaps ")" then return .null
      return ← group (value fuel)
    let v ← match ← text? with
      | some s => pure (.str s)
      | none =>
        match ← name? with
        | some name => named (value fuel) name
        | none => number
    skipGaps
    return v

/-! ## Documents -/

/-- The extensions that a document may ask for; none of them changes what it stands for. -/
def extensions : List String :=
  ["unwrap_newtypes", "implicit_some", "unwrap_variant_newtypes", "explicit_struct_names"]

/-- The name of an extension, up to the end of their list. -/
def extension? : Reader (Option Unit) := do
  match ← name? with
  | none => return none
  | some name =>
    if !extensions.contains name then failure
    skipGaps
    let _ ← skipMark skipGaps ","
    return some ()

/-- Takes a line that asks for extensions, if one comes next. -/
def skipExtensions? : Reader (Option Unit) := do
  if !(← skipMark skipGaps "#") then return none
  for mark in ["!", "[", "enable", "("] do expectMark mark
  let _ ← collect extension?
  for mark in [")", "]"] do expectMark mark
  return some ()

/-- The value of a whole document, if the text is one. -/
def read? (text : String) : Option Json :=
  let cs := text.toList
  let document : Reader Json := do
    skipGaps
    let _ ← collect skipExtensions?
    value (cs.length + 1)
  readAll document cs

end ReleaseControl.Ron
