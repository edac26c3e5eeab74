import ReleaseControl.Json.Reader
import ReleaseControl.Number.Plain
import ReleaseControl.Text.Alphanumeric
import ReleaseControl.Text.Blank

/-! # JSON5 reader

Reads a JSON5 document: JSON with comments, single quotes, names without quotes, commas at the end,
and more ways to write a number. An integer has 64 bits, a hexadecimal one 32 bits and no sign. -/

namespace ReleaseControl.Json5

open Text (Reader)
open Text.Reader

/-! ## Blanks and comments -/

def isBreak (c : Char) : Bool :=
  c == '\n' || c == '\r' || c == '\u2028' || c == '\u2029'

def isBlank (c : Char) : Bool := (Text.isBlank c && c != '\u0085') || c == '\ufeff'

/-- What follows the end of a block comment. -/
def behindComment? : List Char → Option (List Char)
  | [] => none
  | '*' :: '/' :: rest => some rest
  | _ :: rest => behindComment? rest

/-- Takes blanks or a comment, if they come next. -/
def skipGap? : Reader (Option Unit) := do
  if ← skip "//" then
    let _ ← takeWhile fun c => !isBreak c
    return some ()
  if ← skip "/*" then
    set (← behindComment? (← get))
    return some ()
  let blanks ← takeWhile isBlank
  return if blanks.isEmpty then none else some ()

/-- Takes blanks and comments. -/
def skipGaps : Reader Unit := do let _ ← collect skipGap?

/-! ## Strings and names -/

/-- What a backslash and the characters behind it stand for. -/
def escape : Reader (List Char) := do
  let c ← next
  match c with
  | 'b' => return ['\x08']
  | 'f' => return ['\x0c']
  | 'n' => return ['\n']
  | 'r' => return ['\r']
  | 't' => return ['\t']
  | 'v' => return ['\x0b']
  | 'x' => return [← codePoint 2]
  | 'u' => return [← fun cs => Json.Reader.unicodeEscape cs]
  | '\r' =>
    let _ ← skip "\n"
    return []
  | '0' =>
    if (← peek?).any Char.isDigit then failure
    return ['\x00']
  | _ =>
    if isBreak c then return []
    if c.isDigit then failure
    return [c]

def stringPiece? (quote : Char) : Reader (Option (List Char)) := do
  let c ← next
  if c == quote then return none
  if c == '\\' then return some (← escape)
  if isBreak c then failure
  return some [c]

/-- A string, if one comes next. -/
def string? : Reader (Option String) := do
  for quote in ['"', '\''] do
    if ← skip (String.ofList [quote]) then
      return some (String.ofList (← collect (stringPiece? quote)).flatten)
  return none

def isNameStart (c : Char) : Bool :=
  c == '$' || c == '_' || (Text.isAlphanumeric c && !c.isDigit)

def isNameChar (c : Char) : Bool :=
  isNameStart c || c.isDigit || c == '\u200c' || c == '\u200d'

/-- The name of a member. -/
def memberName : Reader String := do
  match ← string? with
  | some name => return name
  | none =>
    if !(← peek?).any isNameStart then failure
    return String.ofList (← takeWhile isNameChar)

/-! ## Numbers -/

/-- An unsigned decimal as it is written. -/
def decimalWord : Reader (List Char) := do
  let whole ← if ← skip "0" then pure ['0'] else takeWhile Char.isDigit
  let point ← if ← skip "." then do pure ('.' :: (← takeWhile Char.isDigit)) else pure []
  if whole.isEmpty && point.length < 2 then failure
  match ← get with
  | mark :: rest =>
    if mark == 'e' || mark == 'E' then
      set rest
      let sign ← takeWhile fun c => c == '+' || c == '-'
      let digits ← takeWhile Char.isDigit
      if sign.length > 1 || digits.isEmpty then failure
      return whole ++ point ++ 'e' :: sign ++ digits
    return whole ++ point
  | [] => return whole ++ point

/-- The value of a decimal: an integer unless it has a point or an exponent. -/
def ofWord (isNegative : Bool) (word : List Char) : Option Json := do
  if word.all Char.isDigit then
    let text := String.ofList (if isNegative then '-' :: word else word)
    return .int (← Plain.int64? text)
  else return .float (← Double.finite? isNegative (← Plain.decimal? word))

def number : Reader Json := do
  let isPositive ← skip "+"
  let isNegative ← if isPositive then pure false else skip "-"
  if ← skip "Infinity" then
    if isPositive then failure
    return .float (Double.infinity isNegative)
  if ← skip "NaN" then
    if isPositive then failure
    return .float Double.nan
  if (← skip "0x") || (← skip "0X") then
    if isPositive || isNegative then failure
    let digits ← takeWhile fun c => (Text.hexDigit? c).isSome
    let n ← Text.numberOfDigits? 16 digits
    if digits.isEmpty || n ≥ Nat.pow 2 32 then failure
    return .int n
  ofWord isNegative (← decimalWord)

/-! ## Values -/

/-- A member of an object, whose value is read by `value`. -/
def member (value : Reader Json) : Reader (String × Json) := do
  let name ← memberName
  skipGaps
  if !(← skipMark skipGaps ":") then failure
  return (name, ← value)

/-- A value and the gap behind it. -/
def value : Nat → Reader Json
  | 0 => failure
  | fuel + 1 => do
    if ← skipMark skipGaps "\x7b" then
      return .ofMembers (← list skipGaps (member (value fuel)) "\x7d")
    if ← skipMark skipGaps "[" then return .arr (← list skipGaps (value fuel) "]")
    let v ← match ← string? with
      | some s => pure (.str s)
      | none =>
        if ← skip "null" then pure .null
        else if ← skip "true" then pure (.bool true)
        else if ← skip "false" then pure (.bool false)
        else number
    skipGaps
    return v

/-- The value of a whole document, if the text is one. -/
def read? (text : String) : Option Json :=
  let cs := text.toList
  let document : Reader Json := do
    skipGaps
    value (cs.length + 1)
  readAll document cs

end ReleaseControl.Json5
