import ReleaseControl.Text.Hex

/-! # TOML text — blanks, strings and keys

The lowest layer of the TOML reader. Strings come in four forms: basic ones with escapes and literal
ones without, each on one line or over several. Keys are bare words or one-line strings, joined by
dots. -/

namespace ReleaseControl.Toml

open Text (Reader)
open Text.Reader

/-! ## Blanks and comments -/

def isBlank (c : Char) : Bool := c == ' ' || c == '\t'

/-- The characters that may stand in comments and strings: no control character but the tab. -/
def isPrintable (c : Char) : Bool := c == '\t' || (0x20 ≤ c.toNat && c.toNat != 0x7F)

def skipBlanks : Reader Unit := do let _ ← takeWhile isBlank

def skipComment : Reader Unit := do
  if ← skip "#" then
    let _ ← takeWhile isPrintable

/-- Takes a line break, if one comes next. -/
def skipNewline : Reader Bool := do
  if ← skip "\n" then return true
  skip "\r\n"

/-- Takes blanks and line breaks; `fuel` bounds the number of breaks. -/
def skipGap : Nat → Reader Unit
  | 0 => return
  | fuel + 1 => do
    skipBlanks
    if ← skipNewline then skipGap fuel

/-- The rest of a line that holds nothing more. -/
def lineEnd : Reader Unit := do
  skipBlanks
  skipComment
  if (← peek?).isNone then return
  if !(← skipNewline) then failure

/-- Takes blanks, comments and line breaks; `fuel` bounds the number of lines. -/
def skipLines : Nat → Reader Unit
  | 0 => return
  | fuel + 1 => do
    skipBlanks
    skipComment
    if ← skipNewline then skipLines fuel

/-! ## Escapes -/

/-- The character that a backslash introduces. -/
def escape : Reader Char := do
  match ← get with
  | c :: rest =>
    set rest
    match c with
    | 'b' => return '\x08'
    | 't' => return '\t'
    | 'n' => return '\n'
    | 'f' => return '\x0c'
    | 'r' => return '\r'
    | 'e' => return '\x1b'
    | '"' => return '"'
    | '\\' => return '\\'
    | 'x' => codePoint 2
    | 'u' => codePoint 4
    | 'U' => codePoint 8
    | _ => failure
  | [] => failure

/-! ## Strings -/

/-- The characters of a basic string up to its quote. -/
def basicChars : Nat → Reader (List Char)
  | 0 => failure
  | fuel + 1 => do
    match ← get with
    | '"' :: rest =>
      set rest
      return []
    | '\\' :: rest =>
      set rest
      let c ← escape
      return c :: (← basicChars fuel)
    | c :: rest =>
      if !isPrintable c then failure
      set rest
      return c :: (← basicChars fuel)
    | [] => failure

/-- Takes the quotes that come next inside a string over several lines and tells whether they
close it: three do, and up to two in front of them belong to the string. -/
def quoteRun (quote : Char) : Reader (Bool × List Char) := do
  let run := ((← get).takeWhile (· == quote)).length
  let taken := min run 5
  modify (·.drop taken)
  return if taken < 3 then (false, List.replicate taken quote)
    else (true, List.replicate (taken - 3) quote)

/-- The characters of a string over several lines. A basic one has escapes, and a backslash at the
end of a line takes the blanks and line breaks behind it along. -/
def multilineChars (quote : Char) (isBasic : Bool) : Nat → Reader (List Char)
  | 0 => failure
  | fuel + 1 => do
    match ← get with
    | [] => failure
    | c :: rest =>
      if c == quote then
        let (closes, quotes) ← quoteRun quote
        if closes then return quotes
        return quotes ++ (← multilineChars quote isBasic fuel)
      else if ← skipNewline then
        return '\n' :: (← multilineChars quote isBasic fuel)
      else if isBasic && c == '\\' then
        set rest
        if (rest.dropWhile isBlank).head?.any fun c => c == '\n' || c == '\r' then
          skipBlanks
          if !(← skipNewline) then failure
          skipGap rest.length
          multilineChars quote isBasic fuel
        else
          let c ← escape
          return c :: (← multilineChars quote isBasic fuel)
      else if isPrintable c then
        set rest
        return c :: (← multilineChars quote isBasic fuel)
      else failure

/-- The characters of a literal string up to its quote. -/
def literalChars : Reader (List Char) := do
  let chars ← takeWhile fun c => isPrintable c && c != '\''
  expect "'"
  return chars

/-- A string on one line, if one comes next. -/
def lineString? : Reader (Option String) := do
  if ← skip "\"" then
    return some (String.ofList (← basicChars ((← get).length + 1)))
  if ← skip "'" then return some (String.ofList (← literalChars))
  return none

/-- A string of any form, if one comes next. -/
def string? : Reader (Option String) := do
  let size := (← get).length + 1
  for quote in ['"', '\''] do
    if ← skip (String.ofList [quote, quote, quote]) then
      let _ ← skipNewline
      return some (String.ofList (← multilineChars quote (quote == '"') size))
  lineString?

/-! ## Keys -/

def isBareKeyChar (c : Char) : Bool := c.isAlphanum || c == '_' || c == '-'

/-- One name of a key. -/
def keyName : Reader String := do
  match ← lineString? with
  | some name => return name
  | none =>
    let name ← takeWhile isBareKeyChar
    if name.isEmpty then failure
    return String.ofList name

/-- The names of a dotted key; at least one. -/
def keyNames : Nat → Reader (List String)
  | 0 => failure
  | fuel + 1 => do
    skipBlanks
    let name ← keyName
    skipBlanks
    if ← skip "." then return name :: (← keyNames fuel)
    return [name]

/-- How many names a key may have. -/
def maxKeyNames : Nat := 80

/-- A dotted key with the blanks around it. -/
def key : Reader (List String) := keyNames maxKeyNames

end ReleaseControl.Toml
