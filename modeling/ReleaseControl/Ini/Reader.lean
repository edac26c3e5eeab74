import ReleaseControl.Json.Basic
import ReleaseControl.Text.Blank
import ReleaseControl.Text.Hex

/-! # INI reader

Reads sections of keys and texts as a JSON object. The keys before the first section are members of
the object itself; each section is an object of texts. Of two sections or keys with one name the
later counts. -/

namespace ReleaseControl.Ini

open Text (Reader)
open Text.Reader

/-! ## Text -/

/-- The number of a character behind `\x`: four hexadecimal digits, the first of which may be a
plus. -/
def escapeCode : Reader Nat := do
  if ← skip "+" then hexNumber 3 else hexNumber 4

/-- What a backslash and the character behind it stand for. -/
def escape : Reader (List Char) := do
  match ← next with
  | '0' => return ['\x00']
  | 'a' => return ['\x07']
  | 'b' => return ['\x08']
  | 't' => return ['\t']
  | 'r' => return ['\r']
  | 'n' => return ['\n']
  | '\n' => return []
  | 'x' => return [← Text.charOfCode? (← escapeCode)]
  | c => return [c]

/-- What comes next before a mark. The end of the text is a mark only for what `mayEnd`. -/
def piece? (isMark : Char → Bool) (mayEnd : Bool) : Reader (Option (List Char)) := do
  match ← peek? with
  | none => if mayEnd then return none else failure
  | some c =>
    if isMark c then return none
    let _ ← next
    if c == '\\' then return some (← escape) else return some [c]

/-- The characters before a mark. -/
def upTo (isMark : Char → Bool) (mayEnd : Bool) : Reader (List Char) := do
  return (← collect (piece? isMark mayEnd)).flatten

def trimEnd (cs : List Char) : List Char := (cs.reverse.dropWhile Text.isBlank).reverse

def trim (cs : List Char) : List Char := trimEnd (cs.dropWhile Text.isBlank)

/-! ## Values -/

def isBreak (c : Char) : Bool := c == '\n' || c == '\r'

/-- A quoted part of a value, if one comes next. -/
def quoted? : Reader (Option (List Char)) := do
  for quote in ['"', '\''] do
    if ← skip (String.ofList [quote]) then
      let cs ← upTo (· == quote) false
      let _ ← next
      return some cs
  return none

/-- The value up to the end of its line: quoted parts one behind the other, then a plain part. -/
def value : Reader String := do
  let _ ← takeWhile fun c => Text.isBlank c && !isBreak c
  let parts ← collect quoted?
  let rest ← upTo isBreak true
  let rest := if parts.isEmpty then trim rest else trimEnd rest
  return String.ofList (parts.flatten ++ rest)

/-! ## Documents -/

/-- What has been read. -/
structure Document where
  /-- The entries before the first section. -/
  top : List (String × Json)
  /-- The sections, the last one first. -/
  sections : List (String × List (String × Json))

namespace Document

/-- Adds an entry to the section that is being filled. -/
def add (name text : String) (d : Document) : Document :=
  match d.sections with
  | [] => { d with top := d.top ++ [(name, .str text)] }
  | (title, entries) :: rest =>
    { d with sections := (title, entries ++ [(name, .str text)]) :: rest }

def openSection (title : String) (d : Document) : Document :=
  { d with sections := (title, []) :: d.sections }

def toJson (d : Document) : Json :=
  .ofMembers (d.top ++ d.sections.reverse.map fun s => (s.1, .ofMembers s.2))

end Document

/-- Takes a comment with its line break. -/
def comment : Reader Unit := do
  let _ ← takeWhile (· != '\n')
  let _ ← skip "\n"

/-- Reads up to the end. A comment must start at the start of a line. `fuel` bounds the number of
statements. -/
def statements : Nat → Bool → Document → Reader Document
  | 0, _, _ => failure
  | fuel + 1, isLineStart, d => do
    let blanks ← takeWhile Text.isBlank
    let isLineStart := blanks.getLast?.elim isLineStart (· == '\n')
    match ← peek? with
    | none => return d
    | some c =>
      if c == ';' || c == '#' then
        if !isLineStart then failure
        comment
        statements fuel true d
      else if ← skip "[" then
        let title ← upTo (· == ']') false
        expect "]"
        statements fuel false (d.openSection (String.ofList (trim title)))
      else
        let name := trim (← upTo (fun c => c == '=' || c == ':') false)
        if name.isEmpty then failure
        let _ ← next
        statements fuel false (d.add (String.ofList name) (← value))

/-- The object of a whole document, if the text is one. -/
def read? (text : String) : Option Json :=
  let cs := text.toList
  (readAll (statements (cs.length + 1) true ⟨[], []⟩) cs).map Document.toJson

end ReleaseControl.Ini
