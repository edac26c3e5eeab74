import ReleaseControl.Environment.Basic
import ReleaseControl.Environment.Lines
import ReleaseControl.Text.Alphanumeric

/-! # Environment files

An environment file assigns texts to variables, one to a line: `NAME=text`, with `export` in front
if one likes. Quotes hold blanks together, a backslash takes the next character as it is, and
`$NAME` or `$` with the name in braces stands for the text of a variable. A variable that is set
already keeps its text. -/

namespace ReleaseControl

namespace EnvFile

/-! ## Values -/

inductive Quote where
  | strong
  | weak
  deriving DecidableEq, Repr

/-- What the characters behind a dollar sign are collected for. -/
inductive Naming where
  | idle
  | word
  | braced
  deriving DecidableEq, Repr

/-- A value while it is read, characters collected in reverse. -/
structure Partial where
  quote : Option Quote
  isEscaped : Bool
  /-- Only blanks and a comment may follow. -/
  isEnding : Bool
  naming : Naming
  name : List Char
  out : List Char

namespace Partial

def start : Partial := ⟨none, false, false, .idle, [], []⟩

def push (c : Char) (v : Partial) : Partial := { v with out := c :: v.out }

/-- Puts the text of the variable whose name was collected. -/
def substitute (text : String → String) (v : Partial) : Partial :=
  { v with
    out := (text (String.ofList v.name.reverse)).toList.reverse ++ v.out
    name := [] }

/-- A character behind a dollar sign. Letters and digits make up a name; between braces everything
does. -/
def stepName (text : String → String) (c : Char) (v : Partial) : Partial :=
  if Text.isAlphanumeric c then { v with name := c :: v.name }
  else if v.naming = .braced then
    if c == '\x7d' then { v with naming := .idle }.substitute text
    else { v with name := c :: v.name }
  else if c == '\x7b' && v.name.isEmpty then { v with naming := .braced }
  else if c == '$' then v.substitute text
  else ({ v with naming := .idle }.substitute text).push c

/-- A character that is not behind a dollar sign or a backslash, nor between strong quotes. -/
def stepPlain (c : Char) (v : Partial) : Partial :=
  if c == '$' then { v with naming := .word }
  else if c == '\\' then { v with isEscaped := true }
  else if v.quote = some .weak then
    if c == '"' then { v with quote := none } else v.push c
  else if c == '\'' then { v with quote := some .strong }
  else if c == '"' then { v with quote := some .weak }
  else if c == ' ' || c == '\t' then { v with isEnding := true }
  else v.push c

/-- The character that a backslash and another one stand for. -/
def escape? (c : Char) : Option Char :=
  if ['\\', '\'', '"', '$', ' '].contains c then some c
  else if c == 'n' then some '\n'
  else none

/-- One character of a value; none if it must not stand there. -/
def step (text : String → String) (c : Char) (v : Partial) : Option Partial :=
  if v.isEnding then if c == ' ' || c == '\t' then some v else none
  else if v.isEscaped then (escape? c).map fun e => { v with isEscaped := false }.push e
  else if v.quote = some .strong then
    some (if c == '\'' then { v with quote := none } else v.push c)
  else if v.naming ≠ .idle then some (v.stepName text c)
  else some (v.stepPlain c)

/-- Reads characters; on a fault the number of characters before it. -/
def steps (text : String → String) (v : Partial) : Nat → List Char → Except Nat Partial
  | _, [] => .ok v
  | i, c :: cs =>
    if v.isEnding && c == '#' then .ok v
    else
      match v.step text c with
      | some v => steps text v (i + 1) cs
      | none => .error i

end Partial

/-- The text that a value writes; `text` gives the texts of variables. -/
def value (text : String → String) (cs : List Char) : Except Fault String :=
  let source := String.ofList cs
  match Partial.steps text .start 0 cs with
  | .error i => .error (.badLine source i)
  | .ok v =>
    if v.naming = .braced || v.quote.isSome then
      .error (.badLine source (source.utf8ByteSize - 1))
    else .ok (String.ofList (v.substitute text).out.reverse)

/-! ## Lines -/

def isNameStart (c : Char) : Bool := c.isAlpha || c == '_'

def isNameChar (c : Char) : Bool := c.isAlphanum || c == '_' || c == '.'

/-- What is left of a line, and how many bytes were taken off its front. -/
structure Cursor where
  rest : List Char
  taken : Nat

namespace Cursor

/-- Takes characters as long as they pass a test. -/
def takeWhile (p : Char → Bool) (c : Cursor) : List Char × Cursor :=
  let word := c.rest.takeWhile p
  (word, ⟨c.rest.dropWhile p, c.taken + (String.ofList word).utf8ByteSize⟩)

def skipBlanks (c : Cursor) : Cursor := (c.takeWhile Text.isBlank).2

/-- Takes a name and the blanks behind it. -/
def name? (c : Cursor) : Except Nat (String × Cursor) :=
  if c.rest.head?.any isNameStart then
    let (word, c) := c.takeWhile isNameChar
    .ok (String.ofList word, c.skipBlanks)
  else .error c.taken

/-- Takes an equals sign and the blanks behind it. -/
def equals? (c : Cursor) : Except Nat Cursor :=
  match c.rest with
  | '=' :: rest => .ok (skipBlanks ⟨rest, c.taken + 1⟩)
  | _ => .error c.taken

end Cursor

/-- The name in front of a value, and the value's characters. -/
def assignment? (c : Cursor) : Except Nat (String × List Char) := do
  let (name, c) ← c.name?
  match c.equals? with
  | .ok c => return (name, c.rest)
  | .error i =>
    if name = "export" then
      let (name, c) ← c.name?
      return (name, (← c.equals?).rest)
    else throw i

/-- Whether nothing or only a comment is left. -/
def isVoid (cs : List Char) : Bool := cs.isEmpty || cs.head? == some '#'

/-- The assignment on a line, if it holds one. -/
def line (text : String → String) (cs : List Char) : Except Fault (Option (String × String)) :=
  let body := (cs.reverse.dropWhile Text.isBlank).reverse
  let c := Cursor.skipBlanks ⟨body, 0⟩
  if isVoid c.rest then .ok none
  else
    match assignment? c with
    | .error i => .error (.badLine (String.ofList cs) i)
    | .ok (name, rest) =>
      if isVoid rest then .ok (some (name, ""))
      else (value text rest).map fun v => some (name, v)

/-! ## Files -/

/-- The text of a variable: the one that is set, else the one an earlier line wrote. -/
def textOf (set written : Environment) (name : String) : String :=
  ((Assoc.get? name set).or (Assoc.get? name written)).getD ""

/-- Sets variables line by line. `written` holds what earlier lines wrote. -/
def loadLines (set written : Environment) : List (List Char) → Environment × Option Fault
  | [] => (set, none)
  | cs :: rest =>
    match line (textOf set written) cs with
    | .error fault => (set, some fault)
    | .ok none => loadLines set written rest
    | .ok (some (name, v)) =>
      let set := if Assoc.contains name set then set else Assoc.put name v set
      loadLines set (Assoc.put name v written) rest

/-- Sets the variables of a file that are not set yet, up to the first fault. -/
def load (content : ByteArray) (set : Environment) : Environment × Option Fault :=
  let (ls, fault) := lines content
  match loadLines set [] ls with
  | (set, some fault) => (set, some fault)
  | (set, none) => (set, fault)

end EnvFile

end ReleaseControl
