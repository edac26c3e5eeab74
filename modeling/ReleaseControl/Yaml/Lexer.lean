/-! # YAML lexer — state and moves

The tokens of a YAML document, and the state of the lexer that finds them: the place in the text,
the columns that the open blocks are indented to, the open flow collections, and for every flow
level the place where a key may have started. That something was a key shows only at its colon, so
the tokens in front of it are put in afterwards. -/

namespace ReleaseControl.Yaml

inductive Token where
  /-- The handle of tags that a directive declares, and what it stands for. -/
  | directive (tag : Option (String × String))
  | documentStart
  | documentEnd
  | blockSequenceStart
  | blockMappingStart
  | blockEnd
  | flowSequenceStart
  | flowSequenceEnd
  | flowMappingStart
  | flowMappingEnd
  | blockEntry
  | flowEntry
  | key
  | value
  | alias (name : String)
  | anchor (name : String)
  | tag (handle name : String)
  | scalar (text : String) (isPlain : Bool)
  deriving DecidableEq, Repr

/-- A column that lines are indented to. -/
structure Indent where
  column : Int
  /-- Whether a block stands at the column; else it is the least column of a value. -/
  isBlock : Bool
  deriving DecidableEq, Repr

/-- Where a key may have started. -/
structure KeyStart where
  isPossible : Bool
  /-- Whether nothing but a key can stand there. -/
  isRequired : Bool
  /-- How many tokens stand in front. -/
  place : Nat
  line : Nat
  column : Nat
  index : Nat
  deriving DecidableEq, Repr

def KeyStart.none : KeyStart := ⟨false, false, 0, 0, 0, 0⟩

structure Lexer where
  rest : List Char
  line : Nat
  column : Nat
  /-- How many characters have been read. -/
  index : Nat
  /-- Whether only blanks stand in front on the line. -/
  isLeading : Bool
  /-- The tokens found so far, the last one first. -/
  tokens : List Token
  /-- The columns of the open blocks, the innermost first. -/
  indents : List Indent
  /-- The open flow collections, the innermost first; `true` is a sequence. -/
  flows : List Bool
  /-- The key start outside of flow collections, and before it those of the open ones. -/
  keys : List KeyStart
  isKeyAllowed : Bool
  /-- The index at which a colon needs no blank behind it. -/
  adjacent : Nat

namespace Lexer

def ofText (text : List Char) : Lexer :=
  ⟨text, 0, 0, 0, true, [], [], [], [.none], true, 0⟩

/-- The column of the innermost block; -1 outside of all. -/
def indent (s : Lexer) : Int := (s.indents.head?.map (·.column)).getD (-1)

def isInFlow (s : Lexer) : Bool := !s.flows.isEmpty

/-- The key start of the innermost level. -/
def keyStart (s : Lexer) : KeyStart := s.keys.headD .none

def setKeyStart (k : KeyStart) (s : Lexer) : Lexer := { s with keys := k :: s.keys.drop 1 }

def push (t : Token) (s : Lexer) : Lexer := { s with tokens := t :: s.tokens }

/-- Puts a token behind the first `place` ones. -/
def insert (place : Nat) (t : Token) (s : Lexer) : Lexer :=
  let later := s.tokens.length - place
  { s with tokens := s.tokens.take later ++ t :: s.tokens.drop later }

end Lexer

/-- A move of the lexer, which may fail. -/
abbrev Move (α : Type) := StateT Lexer Option α

/-! ## Characters -/

def isBreak (c : Char) : Bool := c == '\n' || c == '\r'

def isBlank (c : Char) : Bool := c == ' ' || c == '\t'

/-- The marks of flow collections. -/
def isFlowMark (c : Char) : Bool := ",[]\x7b\x7d".contains c

/-- The end of the text or of a line. -/
def isLineEnd (c : Option Char) : Bool := c.all isBreak

/-- The end of the text or of a word. -/
def isWordEnd (c : Option Char) : Bool := c.all fun c => isBreak c || isBlank c

def isWordChar (c : Char) : Bool := c.isAlphanum || c == '_' || c == '-'

namespace Move

/-! ## Moves -/

/-- The next character, which stays. -/
def peek? : Move (Option Char) := do return (← get).rest.head?

/-- The character behind the next `n` ones. -/
def peekAt? (n : Nat) : Move (Option Char) := do return (← get).rest[n]?

/-- Takes a character that is no line break. -/
def advance : Move Unit := modify fun s =>
  { s with
    rest := s.rest.drop 1
    column := s.column + 1
    index := s.index + 1
    isLeading := s.isLeading && s.rest.head?.all isBlank }

/-- Takes a line break. -/
def skipBreak : Move Unit := modify fun s =>
  let size := match s.rest with
    | '\r' :: '\n' :: _ => 2
    | _ => 1
  { s with
    rest := s.rest.drop size
    line := s.line + 1
    column := 0
    index := s.index + size
    isLeading := true }

/-- Repeats a step as long as it says so. -/
def repeatUpTo (step : Move Bool) : Nat → Move Unit
  | 0 => failure
  | fuel + 1 => do if ← step then repeatUpTo step fuel

/-- Repeats a step as long as it says so. A step that does takes a character. -/
def «repeat» (step : Move Bool) : Move Unit := do repeatUpTo step ((← get).rest.length + 1)

/-- Collects what a step gives until it gives nothing. -/
def collectUpTo {α : Type} (step : Move (Option α)) : Nat → Move (List α)
  | 0 => failure
  | fuel + 1 => do
    match ← step with
    | some a => return a :: (← collectUpTo step fuel)
    | none => return []

/-- Collects what a step gives until it gives nothing. A step that gives something takes a
character. -/
def collect {α : Type} (step : Move (Option α)) : Move (List α) := do
  collectUpTo step ((← get).rest.length + 1)

/-- Takes characters of a line as long as they pass a test. -/
def takeWhile (p : Char → Bool) : Move (List Char) := do
  let cs := (← get).rest.takeWhile p
  cs.forM fun _ => advance
  return cs

/-- Takes one character if it comes next. -/
def skip (c : Char) : Move Bool := do
  if (← peek?) == some c then
    advance
    return true
  return false

/-! ## Blanks and comments -/

/-- The blanks found at the end of a line. -/
structure Blanks where
  hasTab : Bool
  hasSpace : Bool
  deriving DecidableEq, Repr

/-- Takes the blanks and the comment that are left of a line. A comment stands behind a blank. -/
def skipRest (allowsTabs : Bool) : Move Blanks := do
  let blanks ← takeWhile fun c => c == ' ' || (allowsTabs && c == '\t')
  if (← peek?) == some '#' then
    if blanks.isEmpty then failure
    let _ ← takeWhile fun c => !isBreak c
  return ⟨blanks.contains '\t', blanks.contains ' '⟩

/-- Whether a line with three of one mark comes next, which parts documents. -/
def isAtMark (mark : Char) : Move Bool := do
  let s ← get
  return s.column == 0 && s.rest.take 3 == [mark, mark, mark] && isWordEnd s.rest[3]?

/-- Whether a line comes next that starts or ends a document. -/
def isAtDocumentMark : Move Bool := do return (← isAtMark '-') || (← isAtMark '.')

/-! ## Indentation -/

/-- Opens a block at a column that is deeper than the innermost block; its token is put behind the
first `place` tokens. -/
def openBlock (column place : Nat) (t : Token) : Move Unit := modify fun s =>
  if s.isInFlow then s
  else
    let indents := match s.indents with
      | ⟨c, false⟩ :: outer => if c ≤ column then outer else s.indents
      | indents => indents
    let s := { s with indents }
    if s.indent < (column : Int) then
      { s.insert place t with indents := ⟨column, true⟩ :: indents }
    else s

/-- Values inside a block stand one column deeper at least. -/
def openValue : Move Unit := modify fun s =>
  match s.isInFlow, s.indents with
  | false, ⟨c, true⟩ :: _ => { s with indents := ⟨c + 1, false⟩ :: s.indents }
  | _, _ => s

/-- Leaves the indentation of a value, back to that of its block. -/
def closeValue : Move Unit := modify fun s =>
  { s with indents := s.indents.dropWhile fun i => !i.isBlock }

/-- Closes the blocks that are deeper than a column. -/
def closeBlocks (column : Int) : Move Unit := modify fun s =>
  if s.isInFlow then s
  else
    let closed := s.indents.takeWhile fun i => i.column > column
    let ends := (closed.filter (·.isBlock)).map fun _ => Token.blockEnd
    { s with indents := s.indents.drop closed.length, tokens := ends ++ s.tokens }

/-! ## Keys -/

def allowKey (isAllowed : Bool) : Move Unit := modify fun s => { s with isKeyAllowed := isAllowed }

/-- Notes that a key may start here. -/
def startKey : Move Unit := modify fun s =>
  if s.isKeyAllowed then
    let isRequired := match s.isInFlow, s.indents with
      | false, ⟨c, true⟩ :: _ => c == s.column
      | _, _ => false
    s.setKeyStart ⟨true, isRequired, s.tokens.length, s.line, s.column, s.index⟩
  else s

/-- Notes that no key started in front. -/
def dropKey : Move Unit := do
  let s ← get
  let k := s.keyStart
  if k.isPossible && k.isRequired then failure
  set (s.setKeyStart { k with isPossible := false })

/-- The longest distance of a key from its colon. -/
def maxKeyLength : Nat := 1024

/-- Outside of flow collections a key ends on its line and is not too long. -/
def dropStaleKeys : Move Unit := do
  let s ← get
  if !s.isInFlow then
    let isStale := fun (k : KeyStart) =>
      k.isPossible && (k.line < s.line || k.index + maxKeyLength < s.index)
    if s.keys.any fun k => isStale k && k.isRequired then failure
    let keys := s.keys.map fun k => if isStale k then { k with isPossible := false } else k
    set { s with keys }

end Move

end ReleaseControl.Yaml
