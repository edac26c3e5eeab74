import ReleaseControl.Yaml.Scalar

/-! # YAML tokens

Finds the tokens of a whole text. What a character starts depends on the character behind it, on
the flow collections that are open, and on whether a key may start at its place. -/

namespace ReleaseControl.Yaml

open Move

namespace Move

def push (t : Token) : Move Unit := modify (·.push t)

/-- Opens a block whose token comes behind all others. -/
def openBlockHere (column : Nat) (t : Token) : Move Unit := do
  openBlock column (← get).tokens.length t

/-! ## Between tokens -/

/-- Takes a blank, a comment or a line break, if one comes next. A tab must not stand where a block
is indented, unless nothing else is on the line. -/
def skipGap? : Move Bool := do
  let s ← get
  match s.rest with
  | [] => return false
  | c :: _ =>
    if c == '\t' && s.isLeading && !s.indents.isEmpty && s.column < s.indent then
      let _ ← skipRest true
      if !isLineEnd (← peek?) then failure
      return true
    else if isBlank c then
      advance
      return true
    else if isBreak c then
      skipBreak
      if !s.isInFlow then allowKey true
      return true
    else if c == '#' then
      let _ ← takeWhile fun c => !isBreak c
      return true
    else return false

def skipGaps : Move Unit := «repeat» skipGap?

/-! ## Directives and documents -/

/-- Closes all blocks. -/
def closeAll : Move Unit := do
  closeBlocks (-1)
  dropKey
  allowKey false

/-- A handle of tags: letters between exclamation marks, of which the second may be missing. -/
def tagHandle : Move String := do
  if !(← skip '!') then failure
  let name ← takeWhile isWordChar
  let closing ← skip '!'
  return String.ofList ('!' :: name ++ if closing then ['!'] else [])

def isTagChar (c : Char) : Bool := isWordChar c || "#;/?:@&=+$.~*'()%".contains c

/-- A word of anything but blanks. -/
def word : Move String := do
  return String.ofList (← takeWhile fun c => !isWordEnd (some c))

/-- What a directive says about tags. -/
def directiveText : Move (Option (String × String)) := do
  let name ← word
  let _ ← takeWhile isBlank
  if name == "YAML" then
    for isLast in [false, true] do
      if (← takeWhile Char.isDigit).isEmpty then failure
      if !isLast && !(← skip '.') then failure
    return none
  else if name == "TAG" then
    let handle ← tagHandle
    if (← takeWhile isBlank).isEmpty then failure
    return some (handle, ← word)
  else
    if name.isEmpty then failure
    let _ ← takeWhile fun c => !isBreak c
    return none

/-- A line with a directive. -/
def directive : Move Unit := do
  closeAll
  advance
  let tag ← directiveText
  let _ ← skipRest true
  if !isLineEnd (← peek?) then failure
  push (.directive tag)

/-- The mark that starts or ends a document. Nothing else may stand on the line of an end. -/
def documentMark (t : Token) : Move Unit := do
  closeAll
  for _ in List.range 3 do advance
  push t
  if t = .documentEnd then
    let _ ← skipRest true
    if !isLineEnd (← peek?) then failure

/-! ## Collections -/

/-- How deep flow collections may lie in each other. -/
def maxFlowDepth : Nat := 255

def flowStart (isSequence : Bool) : Move Unit := do
  startKey
  openValue
  let s ← get
  if s.flows.length ≥ maxFlowDepth then failure
  set { s with flows := isSequence :: s.flows, keys := .none :: s.keys }
  allowKey true
  advance
  let _ ← skipRest true
  push (if isSequence then .flowSequenceStart else .flowMappingStart)

def flowEnd (t : Token) : Move Unit := do
  dropKey
  modify fun s =>
    if s.isInFlow then { s with flows := s.flows.drop 1, keys := s.keys.drop 1 } else s
  allowKey false
  advance
  let _ ← skipRest true
  modify fun s => if s.isInFlow then { s with adjacent := s.index } else s
  push t

def flowEntry : Move Unit := do
  dropKey
  allowKey true
  advance
  let _ ← skipRest true
  push .flowEntry

def blockEntry : Move Unit := do
  let s ← get
  if s.isInFlow || !s.isKeyAllowed then failure
  advance
  openBlockHere s.column .blockSequenceStart
  let blanks ← skipRest true
  let isEntry := (← peek?) == some '-' && isWordEnd (← peekAt? 1)
  if blanks.hasTab && isEntry then failure
  if (← peek?).any fun c => isBreak c || isFlowMark c then openValue
  dropKey
  allowKey true
  push .blockEntry

/-- Takes spaces, breaks and comments, of which one must come next. -/
def skipSpaces : Move Unit := do
  let s ← get
  if !s.rest.head?.any (fun c => c == ' ' || isBreak c) then failure
  skipGaps

/-- The mark of a key that is no scalar on one line. -/
def explicitKey : Move Unit := do
  let s ← get
  if !s.isInFlow then
    if !s.isKeyAllowed then failure
    openBlockHere s.column .blockMappingStart
  dropKey
  allowKey !s.isInFlow
  advance
  skipSpaces
  push .key

/-- The colon behind a key that started in front. -/
def valueOf (k : KeyStart) : Move Unit := do
  let s ← get
  if s.flows.head? == some true && k.line < s.line then failure
  set (s.insert k.place .key)
  openBlock k.column k.place .blockMappingStart
  openValue
  modify (·.setKeyStart { k with isPossible := false })
  allowKey false

/-- The colon behind an explicit key or behind none. -/
def valueOfOther (column : Nat) : Move Unit := do
  let s ← get
  if !s.isInFlow then
    if !s.isKeyAllowed then failure
    openBlockHere column .blockMappingStart
  openValue
  allowKey !s.isInFlow

/-- The colon between a key and its value; a tab alone does not part it from a word. -/
def value : Move Unit := do
  let s ← get
  advance
  if (← peek?) == some '\t' then
    let blanks ← skipRest true
    if !blanks.hasSpace && (← peek?).any isWordChar then failure
  if s.keyStart.isPossible then valueOf s.keyStart else valueOfOther s.column
  push .value

/-! ## Nodes -/

/-- Notes a key start in front of a token that may be one. -/
def keyToken (t : Move Token) : Move Unit := do
  startKey
  allowKey false
  push (← t)

def isAnchorChar (c : Char) : Bool := !isWordEnd (some c) && !isFlowMark c

/-- The name of an anchor behind its mark. -/
def anchorName : Move String := do
  advance
  let name ← takeWhile isAnchorChar
  if name.isEmpty then failure
  return String.ofList name

/-- The handle and the name of a tag. -/
def tagText : Move (String × String) := do
  if (← peekAt? 1) == some '<' then
    advance
    advance
    let name ← takeWhile fun c => c != '>' && !isWordEnd (some c)
    if name.isEmpty || !(← skip '>') then failure
    return ("", String.ofList name)
  let handle ← tagHandle
  let name := String.ofList (← takeWhile isTagChar)
  if handle.length ≥ 2 && handle.endsWith "!" then
    if name.isEmpty then failure
    return (handle, name)
  let name := (handle.drop 1).copy ++ name
  return if name.isEmpty then ("", "!") else ("!", name)

def tag : Move Token := do
  let (handle, name) ← tagText
  let s ← get
  if !isWordEnd s.rest.head? && !(s.isInFlow && s.rest.head?.any isFlowMark) then failure
  return .tag handle name

/-- A quoted scalar; as a key in a flow collection it needs no blank behind its colon. -/
def quotedScalar (quote : Char) : Move Unit := do
  startKey
  allowKey false
  let text ← Scalar.quoted quote
  skipGaps
  modify fun s => { s with adjacent := s.index }
  push (.scalar text false)

def blockScalar (isFolded : Bool) : Move Unit := do
  startKey
  allowKey true
  push (.scalar (← Scalar.block isFolded) false)

/-! ## All tokens -/

/-- Finds what a character starts, where `next` stands behind it. -/
def token (c : Char) (next : Option Char) : Move Unit := do
  let s ← get
  let isInFlow := s.isInFlow
  let isAlone := isWordEnd next
  match c with
  | '[' => flowStart true
  | '\x7b' => flowStart false
  | ']' => flowEnd .flowSequenceEnd
  | '\x7d' => flowEnd .flowMappingEnd
  | ',' => flowEntry
  | '*' => keyToken (return .alias (← anchorName))
  | '&' => keyToken (return .anchor (← anchorName))
  | '!' => keyToken tag
  | '\'' => quotedScalar '\''
  | '"' => quotedScalar '"'
  | _ =>
    if c == '-' && isAlone then blockEntry
    else if c == '?' && isAlone then explicitKey
    else if c == ':' && (isAlone || isInFlow && (next.any isFlowMark || s.index == s.adjacent)) then
      value
    else if c == '|' && !isInFlow then blockScalar false
    else if c == '>' && !isInFlow then blockScalar true
    else if c == '%' || c == '@' || c == '\x60' then failure
    else keyToken (return .scalar (← Scalar.plain) true)

/-- The end of the text. -/
def finish : Move Unit := do
  let s ← get
  if s.keys.any fun k => k.isPossible && k.isRequired then failure
  modify fun s => { s with keys := s.keys.map fun k => { k with isPossible := false } }
  closeBlocks (-1)

/-- Finds the next token; says whether there is one. -/
def next : Move Bool := do
  skipGaps
  dropStaleKeys
  let s ← get
  closeBlocks s.column
  match s.rest with
  | [] =>
    finish
    return false
  | c :: rest =>
    if s.column == 0 && c == '%' then directive
    else if ← isAtMark '-' then documentMark .documentStart
    else if ← isAtMark '.' then documentMark .documentEnd
    else if s.column < (← get).indent then failure
    else token c rest.head?
    return true

end Move

/-- The tokens of a text. -/
def Token.ofText? (text : List Char) : Option (List Token) := do
  let (_, s) ← (repeatUpTo Move.next (text.length + 1)).run (.ofText text)
  return s.tokens.reverse

end ReleaseControl.Yaml
