import ReleaseControl.Text.Hex
import ReleaseControl.Yaml.Lexer

/-! # YAML scalars

Scalars are plain, quoted, or blocks of lines. Plain and quoted ones are folded: a line break with
the blanks around it counts as one space, and of several breaks each but the first counts. -/

namespace ReleaseControl.Yaml.Scalar

open Move

/-! ## Folding -/

/-- The blanks and line breaks between two words. -/
structure Gap where
  /-- The blanks, unless there is a break. -/
  blanks : List Char
  breaks : Nat

/-- What a gap stands for. -/
def Gap.fold (g : Gap) : List Char :=
  match g.breaks with
  | 0 => g.blanks
  | 1 => [' ']
  | n + 1 => List.replicate n '\n'

/-- A blank or a break between words; tabs must not indent a line with content. -/
def gapPiece? (indent : Int) : Move (Option Char) := do
  let s ← get
  match s.rest with
  | c :: _ =>
    if isBreak c then
      skipBreak
      return some '\n'
    if !isBlank c then return none
    if c == '\t' && s.isLeading && s.column < indent then
      let _ ← skipRest true
      if !isLineEnd (← peek?) then failure
      return some ' '
    advance
    return some c
  | [] => return none

/-- The gap that comes next. -/
def gap (indent : Int) : Move Gap := do
  let cs ← collect (gapPiece? indent)
  let breaks := cs.count '\n'
  return ⟨if breaks = 0 then cs else [], breaks⟩

/-! ## Plain scalars -/

/-- Whether a character in front of another one can stand in a plain scalar. -/
def isPlainChar (isInFlow : Bool) (c : Char) (next : Option Char) : Bool :=
  if isInFlow && isFlowMark c then false
  else c != ':' || !(isWordEnd next || (isInFlow && next.any isFlowMark))

/-- The next character of a word, if it goes on. -/
def wordPiece? : Move (Option Char) := do
  let s ← get
  match s.rest with
  | c :: rest =>
    if isWordEnd (some c) || !isPlainChar s.isInFlow c rest.head? then return none
    advance
    return some c
  | [] => return none

/-- The words of a plain scalar with the gaps between them, behind a first gap. -/
def plainFrom (indent : Int) : Nat → List Char → Move (List Char)
  | 0, _ => failure
  | fuel + 1, before => do
    let s ← get
    if (← isAtDocumentMark) || s.rest.head? == some '#' then return []
    if s.isInFlow && s.rest.head? == some '-' && s.rest[1]?.any isFlowMark then failure
    let word ← collect wordPiece?
    let text := if word.isEmpty then [] else before ++ word
    if !(← peek?).any fun c => isBlank c || isBreak c then return text
    let g ← gap indent
    let s ← get
    if !s.isInFlow && s.column < indent then return text
    return text ++ (← plainFrom indent fuel g.fold)

/-- A plain scalar; it goes on over lines that are deeper than the block it stands in. -/
def plain : Move String := do
  closeValue
  let s ← get
  let indent := s.indent + 1
  if s.isInFlow && s.column < indent then failure
  let text ← plainFrom indent (s.rest.length + 1) []
  if text.isEmpty then failure
  if (← get).isLeading then allowKey true
  return String.ofList text

/-! ## Quoted scalars -/

/-- The characters that single letters behind a backslash stand for. -/
def escapes : List (Char × Char) :=
  [('0', '\x00'), ('a', '\x07'), ('b', '\x08'), ('t', '\t'), ('\t', '\t'), ('n', '\n'),
    ('v', '\x0b'), ('f', '\x0c'), ('r', '\r'), ('e', '\x1b'), (' ', ' '), ('"', '"'), ('/', '/'),
    ('\\', '\\'), ('N', '\u0085'), ('_', '\u00a0'), ('L', '\u2028'), ('P', '\u2029')]

/-- The character with the code that the next `n` hexadecimal digits write. -/
def codePoint (n : Nat) : Move Char := do
  let digits := (← get).rest.take n
  if digits.length ≠ n then failure
  digits.forM fun _ => advance
  Text.charOfCode? (← Text.numberOfDigits? 16 digits)

/-- The character that a backslash and what is behind it stand for. -/
def escape : Move Char := do
  match ← peek? with
  | none => failure
  | some c =>
    advance
    match c with
    | 'x' => codePoint 2
    | 'u' => codePoint 4
    | 'U' => codePoint 8
    | c => (escapes.find? fun e => e.1 == c).map (·.2)

/-- The next character of a quoted word, if it goes on. -/
def quotedPiece? (quote : Char) : Move (Option Char) := do
  match (← get).rest with
  | [] => return none
  | c :: rest =>
    if isWordEnd (some c) then return none
    if c == quote then
      if quote == '\'' && rest.head? == some quote then
        advance
        advance
        return some quote
      return none
    if c == '\\' && quote == '"' then
      if rest.head?.any isBreak then return none
      advance
      return some (← escape)
    advance
    return some c

/-- The gap behind a quoted word. A backslash at the end of a line takes its break along, so that
only the breaks behind it count. -/
def quotedGap (indent : Int) : Move (List Char) := do
  if ← skip '\\' then
    skipBreak
    return List.replicate (← gap indent).breaks '\n'
  return (← gap indent).fold

/-- The words of a quoted scalar up to its quote. -/
def quotedFrom (quote : Char) : Nat → Move (List Char)
  | 0 => failure
  | fuel + 1 => do
    let s ← get
    if (← isAtDocumentMark) || s.rest.isEmpty || s.column < s.indent then failure
    let word ← collect (quotedPiece? quote)
    if ← skip quote then return word
    let g ← quotedGap s.indent
    return word ++ g ++ (← quotedFrom quote fuel)

/-- What may stand behind a quoted scalar that started on a line. -/
def isQuotedEnd (line : Nat) (s : Lexer) : Bool :=
  match s.rest.head? with
  | none => true
  | some c =>
    isBreak c || (c == ':' && (s.isInFlow || line == s.line))
      || (s.isInFlow && (c == ',' || c == ']' || c == '\x7d'))

/-- A quoted scalar. -/
def quoted (quote : Char) : Move String := do
  let s ← get
  advance
  let text ← quotedFrom quote (s.rest.length + 1)
  let _ ← skipRest true
  if !isQuotedEnd s.line (← get) then failure
  return String.ofList text

/-! ## Blocks of lines -/

/-- What is done with the line breaks at the end of a block. -/
inductive Chomping where
  | clip
  | strip
  | keep
  deriving DecidableEq, Repr

/-- The chomping, if its mark comes next. -/
def chomping? : Move (Option Chomping) := do
  if ← skip '+' then return some .keep
  if ← skip '-' then return some .strip
  return none

/-- How much deeper the lines of a block are, if a digit says so. -/
def increment? : Move (Option Nat) := do
  match ← peek? with
  | some c =>
    if !c.isDigit then return none
    if c == '0' then failure
    advance
    return some (c.toNat - '0'.toNat)
  | none => return none

/-- The marks behind the start of a block, in either order. -/
def header : Move (Chomping × Option Nat) := do
  match ← chomping? with
  | some chomping => return (chomping, ← increment?)
  | none =>
    let increment ← increment?
    return ((← chomping?).getD .clip, increment)

/-- Takes the spaces in front of a line, down to a column; says whether the line is empty. -/
def emptyLine (column : Nat) : Move Bool := do
  let s ← get
  let spaces := (s.rest.takeWhile (· == ' ')).length
  for _ in List.range (min spaces (column - s.column)) do advance
  if (← peek?).any isBreak then
    skipBreak
    return true
  return false

/-- Takes empty lines and counts them. -/
def emptyLines (column : Nat) : Move Nat := do
  let lines ← collect (do return if ← emptyLine column then some () else none)
  return lines.length

/-- The greatest column in front of content or of the break of an empty line. -/
def deepest : Nat → Nat → List Char → Nat
  | best, column, ' ' :: rest => deepest best (column + 1) rest
  | best, column, c :: rest =>
    if isBreak c then deepest (max best column) 0 rest else max best column
  | best, column, [] => max best column

/-- The lines of a block at a column. `held` are the breaks since the last line, `isFirst` says that
there is none, and `isAfterBlank` that it started with a blank. -/
def blockLines (isFolded : Bool) (column : Nat) :
    Nat → Bool → Bool → Nat → Move (List Char × Bool × Nat)
  | 0, _, _, _ => failure
  | fuel + 1, isFirst, isAfterBlank, held => do
    let s ← get
    let isEnd := s.column != column || s.rest.isEmpty
    if isEnd || (column == 0 && (← isAtDocumentMark)) then return ([], !isFirst, held)
    let isBlankStart := s.rest.head?.any isBlank
    let gap :=
      if isFirst then List.replicate held '\n'
      else if isFolded && !isAfterBlank && !isBlankStart then
        if held = 0 then [' '] else List.replicate held '\n'
      else List.replicate (held + 1) '\n'
    let content ← takeWhile fun c => !isBreak c
    if (← peek?).isNone then return (gap ++ content, false, 0)
    skipBreak
    let empty ← emptyLines column
    let (more, hasBreak, held) ← blockLines isFolded column fuel false isBlankStart empty
    return (gap ++ content ++ more, hasBreak, held)

/-- The text of a block: its lines, whether a break follows the last one, and how many empty lines
follow that. -/
def chomp (c : Chomping) (column : Nat) (text : List Char) (hasBreak : Bool) (empty : Nat) :
    Move (List Char) := do
  let s ← get
  let isCutOff := s.rest.isEmpty && s.column ≥ max column 1
  let tail := List.replicate ((if hasBreak then 1 else 0) + (if isCutOff then 1 else 0)) '\n'
  return match c with
    | .strip => text
    | .clip => text ++ tail
    | .keep => text ++ tail ++ List.replicate empty '\n'

/-- The text of a block without content at the end of the document. -/
def noContent (c : Chomping) (hasBreak : Bool) (empty : Nat) : List Char :=
  match c, hasBreak with
  | .strip, _ | _, false => []
  | .clip, true => ['\n']
  | .keep, true => List.replicate (max empty 1) '\n'

/-- A block of lines, folded or as they are. -/
def block (isFolded : Bool) : Move String := do
  advance
  closeValue
  let (chomping, increment) ← header
  let _ ← skipRest true
  let hasBreak := (← peek?).isSome
  if !isLineEnd (← peek?) then failure
  if hasBreak then skipBreak
  let s ← get
  if s.rest.head? == some '\t' then failure
  let column := match increment with
    | some n => if s.indent ≥ 0 then s.indent.toNat + n else n
    | none => max (deepest 0 s.column s.rest) (s.indent + 1).toNat
  let empty ← emptyLines column
  let inner ← get
  if inner.rest.isEmpty then return String.ofList (noContent chomping hasBreak empty)
  if inner.column < column && inner.column > s.indent then failure
  let (text, isBroken, held) ← blockLines isFolded column (s.rest.length + 1) true false empty
  return String.ofList (← chomp chomping column text isBroken held)

end ReleaseControl.Yaml.Scalar
