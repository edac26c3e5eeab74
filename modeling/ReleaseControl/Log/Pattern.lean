import ReleaseControl.Text.Reader

/-! # Patterns

Which texts are regular expressions: alternatives of items that may be repeated, where an item is a
character, an escape, a class in brackets or a group in parentheses. Only the form is checked here.
Counted repetitions and word boundaries are not among the items. -/

namespace ReleaseControl.Pattern

open Text (Reader)
open Text.Reader

/-- Takes `n` hexadecimal digits. -/
def hexDigits (n : Nat) : Reader Unit := do
  let cs ← get
  let digits := cs.take n
  if digits.length < n || !digits.all (fun c => c.isDigit || "abcdefABCDEF".contains c) then failure
  set (cs.drop n)

/-- What the item behind a backslash is: one character, or more than that. -/
def escape : Reader (Option Char) := do
  let c ← next
  if c == 'x' then hexDigits 2
  else if c == 'u' then hexDigits 4
  else if c == 'U' then hexDigits 8
  else if c == 'p' || c == 'P' then
    let kind ← next
    if !"CLMNPSZ".contains kind then failure
    return none
  else if "dDsSwWAz".contains c then return none
  else if c.isAlphanum && !"aftnrv".contains c then failure
  else if c == '<' || c == '>' || c.toNat ≥ 0x80 then failure
  return some c

/-- One end of a range in a class, or an item that is no character. -/
def classItem : Reader (Option Char) := do
  match ← next with
  | '\\' => escape
  | c => return some c

mutual
/-- A class whose opening bracket has been read. -/
def charClass : Nat → Reader Unit
  | 0 => failure
  | fuel + 1 => do
    let _ ← skip "^"
    if !(← skip "]") then let _ ← skip "-"
    classItems fuel

/-- The items of a class up to its bracket. -/
def classItems : Nat → Reader Unit
  | 0 => failure
  | fuel + 1 => do
    if ← skip "]" then return
    if ← skip "[" then charClass fuel
    else
      let low ← classItem
      if (← peek?) == some '-' && !((← get).drop 1).head?.any (fun c => c == ']' || c == '-') then
        let _ ← next
        match low, ← classItem with
        | some a, some b => if b < a then failure
        | _, _ => failure
    classItems fuel
end

def isNameChar (c : Char) : Bool := c.isAlphanum || c == '_' || c == '.'

/-- What may stand behind the parenthesis of a group; tells whether the group goes on. -/
def groupHead : Reader Bool := do
  if !(← skip "?") then return true
  if (← skip "P<") || (← skip "<") then
    let name ← takeWhile isNameChar
    if name.isEmpty || name.head?.any (fun c => c.isDigit || c == '.') then failure
    expect ">"
    return true
  let flags ← takeWhile fun c => "imsUuxR-".contains c
  if flags.count '-' > 1 || flags.getLast? == some '-' then failure
  if ← skip ":" then return true
  if flags.isEmpty then failure
  expect ")"
  return false

/-- Items up to the end of the pattern or of a group. `depth` counts the open groups, `isItem` says
whether something stands in front that can be repeated. -/
def items : Nat → Nat → Bool → Reader Unit
  | 0, _, _ => failure
  | fuel + 1, depth, isItem => do
    match ← get with
    | [] => if depth > 0 then failure
    | c :: rest =>
      set rest
      match c with
      | '*' | '+' | '?' =>
        if !isItem then failure
        items fuel depth true
      | '|' => items fuel depth false
      | '(' => if ← groupHead then items fuel (depth + 1) false else items fuel depth false
      | ')' =>
        match depth with
        | 0 => failure
        | depth + 1 => items fuel depth true
      | '[' =>
        charClass fuel
        items fuel depth true
      | '\\' =>
        let _ ← escape
        items fuel depth true
      | '\x7b' => failure
      | _ => items fuel depth true

/-- Whether a text is a pattern. -/
def isPattern (text : String) : Bool :=
  let cs := text.toList
  ((items (2 * cs.length + 2) 0 false).run cs).isSome

end ReleaseControl.Pattern
