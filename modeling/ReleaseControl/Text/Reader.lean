/-! # Reading text

A `Reader` takes characters off the front of a text and fails without a trace. -/

namespace ReleaseControl.Text

abbrev Reader (α : Type) := StateT (List Char) Option α

namespace Reader

/-- The next character, which stays. -/
def peek? : Reader (Option Char) := do return (← get).head?

/-- Takes the next character. -/
def next : Reader Char := do
  match ← get with
  | c :: rest =>
    set rest
    return c
  | [] => failure

/-- Takes the characters of a text, which must come next. -/
def expect (text : String) : Reader Unit := do
  let cs ← get
  if text.toList.isPrefixOf cs then set (cs.drop text.length) else failure

/-- Whether the characters of a text come next; takes them if so. -/
def skip (text : String) : Reader Bool := do
  let cs ← get
  if text.toList.isPrefixOf cs then
    set (cs.drop text.length)
    return true
  else return false

/-- Takes characters as long as they pass a test. -/
def takeWhile (p : Char → Bool) : Reader (List Char) := do
  let cs ← get
  set (cs.dropWhile p)
  return cs.takeWhile p

/-- Collects what a step gives until it gives nothing; `fuel` bounds the number of steps. -/
def collectUpTo {α : Type} (step : Reader (Option α)) : Nat → Reader (List α)
  | 0 => failure
  | fuel + 1 => do
    match ← step with
    | some a => return a :: (← collectUpTo step fuel)
    | none => return []

/-- Collects what a step gives until it gives nothing. A step that gives something takes a character
at least. -/
def collect {α : Type} (step : Reader (Option α)) : Reader (List α) := do
  collectUpTo step ((← get).length + 1)

/-- Takes a mark and the gap behind it, if the mark comes next. -/
def skipMark (gap : Reader Unit) (mark : String) : Reader Bool := do
  let found ← skip mark
  if found then gap
  return found

/-- Items with commas between them up to a closing mark; a comma may follow the last one, and gaps
may follow all marks. `fuel` bounds the number of items. -/
def listUpTo {α : Type} (gap : Reader Unit) (item : Reader α) (close : String) :
    Nat → Reader (List α)
  | 0 => failure
  | fuel + 1 => do
    if ← skipMark gap close then return []
    let a ← item
    if ← skipMark gap "," then return a :: (← listUpTo gap item close fuel)
    if ← skipMark gap close then return [a]
    failure

/-- Items with commas between them up to a closing mark. An item takes a character at least and the
gap behind it. -/
def list {α : Type} (gap : Reader Unit) (item : Reader α) (close : String) : Reader (List α) := do
  listUpTo gap item close ((← get).length + 1)

/-- The result of reading a text to its end. -/
def readAll {α : Type} (r : Reader α) (cs : List Char) : Option α :=
  match r.run cs with
  | some (v, []) => some v
  | _ => none

end Reader

end ReleaseControl.Text
