/-! # Names — DNS-1123 labels

A record name is a DNS-1123 label: 1 to 63 bytes of lower-case ASCII letters, digits and dashes,
with a letter or digit at both ends. `Name.check` decides the grammar and says which rule a text
breaks; `Name.label` turns any text into a label (or into nothing, when it holds no ASCII letter
or digit). -/

namespace ReleaseControl

/-- Why a text is not a record name. -/
inductive NameError where
  | empty
  | tooLong (name : String)
  | invalidCharacters (name : String)
  deriving DecidableEq, Repr

def NameError.message : NameError → String
  | .empty => "name must not be empty"
  | .tooLong name => s!"name '{name}' is longer than 63 characters"
  | .invalidCharacters name =>
    s!"name '{name}' must consist of lower case alphanumeric characters or '-', "
      ++ "and must start and end with an alphanumeric character"

namespace Name

/-- Longest name, in bytes. -/
def maxLength : Nat := 63

/-- The characters allowed at both ends of a name. -/
def isEdge (c : Char) : Bool := c.isLower || c.isDigit

/-- The characters allowed inside a name. -/
def isInner (c : Char) : Bool := isEdge c || c == '-'

/-- The grammar on characters: inner characters throughout, edge characters first and last. -/
def wellFormed (cs : List Char) : Bool :=
  cs.all isInner && cs.head?.any isEdge && cs.getLast?.any isEdge

/-- Accepts exactly the record names; length is counted in bytes and looked at first. -/
def check (name : String) : Except NameError Unit :=
  if name.isEmpty then .error .empty
  else if name.utf8ByteSize > maxLength then .error (.tooLong name)
  else if wellFormed name.toList then .ok ()
  else .error (.invalidCharacters name)

def isValid (name : String) : Bool :=
  match check name with
  | .ok () => true
  | .error _ => false

/-! ## Normalisation -/

/-- One character of a label: upper case is folded, all else that may not stand inside a name
becomes a dash. -/
def foldChar (c : Char) : Char := if isEdge c.toLower then c.toLower else '-'

/-- Collapses runs of dashes. `held` says that a dash must not be written now: nothing has been
written yet, or a dash was written last. -/
def squeeze (held : Bool) : List Char → List Char
  | [] => []
  | c :: cs =>
    if c = '-' then if held then squeeze true cs else '-' :: squeeze true cs
    else c :: squeeze false cs

/-- Drops the dashes at the end. -/
def trimDashes (cs : List Char) : List Char := (cs.reverse.dropWhile (· == '-')).reverse

/-- Folds, collapses, cuts to `maxLength` and drops the dashes the cut left at the end. -/
def labelChars (cs : List Char) : List Char :=
  trimDashes ((squeeze true (cs.map foldChar)).take maxLength)

/-- The label of any text; empty when the text holds no ASCII letter or digit. -/
def label (text : String) : String := String.ofList (labelChars text.toList)

end Name

end ReleaseControl
