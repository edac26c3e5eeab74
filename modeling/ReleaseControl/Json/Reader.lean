import ReleaseControl.Json.Basic
import ReleaseControl.Number.Double
import ReleaseControl.Text.Hex

/-! # JSON reader

Reads one JSON document from text: strict grammar, no comments, nothing after the value but blanks,
containers nested at most `maxDepth` deep. A number without fraction and exponent is an integer
when it fits 64 bits, signed or unsigned; every other number, and `-0`, is a double. Readers take
the remaining characters and return a value with the characters behind it. -/

namespace ReleaseControl.Json

/-- How deep arrays and objects may be nested. -/
def maxDepth : Nat := 127

namespace Reader

def isBlank (c : Char) : Bool := c == ' ' || c == '\n' || c == '\t' || c == '\r'

def skipBlanks (cs : List Char) : List Char := cs.dropWhile isBlank

/-- Four hexadecimal digits: one UTF-16 unit. -/
def unit16? : List Char → Option (Nat × List Char)
  | a :: b :: c :: d :: rest => do
    let a ← Text.hexDigit? a
    let b ← Text.hexDigit? b
    let c ← Text.hexDigit? c
    let d ← Text.hexDigit? d
    return (((a * 16 + b) * 16 + c) * 16 + d, rest)
  | _ => none

/-- The character after `\u`: one unit, or a high surrogate with the escaped low one behind it. -/
def unicodeEscape (cs : List Char) : Option (Char × List Char) := do
  let (high, rest) ← unit16? cs
  if 0xD800 ≤ high ∧ high ≤ 0xDBFF then
    match rest with
    | '\\' :: 'u' :: rest =>
      let (low, rest) ← unit16? rest
      if 0xDC00 ≤ low ∧ low ≤ 0xDFFF then
        return (Char.ofNat (0x10000 + (high - 0xD800) * 0x400 + (low - 0xDC00)), rest)
      else none
    | _ => none
  else if 0xDC00 ≤ high ∧ high ≤ 0xDFFF then none
  else return (Char.ofNat high, rest)

/-- The character that a backslash introduces. -/
def escape : List Char → Option (Char × List Char)
  | '"' :: rest => some ('"', rest)
  | '\\' :: rest => some ('\\', rest)
  | '/' :: rest => some ('/', rest)
  | 'b' :: rest => some ('\x08', rest)
  | 'f' :: rest => some ('\x0c', rest)
  | 'n' :: rest => some ('\n', rest)
  | 'r' :: rest => some ('\r', rest)
  | 't' :: rest => some ('\t', rest)
  | 'u' :: rest => unicodeEscape rest
  | _ => none

/-- The characters of a string up to its closing quote; control characters must be escaped. -/
def stringChars : Nat → List Char → Option (List Char × List Char)
  | 0, _ => none
  | _ + 1, [] => none
  | _ + 1, '"' :: rest => some ([], rest)
  | fuel + 1, '\\' :: rest => do
    let (c, rest) ← escape rest
    let (cs, rest) ← stringChars fuel rest
    return (c :: cs, rest)
  | fuel + 1, c :: rest =>
    if c.toNat < 0x20 then none
    else do
      let (cs, rest) ← stringChars fuel rest
      return (c :: cs, rest)

/-- The string whose opening quote has been read. -/
def string (cs : List Char) : Option (String × List Char) := do
  let (chars, rest) ← stringChars (cs.length + 1) cs
  return (String.ofList chars, rest)

/-! ## Numbers -/

/-- Largest unsigned 64-bit word. -/
def maxWord : Nat := Nat.pow 2 64 - 1

def digitValue (c : Char) : Nat := c.toNat - '0'.toNat

/-- Appends digits to `kept` while the result fits a 64-bit word; returns it with the number of
digits taken. -/
def keepDigits : Nat → List Char → Nat × Nat
  | kept, [] => (kept, 0)
  | kept, c :: cs =>
    let next := kept * 10 + digitValue c
    if next > maxWord then (kept, 0)
    else
      let (all, taken) := keepDigits next cs
      (all, taken + 1)

/-- The exponent part after `e`: its sign and digits. -/
def exponent (cs : List Char) : Option (Int × List Char) :=
  let (negative, cs) := match cs with
    | '+' :: rest => (false, rest)
    | '-' :: rest => (true, rest)
    | _ => (false, cs)
  let digits := cs.takeWhile Char.isDigit
  if digits.isEmpty then none
  else
    let n := digits.foldl (fun n c => n * 10 + digitValue c) 0
    some (if negative then -(n : Int) else n, cs.dropWhile Char.isDigit)

/-- A number whose sign has been read. Digits that do not fit a 64-bit word are dropped: in front
of the point they count as zeros, behind it not at all. -/
def number (negative : Bool) (cs : List Char) : Option (Json × List Char) := do
  let whole := cs.takeWhile Char.isDigit
  let rest := cs.dropWhile Char.isDigit
  if whole.isEmpty || (whole.head? == some '0' && whole.length > 1) then none
  let (kept, taken) := keepDigits 0 whole
  let dropped := whole.length - taken
  let (fraction, rest, isWhole) ← match rest with
    | '.' :: rest =>
      let fraction := rest.takeWhile Char.isDigit
      if fraction.isEmpty then none else some (fraction, rest.dropWhile Char.isDigit, false)
    | _ => some ([], rest, true)
  let (kept, places) := keepDigits kept fraction
  let (power, rest, isWhole) ← match rest with
    | 'e' :: rest | 'E' :: rest => do
      let (power, rest) ← exponent rest
      some (power, rest, false)
    | _ => some (0, rest, isWhole)
  if isWhole && dropped == 0 && !negative then return (.int kept, rest)
  if isWhole && dropped == 0 && 0 < kept && kept ≤ Nat.pow 2 63 then
    return (.int (-(kept : Int)), rest)
  let bits ← Double.scaled negative kept (power + dropped - places)
  return (.float bits, rest)

/-! ## Values -/

mutual
def value : Nat → Nat → List Char → Option (Json × List Char)
  | 0, _, _ => none
  | fuel + 1, depth, cs =>
    match skipBlanks cs with
    | 'n' :: 'u' :: 'l' :: 'l' :: rest => some (.null, rest)
    | 't' :: 'r' :: 'u' :: 'e' :: rest => some (.bool true, rest)
    | 'f' :: 'a' :: 'l' :: 's' :: 'e' :: rest => some (.bool false, rest)
    | '"' :: rest => (string rest).map fun (s, rest) => (.str s, rest)
    | '[' :: rest =>
      match depth, skipBlanks rest with
      | 0, _ => none
      | _ + 1, ']' :: rest => some (.arr [], rest)
      | depth + 1, rest => (items fuel depth rest).map fun (vs, rest) => (.arr vs, rest)
    | '{' :: rest =>
      match depth, skipBlanks rest with
      | 0, _ => none
      | _ + 1, '}' :: rest => some (.obj [], rest)
      | depth + 1, rest => (members fuel depth rest).map fun (ms, rest) => (ofMembers ms, rest)
    | '-' :: rest => number true rest
    | rest => number false rest

/-- The items of an array up to its closing bracket; at least one. -/
def items : Nat → Nat → List Char → Option (List Json × List Char)
  | 0, _, _ => none
  | fuel + 1, depth, cs => do
    let (v, rest) ← value fuel depth cs
    match skipBlanks rest with
    | ',' :: rest =>
      let (vs, rest) ← items fuel depth rest
      return (v :: vs, rest)
    | ']' :: rest => return ([v], rest)
    | _ => none

/-- The members of an object up to its closing brace; at least one. -/
def members : Nat → Nat → List Char → Option (List (String × Json) × List Char)
  | 0, _, _ => none
  | fuel + 1, depth, cs =>
    match skipBlanks cs with
    | '"' :: rest => do
      let (name, rest) ← string rest
      match skipBlanks rest with
      | ':' :: rest =>
        let (v, rest) ← value fuel depth rest
        match skipBlanks rest with
        | ',' :: rest =>
          let (ms, rest) ← members fuel depth rest
          return ((name, v) :: ms, rest)
        | '}' :: rest => return ([(name, v)], rest)
        | _ => none
      | _ => none
    | _ => none
end

end Reader

/-- The value of a whole document, if the text is one. -/
def read? (text : String) : Option Json :=
  let cs := text.toList
  match Reader.value (2 * cs.length + 2) maxDepth cs with
  | some (v, rest) => if (Reader.skipBlanks rest).isEmpty then some v else none
  | none => none

end ReleaseControl.Json
