import ReleaseControl.Number.Double
import ReleaseControl.Toml.Text
import ReleaseControl.Watch.Timestamp

/-! # TOML numbers and dates

Integers of 64 bits in four bases, doubles, and dates and times. A date or time is read as its own
text in one form: `T` before the time, `Z` for UTC, a fraction without zeros at its end but with one
digit at least. -/

namespace ReleaseControl.Toml

open Text (Reader)
open Text.Reader

/-! ## Numbers -/

/-- The digits of a group without the underscores, each of which must stand between two digits. -/
def ungroup (isDigit : Char → Bool) : List Char → Option (List Char)
  | [] => none
  | [c] => if isDigit c then some [c] else none
  | c :: '_' :: rest => if isDigit c then (ungroup isDigit rest).map (c :: ·) else none
  | c :: rest => if isDigit c then (ungroup isDigit rest).map (c :: ·) else none

/-- The decimal digits of a group. -/
def decimalDigits (cs : List Char) : Option (List Char) := ungroup Char.isDigit cs

/-- A signed integer, if it fits 64 bits. -/
def signed (negative : Bool) (n : Nat) : Option Json :=
  let value : Int := if negative then -n else n
  if -(Int.pow 2 63) ≤ value ∧ value < Int.pow 2 63 then some (.int value) else none

/-- Digits of a whole number start with zero only if that is all. -/
def wholeDigits (cs : List Char) : Option (List Char) := do
  let digits ← decimalDigits cs
  if digits.length > 1 && digits.head? == some '0' then none else some digits

def isExponentMark (c : Char) : Bool := c == 'e' || c == 'E'

/-- The exponent behind its mark. -/
def exponent (cs : List Char) : Option Int := do
  let (negative, cs) := match cs with
    | '+' :: rest => (false, rest)
    | '-' :: rest => (true, rest)
    | _ => (false, cs)
  let n ← Text.numberOfDigits? 10 (← decimalDigits cs)
  return if negative then -(n : Int) else n

/-- An unsigned decimal: whole part, and fraction or exponent or both. -/
def decimal (cs : List Char) : Option Decimal := do
  let mantissa := cs.takeWhile fun c => !isExponentMark c
  let power ← match cs.dropWhile fun c => !isExponentMark c with
    | [] => some 0
    | _ :: rest => exponent rest
  let whole ← wholeDigits (mantissa.takeWhile (· != '.'))
  let fraction ← match mantissa.dropWhile (· != '.') with
    | [] => some []
    | _ :: rest => decimalDigits rest
  return ⟨← Text.numberOfDigits? 10 (whole ++ fraction), power - fraction.length⟩

/-- The number that a word without its sign writes. -/
def unsignedNumber (negative : Bool) (word : List Char) : Option Json :=
  match word with
  | ['i', 'n', 'f'] => some (.float (Double.infinity negative))
  | ['n', 'a', 'n'] => some (.float Double.nan)
  | _ =>
    if word.any fun c => c == '.' || isExponentMark c then do
      let bits ← Double.finite? negative (← decimal word)
      return .float bits
    else do signed negative (← Text.numberOfDigits? 10 (← wholeDigits word))

/-- The integer that digits behind a base mark write. -/
def basedNumber (base : Nat) (digits : List Char) : Option Json := do
  signed false (← Text.numberOfDigits? base (← ungroup (fun c => c.isAlphanum) digits))

/-- The number that a whole word writes. -/
def numberOfWord : List Char → Option Json
  | '+' :: rest => unsignedNumber false rest
  | '-' :: rest => unsignedNumber true rest
  | '0' :: 'x' :: rest => basedNumber 16 rest
  | '0' :: 'o' :: rest => basedNumber 8 rest
  | '0' :: 'b' :: rest => basedNumber 2 rest
  | word => unsignedNumber false word

def isNumberChar (c : Char) : Bool :=
  c.isAlphanum || c == '_' || c == '+' || c == '-' || c == '.'

def number : Reader Json := do
  match numberOfWord (← takeWhile isNumberChar) with
  | some v => return v
  | none => failure

/-! ## Dates and times -/

/-- A number of exactly `n` digits. -/
def digits (n : Nat) : Reader Nat := fun cs => Timestamp.digits n cs

def date : Reader String := do
  let year ← digits 4
  expect "-"
  let month ← digits 2
  expect "-"
  let day ← digits 2
  if !Timestamp.isValidDate year month day then failure
  return s!"{Timestamp.padded 4 year}-{Timestamp.padded 2 month}-{Timestamp.padded 2 day}"

/-- The fraction of a second, if there is one. -/
def secondFraction : Reader String := do
  if (← peek?) != some '.' then return ""
  let nanosecond ← fun cs => Timestamp.fraction cs
  return if nanosecond = 0 then ".0" else Timestamp.fractionText nanosecond

/-- The seconds behind hours and minutes, if they are there. -/
def seconds : Reader String := do
  if !(← skip ":") then return ""
  let second ← digits 2
  if second > 60 then failure
  return s!":{Timestamp.padded 2 second}" ++ (← secondFraction)

def time : Reader String := do
  let hour ← digits 2
  expect ":"
  let minute ← digits 2
  if hour > 23 || minute > 59 then failure
  return s!"{Timestamp.padded 2 hour}:{Timestamp.padded 2 minute}" ++ (← seconds)

/-- The offset behind a date and a time, if there is one. -/
def offset : Reader String := do
  match ← peek? with
  | some c =>
    if c == 'Z' || c == 'z' then
      modify (·.drop 1)
      return "Z"
    else if c == '+' || c == '-' then
      let minutes ← fun cs => Timestamp.readOffset cs
      return if minutes = 0 then "+00:00" else Timestamp.offsetText minutes
    else return ""
  | none => return ""

/-- Whether a time comes behind a date, and takes what parts them. -/
def skipDateMark : Reader Bool := do
  match ← get with
  | c :: d :: rest =>
    if c == 'T' || c == 't' || (c == ' ' && d.isDigit) then
      set (d :: rest)
      return true
    else return false
  | _ => return false

/-- Whether a date comes next, and not a number. -/
def startsDate (cs : List Char) : Bool :=
  (cs.take 4).all Char.isDigit && (cs.drop 4).head? == some '-'

/-- Whether a time comes next, and not a number. -/
def startsTime (cs : List Char) : Bool :=
  (cs.take 2).all Char.isDigit && (cs.drop 2).head? == some ':'

/-- A date, a time, or both. -/
def dateTime : Reader Json := do
  if startsTime (← get) then return .str (← time)
  let day ← date
  if ← skipDateMark then
    let clock ← time
    return .str s!"{day}T{clock}{← offset}"
  return .str day

end ReleaseControl.Toml
