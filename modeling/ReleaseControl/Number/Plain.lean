import ReleaseControl.Number.Double

/-! # Plain numbers

Numbers as a person writes them into a variable: an optional sign and decimal digits, and for
doubles a point, an exponent, or one of the words for what is not finite. Nothing else may stand
around them. -/

namespace ReleaseControl.Plain

/-- Splits off a sign; `true` is minus. -/
def sign : List Char → Bool × List Char
  | '+' :: rest => (false, rest)
  | '-' :: rest => (true, rest)
  | cs => (false, cs)

/-- The number that decimal digits write; none without a digit or with anything else. -/
def digits (cs : List Char) : Option Nat :=
  if !cs.isEmpty && cs.all Char.isDigit then
    some (cs.foldl (fun n c => n * 10 + (c.toNat - '0'.toNat)) 0)
  else none

/-- A signed integer of 64 bits. -/
def int64? (text : String) : Option Int := do
  let (negative, cs) := sign text.toList
  let n ← digits cs
  let value : Int := if negative then -n else n
  if -(Int.pow 2 63) ≤ value ∧ value < Int.pow 2 63 then some value else none

/-- An unsigned integer of 64 bits; a plus may stand in front. -/
def word? (text : String) : Option Nat := do
  let n ← digits (match text.toList with
    | '+' :: rest => rest
    | cs => cs)
  if n < Nat.pow 2 64 then some n else none

/-- The exponent behind its mark. -/
def exponent (cs : List Char) : Option Int := do
  let (negative, cs) := sign cs
  let n ← digits cs
  return if negative then -(n : Int) else n

/-- An unsigned decimal; digits may be missing on one side of the point. -/
def decimal? (cs : List Char) : Option Decimal := do
  let isMark := fun c => c == 'e' || c == 'E'
  let mantissa := cs.takeWhile fun c => !isMark c
  let power ← match cs.dropWhile fun c => !isMark c with
    | [] => some 0
    | _ :: rest => exponent rest
  let whole := mantissa.takeWhile (· != '.')
  let fraction := (mantissa.dropWhile (· != '.')).drop 1
  return ⟨← digits (whole ++ fraction), power - fraction.length⟩

/-- The bits of a double. -/
def double? (text : String) : Option UInt64 :=
  let (negative, cs) := sign text.toList
  match (String.ofList cs).toLower with
  | "inf" | "infinity" => some (Double.infinity negative)
  | "nan" => some Double.nan
  | _ => (decimal? cs).map (Double.ofDecimal negative)

/-- The text of a double without an exponent and, when it is whole, without a point. A tie goes
to the upper digit. -/
def doubleText (bits : UInt64) : String :=
  if Double.isNaN bits then "NaN"
  else if !Double.isFinite bits then Double.sign bits ++ "inf"
  else
    let d := Double.shortest .upward bits
    if d.exponent ≥ 0 then Double.sign bits ++ toString (d.digits * Nat.pow 10 d.exponent.toNat)
    else Double.sign bits ++ Double.positional d

end ReleaseControl.Plain
