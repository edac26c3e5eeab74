/-! # Doubles as bit patterns

A double is held as its 64 bits. `Double.parts` reads a finite one as `m · 2^q`, and
`Double.shortest` finds the decimal with the fewest digits among those that round back to it:
for 1, 2, … 17 digits it tries the two neighbours of the value on that decimal grid, in exact
integer arithmetic, and takes the first grid with a hit, the nearer of two. Which of two equally
near decimals is taken is up to the format that is written. -/

namespace ReleaseControl

/-- A decimal `digits · 10^exponent`. -/
structure Decimal where
  digits : Nat
  exponent : Int
  deriving DecidableEq, Repr

/-- Which of two decimals is taken that are equally near to a value. -/
inductive Tie where
  | toEven
  | upward
  deriving DecidableEq, Repr

namespace Double

def isNegative (bits : UInt64) : Bool := bits >>> 63 == 1

/-- The eleven exponent bits. -/
def biased (bits : UInt64) : Nat := ((bits >>> 52) &&& 0x7FF).toNat

/-- The 52 fraction bits. -/
def fraction (bits : UInt64) : Nat := (bits &&& 0xFFFFFFFFFFFFF).toNat

def isFinite (bits : UInt64) : Bool := biased bits != 0x7FF

def isNaN (bits : UInt64) : Bool := biased bits == 0x7FF && fraction bits != 0

/-- Magnitude of a finite double as `m · 2^q`. -/
def parts (bits : UInt64) : Nat × Int :=
  match biased bits with
  | 0 => (fraction bits, -1074)
  | b + 1 => (Nat.pow 2 52 + fraction bits, (b : Int) - 1074)

/-- Whether the gap below the double is half the gap above it: a power of two that is neither
zero nor the least normal number. -/
def halfGapBelow (bits : UInt64) : Bool := fraction bits == 0 && biased bits > 1

/-! ## Fewest digits -/

/-- `2^e` as a quotient of natural numbers. -/
def powTwo (e : Int) : Nat × Nat := (Nat.pow 2 e.toNat, Nat.pow 2 (-e).toNat)

/-- `10^e` as a quotient of natural numbers. -/
def powTen (e : Int) : Nat × Nat := (Nat.pow 10 e.toNat, Nat.pow 10 (-e).toNat)

/-- How many decimal digits `n` has; zero has none. -/
def digitCount (n : Nat) : Nat := if n = 0 then 0 else (Nat.toDigits 10 n).length

/-- The `p` with `10^p ≤ num / den < 10^(p+1)`, for positive `num` and `den`. -/
def decade (num den : Nat) : Int :=
  if num ≥ den then (digitCount (num / den) : Int) - 1
  else
    let l := digitCount (den / num)
    if num * Nat.pow 10 (l - 1) ≥ den then -((l : Int) - 1) else -(l : Int)

/-- The point of the grid `10^k` that rounds to the double, if its neighbours hold one. The
double is `4m · 2^r`, with `r = q - 2`, so that both ends of its interval are whole there. -/
def onGrid (tie : Tie) (m : Nat) (r : Int) (below : Nat) (k : Int) : Option Nat :=
  let a := (powTen k).1 * (powTwo r).2
  let b := (powTwo r).1 * (powTen k).2
  let value := 4 * m * b
  let low := (4 * m - below) * b
  let high := (4 * m + 2) * b
  let inside := fun d : Nat =>
    if m % 2 = 0 then low ≤ d * a && d * a ≤ high else low < d * a && d * a < high
  let d := value / a
  match inside d, inside (d + 1) with
  | true, true =>
    match compare (2 * value) ((2 * d + 1) * a) with
    | .lt => some d
    | .eq => some (if tie = .toEven ∧ d % 2 = 0 then d else d + 1)
    | .gt => some (d + 1)
  | true, false => some d
  | false, true => some (d + 1)
  | false, false => none

/-- Drops the zeros at the end of the digits; `fuel` bounds their number. -/
def stripZeros : Nat → Decimal → Decimal
  | 0, d => d
  | fuel + 1, d =>
    if d.digits % 10 = 0 ∧ d.digits ≠ 0 then stripZeros fuel ⟨d.digits / 10, d.exponent + 1⟩ else d

/-- The shortest decimal that reads back as the magnitude of a finite double. -/
def shortest (tie : Tie) (bits : UInt64) : Decimal :=
  match parts bits with
  | (0, _) => ⟨0, 0⟩
  | (m, q) =>
    let p := decade (m * (powTwo q).1) (powTwo q).2
    let below := if halfGapBelow bits then 1 else 2
    let hit := (List.range 17).findSome? fun (n : Nat) =>
      (onGrid tie m (q - 2) below (p - n)).map fun d => (⟨d, p - (n : Int)⟩ : Decimal)
    stripZeros 20 (hit.getD ⟨0, 0⟩)

/-! ## Text -/

/-- The digits of a decimal with the point at its place, and `.0` after a whole number. -/
def positional (d : Decimal) : String :=
  let ds := Nat.toDigits 10 d.digits
  if d.exponent ≥ 0 then
    String.ofList (ds ++ List.replicate d.exponent.toNat '0') ++ ".0"
  else
    let places := (-d.exponent).toNat
    let padded := List.replicate (places + 1 - ds.length) '0' ++ ds
    let whole := padded.length - places
    String.ofList (padded.take whole) ++ "." ++ String.ofList (padded.drop whole)

/-- One digit, the point, the other digits, and the exponent with its sign. -/
def scientific (d : Decimal) : String :=
  let ds := Nat.toDigits 10 d.digits
  let point := if ds.length > 1 then "." else ""
  let power := d.exponent + (ds.length : Int) - 1
  let mark := if power < 0 then "e-" else "e+"
  String.ofList (ds.take 1) ++ point ++ String.ofList (ds.drop 1) ++ mark ++ toString power.natAbs

def sign (bits : UInt64) : String := if isNegative bits then "-" else ""

/-- The text of a finite double in a JSON document: positional while the point falls after the
fifth zero of a fraction and before the seventeenth digit, scientific elsewhere. A tie goes to the
even digit. -/
def jsonText (bits : UInt64) : String :=
  let d := shortest .toEven bits
  let point := d.exponent + (digitCount d.digits : Int)
  sign bits ++ if d.digits = 0 ∨ (-5 < point ∧ point ≤ 16) then positional d else scientific d

/-! ## Values -/

/-- The double nearest to `digits · 10^exponent`. -/
def nearest (negative : Bool) (digits : Nat) (exponent : Int) : UInt64 :=
  let x := Float.ofScientific digits (exponent < 0) exponent.natAbs
  (if negative then -x else x).toBits

/-- The infinity of a sign. -/
def infinity (negative : Bool) : UInt64 :=
  if negative then 0xFFF0000000000000 else 0x7FF0000000000000

/-- A value that is no number. -/
def nan : UInt64 := 0x7FF8000000000000

/-- The double nearest to a decimal; infinite beyond the largest double. -/
def ofDecimal (negative : Bool) (d : Decimal) : UInt64 :=
  let point := d.exponent + (digitCount d.digits : Int)
  if d.digits = 0 ∨ point < -400 then nearest negative 0 0
  else if point > 400 then infinity negative
  else nearest negative d.digits d.exponent

/-- The double nearest to a decimal, unless that is beyond the largest double. -/
def finite? (negative : Bool) (d : Decimal) : Option UInt64 :=
  let bits := ofDecimal negative d
  if isFinite bits then some bits else none

/-- The double `digits · 10^exponent` scaled by powers of ten that are doubles themselves, each
step rounded; `none` beyond the largest double. One step is enough down to `10^-308`. -/
def scaled (negative : Bool) (digits : Nat) (exponent : Int) : Option UInt64 :=
  let x := (UInt64.ofNat digits).toFloat
  let steps := (-exponent).toNat / 308
  let y :=
    if exponent ≥ 0 then
      if exponent > 308 then if digits = 0 then some x else none
      else
        let y := x * Float.ofScientific 1 false exponent.toNat
        if y.isInf then none else some y
    else
      let down := (List.replicate (min steps 4) ()).foldl
        (fun z _ => z / Float.ofScientific 1 false 308) x
      some (down / Float.ofScientific 1 false ((-exponent).toNat % 308))
  y.map fun z => (if negative then -z else z).toBits

/-- The nearest whole number of a double, halves away from zero; negative values and values
that are no number give 0, values above the largest 64-bit word give that word. -/
def toWord (bits : UInt64) : Nat :=
  if isNaN bits || isNegative bits then 0
  else if !isFinite bits then Nat.pow 2 64 - 1
  else
    let (m, q) := parts bits
    let whole := if q ≥ 0 then m * Nat.pow 2 q.toNat
      else (m + Nat.pow 2 ((-q).toNat - 1)) / Nat.pow 2 (-q).toNat
    min whole (Nat.pow 2 64 - 1)

end Double

end ReleaseControl
