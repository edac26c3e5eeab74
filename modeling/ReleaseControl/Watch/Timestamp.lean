import ReleaseControl.Json.Decode

/-! # Timestamps

Points in time as RFC 3339 writes them: a date, a time of day down to nanoseconds and an offset
from UTC. `Timestamp.parse?` reads a text, `Timestamp.text` writes the shortest form of it: no
zeros at the end of a fraction, and `Z` for offset zero. -/

namespace ReleaseControl

structure Timestamp where
  year : Nat
  month : Nat
  day : Nat
  hour : Nat
  minute : Nat
  second : Nat
  nanosecond : Nat
  /-- Offset from UTC in minutes, positive to the east. -/
  offset : Int
  deriving DecidableEq, Repr

namespace Timestamp

/-! ## Calendar -/

def isLeapYear (y : Nat) : Bool := y % 4 == 0 && (y % 100 != 0 || y % 400 == 0)

def daysInMonth (y m : Nat) : Nat :=
  match m with
  | 2 => if isLeapYear y then 29 else 28
  | 4 | 6 | 9 | 11 => 30
  | _ => 31

def isValidDate (y m d : Nat) : Bool := 1 ≤ m && m ≤ 12 && 1 ≤ d && d ≤ daysInMonth y m

/-- Day and minute of the day in UTC; the day is counted in the month of the timestamp, so 0 is
the last day of the month before. -/
def utcDayMinute (t : Timestamp) : Int × Int :=
  let minutes : Int := (t.hour * 60 + t.minute : Nat) - t.offset
  (t.day + minutes.fdiv 1440, minutes.fmod 1440)

/-- Whether the minute is the last one of a month in UTC, the only one that can hold a leap
second. -/
def endsMonth (t : Timestamp) : Bool :=
  let (day, minute) := t.utcDayMinute
  minute == 1439 && (day == 0 || day == daysInMonth t.year t.month)

/-! ## Reading -/

/-- A number of exactly `n` decimal digits. -/
def digits (n : Nat) (cs : List Char) : Option (Nat × List Char) :=
  let ds := cs.take n
  if ds.length = n ∧ ds.all Char.isDigit then
    some (ds.foldl (fun k c => k * 10 + (c.toNat - '0'.toNat)) 0, cs.drop n)
  else none

def expect (c : Char) : List Char → Option (List Char)
  | d :: rest => if c = d then some rest else none
  | [] => none

/-- The nanoseconds of a fraction; digits behind the ninth are ignored. -/
def fraction : List Char → Option (Nat × List Char)
  | '.' :: rest =>
    let ds := rest.takeWhile Char.isDigit
    if ds.isEmpty then none
    else do
      let (ns, _) ← digits 9 (ds ++ List.replicate 9 '0')
      return (ns, rest.dropWhile Char.isDigit)
  | cs => some (0, cs)

/-- The offset: `Z` or a sign, hours and minutes. -/
def readOffset (cs : List Char) : Option (Int × List Char) :=
  match cs with
  | 'Z' :: rest | 'z' :: rest => some (0, rest)
  | c :: rest => do
    if c != '+' && c != '-' then none
    let (h, rest) ← digits 2 rest
    let rest ← expect ':' rest
    let (m, rest) ← digits 2 rest
    if h > 23 || m > 59 then none
    let minutes : Int := (h * 60 + m : Nat)
    return (if c == '-' then -minutes else minutes, rest)
  | [] => none

/-- Reads an RFC 3339 text. One ASCII character of any kind parts the date from the time. A leap
second is read as the last nanosecond of the second before it. -/
def parse? (text : String) : Option Timestamp := do
  let (year, cs) ← digits 4 text.toList
  let cs ← expect '-' cs
  let (month, cs) ← digits 2 cs
  let cs ← expect '-' cs
  let (day, cs) ← digits 2 cs
  let cs ← match cs with
    | c :: rest => if c.toNat < 0x80 then some rest else none
    | [] => none
  let (hour, cs) ← digits 2 cs
  let cs ← expect ':' cs
  let (minute, cs) ← digits 2 cs
  let cs ← expect ':' cs
  let (second, cs) ← digits 2 cs
  let (nanosecond, cs) ← fraction cs
  let (offset, cs) ← readOffset cs
  if !cs.isEmpty || !isValidDate year month day || hour > 23 || minute > 59 then none
  let t : Timestamp := ⟨year, month, day, hour, minute, second, nanosecond, offset⟩
  if second ≤ 59 then return t
  if second = 60 ∧ t.endsMonth then return { t with second := 59, nanosecond := 999999999 }
  none

/-! ## Writing -/

/-- A number with zeros in front up to `width` digits. -/
def padded (width n : Nat) : String :=
  let ds := Nat.toDigits 10 n
  String.ofList (List.replicate (width - ds.length) '0' ++ ds)

def fractionText (ns : Nat) : String :=
  if ns = 0 then ""
  else
    let ds := (padded 9 ns).toList
    "." ++ String.ofList (ds.reverse.dropWhile (· == '0')).reverse

def offsetText (offset : Int) : String :=
  if offset = 0 then "Z"
  else
    let sign := if offset < 0 then "-" else "+"
    s!"{sign}{padded 2 (offset.natAbs / 60)}:{padded 2 (offset.natAbs % 60)}"

def text (t : Timestamp) : String :=
  s!"{padded 4 t.year}-{padded 2 t.month}-{padded 2 t.day}T"
    ++ s!"{padded 2 t.hour}:{padded 2 t.minute}:{padded 2 t.second}"
    ++ fractionText t.nanosecond ++ offsetText t.offset

def decode : Decoder Timestamp
  | .str s =>
    match parse? s with
    | some t => .ok t
    | none => .error (.wrongValue (.str s) "an RFC3339-formatted `OffsetDateTime`")
  | v => .error (.wrongType v "an RFC3339-formatted `OffsetDateTime`")

end Timestamp

end ReleaseControl
