/-! # UTF-8 with goodwill

Reads bytes as UTF-8 text where every fault counts as one replacement character: a byte that
starts no character, and the longest start of a character that is not completed. -/

namespace ReleaseControl.Text.Utf8

/-- A character whose first bytes have been read. -/
structure Pending where
  /-- The bits read so far. -/
  code : Nat
  /-- How many bytes are missing. -/
  missing : Nat
  /-- The bounds of the next byte. -/
  low : UInt8
  high : UInt8
  deriving DecidableEq, Repr

/-- What the first byte of a character of several bytes starts. -/
def Pending.ofLead? (b : UInt8) : Option Pending :=
  if 0xC2 ≤ b ∧ b ≤ 0xDF then some ⟨(b &&& 0x1F).toNat, 1, 0x80, 0xBF⟩
  else if 0xE0 ≤ b ∧ b ≤ 0xEF then
    some ⟨(b &&& 0x0F).toNat, 2, if b = 0xE0 then 0xA0 else 0x80, if b = 0xED then 0x9F else 0xBF⟩
  else if 0xF0 ≤ b ∧ b ≤ 0xF4 then
    some ⟨(b &&& 0x07).toNat, 3, if b = 0xF0 then 0x90 else 0x80, if b = 0xF4 then 0x8F else 0xBF⟩
  else none

/-- What stands for bytes that are no character. -/
def replacement : Char := '\ufffd'

/-- A byte between characters. -/
def first (b : UInt8) : List Char × Option Pending :=
  if b < 0x80 then ([Char.ofNat b.toNat], none)
  else
    match Pending.ofLead? b with
    | some p => ([], some p)
    | none => ([replacement], none)

/-- A byte: the characters that it completes or breaks off, and what is pending behind it. -/
def step : Option Pending → UInt8 → List Char × Option Pending
  | none, b => first b
  | some p, b =>
    if p.low ≤ b ∧ b ≤ p.high then
      let code := p.code * 64 + (b &&& 0x3F).toNat
      if p.missing = 1 then ([Char.ofNat code], none)
      else ([], some ⟨code, p.missing - 1, 0x80, 0xBF⟩)
    else
      let (cs, p) := first b
      (replacement :: cs, p)

def decodeFrom : Option Pending → List UInt8 → List Char
  | none, [] => []
  | some _, [] => [replacement]
  | p, b :: bs =>
    let (cs, p) := step p b
    cs ++ decodeFrom p bs

/-- The text of some bytes. -/
def decode (bytes : ByteArray) : String := String.ofList (decodeFrom none bytes.toList)

end ReleaseControl.Text.Utf8
