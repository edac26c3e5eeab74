/-! # Backoff

The wait before a retry doubles with every failure: `base · 2^failures` milliseconds, and never
more than `max`. The factor stays at the largest 32-bit word once the power leaves that range. -/

namespace ReleaseControl

/-- A wait in milliseconds as descriptions write it. -/
def millisText (ms : Nat) : String :=
  if ms = 0 then "0ns"
  else if ms < 1000 then s!"{ms}ms"
  else if ms % 1000 = 0 then s!"{ms / 1000}s"
  else
    let ds := Nat.toDigits 10 (ms % 1000)
    let places := List.replicate (3 - ds.length) '0' ++ ds
    s!"{ms / 1000}." ++ String.ofList (places.reverse.dropWhile (· == '0')).reverse ++ "s"

structure Backoff where
  base : Nat
  max : Nat
  deriving DecidableEq, Repr

namespace Backoff

def default : Backoff := ⟨100, 30000⟩

/-- Largest 32-bit word. -/
def maxFactor : Nat := Nat.pow 2 32 - 1

def factor (failures : Nat) : Nat := if failures < 32 then Nat.pow 2 failures else maxFactor

/-- The wait after so many failures, in milliseconds. -/
def delay (b : Backoff) (failures : Nat) : Nat := min (b.base * factor failures) b.max

def description (b : Backoff) : String :=
  s!"Backoff \x7b base: {millisText b.base}, max: {millisText b.max} \x7d"

end Backoff

end ReleaseControl
