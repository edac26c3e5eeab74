import ReleaseControl.Text.Reader

/-! # Hexadecimal digits

Digits of base sixteen in either case, and characters that are written by their code points. -/

namespace ReleaseControl.Text

def hexDigit? (c : Char) : Option Nat :=
  if c.isDigit then some (c.toNat - '0'.toNat)
  else if 'a' ≤ c && c ≤ 'f' then some (c.toNat - 'a'.toNat + 10)
  else if 'A' ≤ c && c ≤ 'F' then some (c.toNat - 'A'.toNat + 10)
  else none

/-- The number that digits write in a base up to sixteen; zero without a digit. -/
def numberOfDigits? (base : Nat) (digits : List Char) : Option Nat :=
  digits.foldlM (fun n c => do
    let d ← hexDigit? c
    if d < base then some (n * base + d) else none) 0

/-- The character with a code point, if there is one. -/
def charOfCode? (code : Nat) : Option Char :=
  if code.isValidChar then some (Char.ofNat code) else none

namespace Reader

/-- The number that the next `n` hexadecimal digits write. -/
def hexNumber (n : Nat) : Reader Nat := do
  let digits := (← get).take n
  if digits.length ≠ n then failure
  modify (·.drop n)
  numberOfDigits? 16 digits

/-- The character whose code point the next `n` hexadecimal digits write. -/
def codePoint (n : Nat) : Reader Char := do charOfCode? (← hexNumber n)

end Reader

end ReleaseControl.Text
