import ReleaseControl.Text.Invisible

/-! # Quoted text

How a message quotes a text: between double quotes, with quotes, backslashes and the usual blanks
escaped and every other character that would not show written by its code, `\u` and the
hexadecimal digits in braces. -/

namespace ReleaseControl.Text

/-- The code of a character in lower-case hexadecimal. -/
def codeText (c : Char) : List Char :=
  '\\' :: 'u' :: '\x7b' :: (Nat.toDigits 16 c.toNat ++ ['\x7d'])

/-- How one character stands inside a quoted text. -/
def quotedChar : Char → List Char
  | '\x00' => ['\\', '0']
  | '\t' => ['\\', 't']
  | '\r' => ['\\', 'r']
  | '\n' => ['\\', 'n']
  | '"' => ['\\', '"']
  | '\\' => ['\\', '\\']
  | c =>
    if c.toNat < 0x80 then if c.toNat < 0x20 || c.toNat == 0x7F then codeText c else [c]
    else if isInvisible c then codeText c else [c]

/-- The text between quotes. -/
def quoted (s : String) : String :=
  "\"" ++ String.ofList (s.toList.flatMap quotedChar) ++ "\""

end ReleaseControl.Text
