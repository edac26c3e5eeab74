import ReleaseControl.Json.Basic
import ReleaseControl.Number.Double

/-! # JSON printer

Writes a value as one line of JSON: no blanks, control characters, quotes and backslashes escaped,
doubles with a point or an exponent so that they read back as doubles. -/

namespace ReleaseControl.Json

namespace Printer

def hexDigits : List Char := "0123456789abcdef".toList

def hexDigit (n : Nat) : Char := hexDigits.getD n '0'

/-- How a character stands inside a string. -/
def charText : Char → List Char
  | '"' => ['\\', '"']
  | '\\' => ['\\', '\\']
  | '\n' => ['\\', 'n']
  | '\r' => ['\\', 'r']
  | '\t' => ['\\', 't']
  | c =>
    if c.toNat < 0x20 then ['\\', 'u', '0', '0', hexDigit (c.toNat / 16), hexDigit (c.toNat % 16)]
    else [c]

def stringText (s : String) : String :=
  "\"" ++ String.ofList (s.toList.flatMap charText) ++ "\""

end Printer

mutual
def text : Json → String
  | .null => "null"
  | .bool true => "true"
  | .bool false => "false"
  | .int n => toString n
  | .float bits => Double.jsonText bits
  | .str s => Printer.stringText s
  | .arr items => "[" ++ itemsText items ++ "]"
  | .obj members => "\x7b" ++ membersText members ++ "\x7d"
def itemsText : List Json → String
  | [] => ""
  | [v] => text v
  | v :: rest => text v ++ "," ++ itemsText rest
def membersText : List (String × Json) → String
  | [] => ""
  | [(name, v)] => Printer.stringText name ++ ":" ++ text v
  | (name, v) :: rest => Printer.stringText name ++ ":" ++ text v ++ "," ++ membersText rest
end

end ReleaseControl.Json
