import ReleaseControl.Text.Blank

/-! # Lines of an environment file

A line of an environment file goes on behind a line break that stands between quotes. A comment
ends a line: either the whole line is one, or it starts at a `#` behind exactly one blank. -/

namespace ReleaseControl.EnvFile

/-- Why an environment file cannot be read further. -/
inductive Fault where
  | badLine (line : String) (index : Nat)
  /-- The file is not UTF-8. -/
  | badText
  deriving DecidableEq, Repr

def Fault.message : Fault → String
  | badLine line index => s!"Error parsing line: '{line}', error at line index: {index}"
  | badText => "stream did not contain valid UTF-8"

/-- Where a scan along a line stands. -/
inductive Scan where
  | complete
  | blank
  | escape
  | strong
  | strongEscape
  | weak
  | weakEscape
  | comment
  deriving DecidableEq, Repr

namespace Scan

/-- What a character outside of quotes does. -/
def bare : Char → Scan
  | '\\' => escape
  | '"' => weak
  | '\'' => strong
  | _ => complete

def step : Scan → Char → Scan
  | complete, c => if Text.isBlank c && c != '\n' && c != '\r' then blank else bare c
  | blank, c => bare c
  | escape, _ => complete
  | weak, '\\' => weakEscape
  | weak, '"' => complete
  | weak, _ => weak
  | weakEscape, _ => weak
  | strong, '\\' => strongEscape
  | strong, '\'' => complete
  | strong, _ => strong
  | strongEscape, _ => strong
  | comment, _ => comment

/-- Scans characters; returns how the scan stands at the end, and the characters before a
comment. -/
def along : Scan → List Char → Scan × List Char
  | s, [] => (s, [])
  | blank, '#' :: _ => (comment, [])
  | s, c :: cs =>
    let (last, kept) := along (s.step c) cs
    (last, c :: kept)

end Scan

/-- Drops the line break at the end. -/
def dropBreak (cs : List Char) : List Char :=
  match cs.reverse with
  | '\n' :: '\r' :: rest => rest.reverse
  | '\n' :: rest => rest.reverse
  | _ => cs

/-- Whether a line is a comment as a whole. -/
def isComment (cs : List Char) : Bool := (cs.dropWhile Text.isBlank).head? == some '#'

/-- Puts the lines that belong together into one. A raw line ends with its line break; one that is
not UTF-8 is `none`. The lines before a fault are returned with it. -/
def gather : Scan → List Char → List (Option (List Char)) → List (List Char) × Option Fault
  | s, held, [] =>
    if s = .complete then ([], none)
    else
      let text := String.ofList held
      ([], some (.badLine text text.utf8ByteSize))
  | _, _, none :: _ => ([], some .badText)
  | s, held, some raw :: rest =>
    let all := held ++ raw
    if isComment all then gather .complete [] rest
    else
      match s.along raw with
      | (.complete, _) =>
        let (ls, fault) := gather .complete [] rest
        (dropBreak all :: ls, fault)
      | (.comment, kept) =>
        let (ls, fault) := gather .complete [] rest
        ((held ++ kept) :: ls, fault)
      | (s, _) => gather s all rest

/-- Parts bytes behind every line break. -/
def rawLines : List UInt8 → List (List UInt8)
  | [] => []
  | b :: bs =>
    match rawLines bs with
    | [] => [[b]]
    | l :: ls => if b = 10 then [b] :: l :: ls else (b :: l) :: ls

/-- Drops a byte-order mark at the start. -/
def dropMark : List UInt8 → List UInt8
  | 0xEF :: 0xBB :: 0xBF :: rest => rest
  | bytes => bytes

/-- The lines of a file, up to the first fault. -/
def lines (content : ByteArray) : List (List Char) × Option Fault :=
  gather .complete [] <| (rawLines (dropMark content.toList)).map fun line =>
    (String.fromUTF8? ⟨line.toArray⟩).map String.toList

end ReleaseControl.EnvFile
