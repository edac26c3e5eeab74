import ReleaseControl.Toml.Number
import ReleaseControl.Toml.Table

/-! # TOML reader

Reads a TOML document as a JSON object. A document is a list of lines: headers, which choose the
table that the following lines fill, and keys with their values. -/

namespace ReleaseControl.Toml

open Text (Reader)
open Text.Reader

/-! ## Values -/

/-- How deep arrays and tables written as values may lie in each other. -/
def maxDepth : Nat := 80

/-- Takes blanks, comments and line breaks up to the next character that counts. -/
def skipToNext : Reader Unit := do skipLines ((← get).length + 1)

mutual
/-- A value at a depth: as many brackets and braces as may still be opened. -/
def value : Nat → Nat → Reader Json
  | 0, _ => failure
  | fuel + 1, depth => do
    if ← skip "[" then
      match depth with
      | 0 => failure
      | depth + 1 => return .arr (← items fuel depth)
    if ← skip "\x7b" then
      match depth with
      | 0 => failure
      | depth + 1 => return (← inlineTable fuel depth .root).toJson
    match ← string? with
    | some s => return .str s
    | none =>
      if ← skip "true" then return .bool true
      if ← skip "false" then return .bool false
      let cs ← get
      if startsDate cs || startsTime cs then dateTime else number

/-- The items of an array up to its bracket; a comma may follow the last one. -/
def items : Nat → Nat → Reader (List Json)
  | 0, _ => failure
  | fuel + 1, depth => do
    skipToNext
    if ← skip "]" then return []
    let v ← value fuel depth
    skipToNext
    if ← skip "," then return v :: (← items fuel depth)
    expect "]"
    return [v]

/-- The keys of a table written as a value, up to its brace; a comma may follow the last one. -/
def inlineTable : Nat → Nat → Table → Reader Table
  | 0, _, _ => failure
  | fuel + 1, depth, t => do
    skipToNext
    if ← skip "\x7d" then return t
    let name ← key
    expect "="
    skipBlanks
    let v ← value fuel depth
    skipToNext
    match t.setKey name v with
    | none => failure
    | some t =>
      if ← skip "," then inlineTable fuel depth t
      else
        expect "\x7d"
        return t
end

/-! ## Documents -/

/-- What has been read: all tables, and the path of the one that is being filled. -/
structure Progress where
  root : Table
  path : List String

/-- Reads one line that is not blank. -/
def line (p : Progress) : Reader Progress := do
  let next ← if ← skip "[[" then
      let path ← key
      expect "]]"
      pure ((p.root.addElement path).map fun root => ⟨root, path⟩)
    else if ← skip "[" then
      let path ← key
      expect "]"
      pure ((p.root.openTable path).map fun root => ⟨root, path⟩)
    else
      let name ← key
      expect "="
      skipBlanks
      let v ← value ((← get).length + 1) maxDepth
      pure ((p.root.alter false (Table.setKey name v) p.path).map fun root => { p with root })
  lineEnd
  match next with
  | some p => return p
  | none => failure

/-- Reads lines up to the end; `fuel` bounds their number. -/
def lines : Nat → Progress → Reader Table
  | 0, _ => failure
  | fuel + 1, p => do
    skipToNext
    skipBlanks
    if (← peek?).isNone then return p.root
    lines fuel (← line p)

/-- The object of a whole document, if the text is one. A byte-order mark may stand in front. -/
def read? (text : String) : Option Json := do
  let cs := match text.toList with
    | '\ufeff' :: rest => rest
    | cs => cs
  let (t, _) ← (lines (cs.length + 1) ⟨.root, []⟩).run cs
  return t.toJson

end ReleaseControl.Toml
