import ReleaseControl.Assoc
import ReleaseControl.Log.Pattern
import ReleaseControl.Number.Plain
import ReleaseControl.Text.Alphanumeric
import ReleaseControl.Text.Blank
import ReleaseControl.Text.Split

/-! # Log filters

A log filter is a list of directives. A directive gives a level, for lines of one target or of all;
a target stands for all targets that start with it. It may also ask for fields of a line. Of the
directives that apply to a line the one decides that says most closely what it is meant for, and of
equal ones the last. -/

namespace ReleaseControl

inductive LogLevel where
  | off
  | error
  | warn
  | info
  | debug
  | trace
  deriving DecidableEq, Repr

namespace LogLevel

/-- How much a level lets through. -/
def rank : LogLevel → Nat
  | off => 0
  | error => 1
  | warn => 2
  | info => 3
  | debug => 4
  | trace => 5

/-- All levels, in the order of their ranks. -/
def all : List LogLevel := [off, error, warn, info, debug, trace]

/-- The names of the levels. -/
def known : List (String × LogLevel) :=
  [("off", off), ("error", error), ("warn", warn), ("info", info), ("debug", debug),
    ("trace", trace)]

/-- The level of a rank or of a name in any case. -/
def ofText? (text : String) : Option LogLevel :=
  match (Plain.word? text).bind fun rank => all[rank]? with
  | some level => some level
  | none => Assoc.get? text.toLower known

end LogLevel

/-- An entry of the log. -/
structure LogLine where
  target : String
  level : LogLevel
  message : String
  fields : List (String × String)
  deriving DecidableEq, Repr

/-- The message and the fields behind it. -/
def LogLine.text (l : LogLine) : String :=
  String.join (l.message :: l.fields.map fun f => s!" {f.1}={f.2}")

/-- The lines that the text is written in. A line ends at a line feed, which may have a carriage
return in front. -/
def LogLine.lines (l : LogLine) : List String :=
  (Text.split '\n' l.text.toList).map fun cs =>
    String.ofList (if cs.getLast? == some '\r' then cs.dropLast else cs)

/-! ## Directives -/

/-- What a directive asks of a field: that it is there, or also that it has a value. -/
structure FieldTest where
  name : String
  hasValue : Bool
  deriving DecidableEq, Repr

structure Directive where
  target : Option String
  /-- The name of a span that has to surround a line. -/
  span : Option String
  fields : List FieldTest
  level : LogLevel
  deriving DecidableEq, Repr

namespace FieldTest

/-- Whether a text can stand for a value: a truth value, a number or a pattern. -/
def isValue (text : String) : Bool :=
  (Plain.double? text).isSome || Pattern.isPattern text

/-- Reads the name of a field and, behind an equals sign, a value. -/
def parse? (text : String) : Option FieldTest :=
  if text.isEmpty then none
  else
    match Text.splitText '=' text with
    | name :: value :: _ => if isValue value then some ⟨name, true⟩ else none
    | _ => some ⟨text, false⟩

end FieldTest

namespace Directive

/-- Where the reading of a directive stands; a word that is being read starts at `start`. -/
inductive Stage where
  | fresh
  | levelOrTarget (start : Nat)
  | span (start : Nat)
  | field (start : Nat)
  | fieldsEnd
  | targetEnd
  | level (start : Nat)
  deriving DecidableEq, Repr

/-- The directive that says nothing yet. -/
def new : Directive := ⟨none, none, [], .trace⟩

def isTargetStart (c : Char) : Bool :=
  c == '-' || c == ':' || c == '_' || Text.isAlphanumeric c

/-- Reads the character at place `i`. `word` gives the text between two places. -/
def step (word : Nat → Nat → String) (i : Nat) (c : Char) (d : Directive) :
    Stage → Option (Directive × Stage)
  | .fresh =>
    if c == '[' then some (d, .span (i + 1))
    else if isTargetStart c then some (d, .levelOrTarget i)
    else none
  | .levelOrTarget start =>
    if c == '=' then some ({ d with target := some (word start i) }, .level (i + 1))
    else if c == '[' then some ({ d with target := some (word start i) }, .span (i + 1))
    else some (d, .levelOrTarget start)
  | .span start =>
    if c == ']' then some ({ d with span := some (word start i) }, .targetEnd)
    else if c == '\x7b' then
      let span := if (word start i).isEmpty then none else some (word start i)
      some ({ d with span }, .field (i + 1))
    else some (d, .span start)
  | .field start =>
    if c == '\x7d' then
      (FieldTest.parse? (word start i)).map fun f =>
        ({ d with fields := d.fields ++ [f] }, .fieldsEnd)
    else some (d, .field start)
  | .fieldsEnd => if c == ']' then some (d, .targetEnd) else none
  | .targetEnd => if c == '=' then some (d, .level (i + 1)) else none
  | .level start => some (d, .level start)

def steps (word : Nat → Nat → String) (d : Directive) (stage : Stage) :
    Nat → List Char → Option (Directive × Stage)
  | _, [] => some (d, stage)
  | i, c :: cs => do
    let (d, stage) ← step word i c d stage
    steps word d stage (i + 1) cs

/-- The directive at the end of the text, where `last` gives the last word. -/
def finish (last : Nat → String) (d : Directive) : Stage → Option Directive
  | .levelOrTarget start =>
    match LogLevel.ofText? (last start) with
    | some level => some { d with level }
    | none => some { d with target := some (last start) }
  | .level start =>
    if (last start).isEmpty then some d
    else (LogLevel.ofText? (last start)).map fun level => { d with level }
  | .targetEnd => some d
  | _ => none

/-- Reads a directive: a level alone, or a target, a span and fields in brackets or both, and a
level behind an equals sign. Places are counted in the text without the blanks around it, but the
words are taken from those places in the whole text. -/
def parse? (text : String) : Option Directive := do
  let cs := text.toList
  let trimmed := ((cs.dropWhile Text.isBlank).reverse.dropWhile Text.isBlank).reverse
  let word := fun start stop => String.ofList ((cs.drop start).take (stop - start))
  let (d, stage) ← steps word new .fresh 0 trimmed
  finish (fun start => String.ofList (cs.drop start)) d stage

/-- Whether the directive is meant for a line. Log lines stand in no span, and none has a field of
a given value; the message of a line is a field too. -/
def applies (l : LogLine) (d : Directive) : Bool :=
  d.span.isNone && d.target.all (fun t => l.target.startsWith t)
    && d.fields.all fun f =>
      !f.hasValue && (f.name == "message" || Assoc.contains f.name l.fields)

/-- How closely a directive says what it is meant for: by the length of its target, the number of
its fields, and at last by their texts. -/
def compareWeight (a b : Directive) : Ordering :=
  let weight := fun (d : Directive) => d.target.elim 0 fun t => t.utf8ByteSize + 1
  (compare (weight a) (weight b)).then <|
    (compare a.fields.length b.fields.length).then <|
      (compare (a.target.getD "") (b.target.getD "")).then <|
        compare (a.fields.map (·.name)) (b.fields.map (·.name))

/-- The directive of the greatest weight, the last of equals. -/
def heaviest? (ds : List Directive) : Option Directive :=
  ds.foldl (fun best d =>
    match best with
    | some b => if (compareWeight b d).isLE then some d else some b
    | none => some d) none

end Directive

structure LogFilter where
  directives : List Directive
  deriving DecidableEq, Repr

namespace LogFilter

/-- The filter that lets through lines down to a level. -/
def ofLevel (level : LogLevel) : LogFilter := ⟨[⟨none, none, [], level⟩]⟩

/-- Whether a filter lets a line through. -/
def allows (f : LogFilter) (l : LogLine) : Bool :=
  (Directive.heaviest? (f.directives.filter (·.applies l))).any fun d =>
    l.level.rank ≤ d.level.rank

/-- Reads directives with commas between them; without any only errors are let through. -/
def parse? (text : String) : Option LogFilter := do
  let parts := (Text.splitText ',' text).filter fun part => !part.isEmpty
  let directives ← parts.mapM Directive.parse?
  return if directives.isEmpty then ofLevel .error else ⟨directives⟩

end LogFilter

end ReleaseControl
