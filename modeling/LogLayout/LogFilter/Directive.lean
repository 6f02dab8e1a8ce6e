import LogLayout.LogFilter.FieldTest
import LogLayout.LogFilter.Verbosity
import LogLayout.Text.Alphanumeric
import LogLayout.Text.Blank
import LogLayout.Text.Offset

namespace LogLayout

/-- A directive of a log filter: how much is shown of what is reported under a path, in spans of a
name, or where there is a field. The path comes first, then the span and the field in brackets, and
the verbosity after an equals sign; all of them can be missing, and a verbosity can stand alone. -/
structure Directive where
  /-- How the paths start that it is for; every path without one. -/
  path : Option String := none
  /-- The name of the spans that it is for. -/
  span : Option String := none
  field : Option FieldTest := none
  verbosity : Verbosity := .trace
  deriving DecidableEq, Repr

/-- Why text is no directive. -/
inductive DirectiveFault where
  | malformed
  /-- A part would start or end inside a character. -/
  | splitCharacter
  deriving DecidableEq, Repr

namespace Directive

/-- The part of text from one byte offset to another. -/
def part (text : List Char) (start stop : Nat) : Except DirectiveFault String :=
  match Text.cutAt? start text with
  | none => .error .splitCharacter
  | some (_, rest) =>
    match Text.cutAt? (stop - start) rest with
    | none => .error .splitCharacter
    | some (inner, _) => .ok (String.ofList inner)

/-- The part of text from a byte offset on. -/
def partFrom (text : List Char) (start : Nat) : Except DirectiveFault String :=
  part text start (Text.byteSize text)

/-- The first of some characters, with its byte offset and what follows it. The text starts at
`offset`. -/
def find? (stops : List Char) (offset : Nat) : List Char → Option (Char × Nat × List Char)
  | [] => none
  | c :: rest =>
    if stops.contains c then some (c, offset, rest) else find? stops (offset + c.utf8Size) rest

/-- Reads the verbosity that starts at an offset. Nothing there shows everything. -/
def readVerbosity (text : List Char) (start : Nat) : Except DirectiveFault Verbosity := do
  let s ← partFrom text start
  if s = "" then return .trace
  match Verbosity.ofText? s with
  | some v => return v
  | none => throw .malformed

/-- Reads what follows the closing bracket, which ends at an offset. -/
def readAfterBracket (text : List Char) (offset : Nat) :
    List Char → Except DirectiveFault Verbosity
  | [] => return .trace
  | '=' :: _ => readVerbosity text (offset + 1)
  | _ => throw .malformed

/-- Reads on after the opening bracket, which ends at an offset: the name of a span, a field in
braces, or both. -/
def readBrackets (text : List Char) (path : Option String) (offset : Nat) (rest : List Char) :
    Except DirectiveFault Directive := do
  match find? [']', '{'] offset rest with
  | none => throw .malformed
  | some (sign, stop, rest) =>
    let span ← part text offset stop
    if sign = ']' then
      return { path, span, verbosity := ← readAfterBracket text (stop + 1) rest }
    match find? ['}'] (stop + 1) rest with
    | none => throw .malformed
    | some (_, close, rest) =>
      match FieldTest.ofText? (← part text (stop + 1) close), rest with
      | some field, ']' :: rest =>
        return {
          path, span := if span = "" then none else some span, field
          verbosity := ← readAfterBracket text (close + 2) rest }
      | _, _ => throw .malformed

/-- Whether a character can start a directive without brackets. -/
def canStart (c : Char) : Bool :=
  c = '-' || c = ':' || c = '_' || Text.isAlphanumeric c

/-- Reads a directive. White space around it is passed over for finding its signs, but not for
cutting it: the parts are those between the same offsets of the whole text. -/
def ofText (text : List Char) : Except DirectiveFault Directive := do
  match Text.trimChars text with
  | [] => throw .malformed
  | '[' :: rest => readBrackets text none 1 rest
  | c :: rest =>
    if !canStart c then throw .malformed
    match find? ['=', '['] 0 (c :: rest) with
    | none =>
      let s := String.ofList text
      return match Verbosity.ofText? s with
        | some verbosity => { verbosity }
        | none => { path := some s }
    | some (sign, stop, rest) =>
      let path ← part text 0 stop
      if sign = '=' then
        return { path := some path, verbosity := ← readVerbosity text (stop + 1) }
      readBrackets text (some path) (stop + 1) rest

/-- Whether a directive is for a path. -/
def coversPath (d : Directive) (path : String) : Bool :=
  d.path.all fun start => start.toList.isPrefixOf path.toList

/-- Whether a directive asks for the value of a field. -/
def asksForValue (d : Directive) : Bool :=
  d.field.any fun test => test.value.isSome

/-- Whether a directive can be for diagnostics wherever they are reported. -/
def isForDiagnostics (d : Directive) : Bool :=
  d.span.isNone && !d.asksForValue

/-- Whether a directive can be for spans and all that is reported in them. -/
def isForSpans (d : Directive) : Bool :=
  d.span.isSome || d.field.isSome

/-- Whether a directive is for a diagnostic. -/
def coversDiagnostic (d : Directive) (x : Diagnostic) : Bool :=
  d.isForDiagnostics && d.coversPath x.path &&
    d.field.all fun test => x.fieldNames.contains test.name

/-- Whether a directive is for a span. -/
def coversSpan (d : Directive) (s : Span) : Bool :=
  d.isForSpans && d.coversPath s.path && d.span.all (· = s.name) &&
    d.field.all fun test => test.passes s.fields

/-- Whether two directives are for the same place. -/
def samePlace (d e : Directive) : Bool :=
  d.path = e.path && d.span = e.span && d.field = e.field

/-- How much of a path a directive gives. -/
def pathReach (d : Directive) : Nat :=
  match d.path with
  | none => 0
  | some start => start.utf8ByteSize + 1

/-- Whether the first of two directives for the same diagnostic is at least as close to it as the
second. The longer path is closer, then a field, and then the later name of a field. -/
def isAsCloseAs (d e : Directive) : Bool :=
  if d.pathReach = e.pathReach then
    match d.field, e.field with
    | _, none => true
    | none, some _ => false
    | some test, some other => !(test.name < other.name)
  else e.pathReach < d.pathReach

end Directive

end LogLayout
