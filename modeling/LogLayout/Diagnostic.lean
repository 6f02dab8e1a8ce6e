import LogLayout.ConverterError
import LogLayout.Level

namespace LogLayout

/-- The value of a named field. -/
inductive FieldValue where
  | text (s : String)
  | number (n : Nat)
  deriving DecidableEq, Repr

/-- One thing that is reported. -/
inductive Diagnostic where
  /-- A specifier became a converter. -/
  | converterCreated (key converter : String) (optionCount : Nat)
  /-- A specifier at a byte position was refused, and stays as the text that it is. -/
  | converterCreationFailed (key : String) (position : Nat) (error : String)
  /-- A specifier at a byte position names no converter, and stays as the text that it is. -/
  | unrecognizedSpecifier (specifier : String) (position : Nat)
  | layoutCompilationStarted (layoutId pattern : String)
  | layoutCompiled (layoutId pattern : String) (formatterCount : Nat)
  /-- A layout rendered an event; the size is in bytes. -/
  | eventFormatted (layoutId : String) (outputSize : Nat)
  /-- A line of a stream is not an event; lines count from one. -/
  | eventDecodeFailed (lineNumber : Nat) (error : String)
  | eventStreamCompleted (rendered skipped : Nat)
  | duplicateLayoutId (layoutId : String)
  | emptyLayoutId (index : Nat)
  | emptyPattern (layoutId : String)
  | noLayoutsConfigured
  deriving DecidableEq, Repr

/-- A named piece of work that diagnostics can belong to. -/
structure Span where
  name : String
  level : Level
  fields : List (String × FieldValue)
  deriving DecidableEq, Repr

namespace Diagnostic

/-- How severe a diagnostic is. -/
def level : Diagnostic → Level
  | .converterCreated .. => .debug
  | .converterCreationFailed .. => .error
  | .unrecognizedSpecifier .. => .error
  | .layoutCompilationStarted .. => .debug
  | .layoutCompiled .. => .debug
  | .eventFormatted .. => .trace
  | .eventDecodeFailed .. => .warn
  | .eventStreamCompleted .. => .info
  | .duplicateLayoutId .. => .error
  | .emptyLayoutId .. => .error
  | .emptyPattern .. => .error
  | .noLayoutsConfigured => .error

/-- What is reported, in words. -/
def text : Diagnostic → String
  | .converterCreated key converter optionCount =>
    s!"Created converter '{converter}' for specifier '%{key}' with {optionCount} option(s)"
  | .converterCreationFailed key position error =>
    s!"Failed to create converter '%{key}' at position {position}: {error}"
  | .unrecognizedSpecifier specifier position =>
    if specifier = "" then s!"Empty conversion specifier starting at position {position}"
    else s!"Unrecognized conversion specifier [{specifier}] starting at position {position}"
  | .layoutCompilationStarted layoutId pattern =>
    s!"Compiling layout '{layoutId}': pattern=\"{pattern}\""
  | .layoutCompiled layoutId pattern formatterCount =>
    s!"Layout '{layoutId}' compiled: pattern=\"{pattern}\", formatters={formatterCount}"
  | .eventFormatted layoutId outputSize =>
    s!"Layout '{layoutId}' rendered event: output={outputSize} bytes"
  | .eventDecodeFailed lineNumber error =>
    s!"Skipping line {lineNumber}: not a valid event: {error}"
  | .eventStreamCompleted rendered skipped =>
    s!"Rendered {rendered} event(s), skipped {skipped}"
  | .duplicateLayoutId layoutId => s!"Duplicate layout ID '{layoutId}'"
  | .emptyLayoutId index => s!"Layout at index {index} has an empty ID"
  | .emptyPattern layoutId => s!"Layout '{layoutId}' has an empty pattern"
  | .noLayoutsConfigured => "Configuration defines no layouts"

/-- What is reported, without the reason that a decoder gave. -/
def summary : Diagnostic → String
  | .eventDecodeFailed lineNumber _ => s!"Skipping line {lineNumber}: not a valid event"
  | d => d.text

/-- The named fields of a diagnostic, without the reason that a decoder gave. -/
def fields : Diagnostic → List (String × FieldValue)
  | .converterCreated key converter optionCount =>
    [("key", .text key), ("converter", .text converter), ("option_count", .number optionCount)]
  | .converterCreationFailed key position error =>
    [("key", .text key), ("position", .number position), ("error", .text error)]
  | .unrecognizedSpecifier specifier position =>
    [("specifier", .text specifier), ("position", .number position)]
  | .layoutCompilationStarted layoutId pattern =>
    [("layout_id", .text layoutId), ("pattern", .text pattern)]
  | .layoutCompiled layoutId pattern formatterCount =>
    [("layout_id", .text layoutId), ("pattern", .text pattern),
      ("formatter_count", .number formatterCount)]
  | .eventFormatted layoutId outputSize =>
    [("layout_id", .text layoutId), ("output_size", .number outputSize)]
  | .eventDecodeFailed lineNumber _ => [("line_number", .number lineNumber)]
  | .eventStreamCompleted rendered skipped =>
    [("rendered", .number rendered), ("skipped", .number skipped)]
  | .duplicateLayoutId layoutId => [("layout_id", .text layoutId)]
  | .emptyLayoutId index => [("index", .number index)]
  | .emptyPattern layoutId => [("layout_id", .text layoutId)]
  | .noLayoutsConfigured => []

/-- The names of the fields of a diagnostic, its text among them. -/
def fieldNames : Diagnostic → List String
  | .eventDecodeFailed .. => ["message", "line_number", "error"]
  | d => "message" :: d.fields.map (·.1)

/-- The kind of work that a diagnostic belongs to. -/
def area : Diagnostic → String
  | .converterCreated .. | .converterCreationFailed .. | .unrecognizedSpecifier .. => "converter"
  | .layoutCompilationStarted .. | .layoutCompiled .. | .eventFormatted .. => "layout"
  | .eventDecodeFailed .. | .eventStreamCompleted .. => "input"
  | .duplicateLayoutId .. | .emptyLayoutId .. | .emptyPattern .. | .noLayoutsConfigured =>
    "validation"

/-- The fields that identify the work that a diagnostic belongs to: those known when the work
starts, not its outcome. -/
def identity : Diagnostic → List (String × FieldValue)
  | .converterCreated key converter _ => [("key", .text key), ("converter", .text converter)]
  | .converterCreationFailed key position _ =>
    [("key", .text key), ("position", .number position)]
  | .layoutCompiled layoutId pattern _ =>
    [("layout_id", .text layoutId), ("pattern", .text pattern)]
  | .eventFormatted layoutId _ => [("layout_id", .text layoutId)]
  | .eventStreamCompleted rendered _ => [("rendered", .number rendered)]
  | d => d.fields

/-- The span of a diagnostic, under a name given by its user. -/
def span (d : Diagnostic) (spanName : String) : Span :=
  ⟨d.area, d.level, d.identity ++ [("span_name", .text spanName)]⟩

end Diagnostic

/-- The path of an area of work in log filters, where reading input goes with the layouts that it
is read for. -/
def areaPath (area : String) : String :=
  "pattern_equals::observability::messages::" ++ if area = "input" then "layout" else area

/-- The path of a diagnostic in log filters. -/
def Diagnostic.path (d : Diagnostic) : String := areaPath d.area

/-- The path of a span in log filters. -/
def Span.path (s : Span) : String := areaPath s.name

/-- A diagnostic with the spans that were open when it was reported, outermost first. -/
structure LogRecord where
  diagnostic : Diagnostic
  spans : List Span := []
  deriving DecidableEq, Repr

/-- The records that are at least as severe as `threshold`. -/
def LogRecord.atLeast (threshold : Level) (records : List LogRecord) : List LogRecord :=
  records.filter (fun r => threshold.rank ≤ r.diagnostic.level.rank)

end LogLayout
