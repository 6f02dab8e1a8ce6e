import LogLayout.LogFilter.Directive

namespace LogLayout

/-- What is shown of all that is reported: directives, written with commas between them. The closest
one for a diagnostic decides; besides, what is reported inside of a span is shown where a directive
for the span says so. -/
abbrev LogFilter := List Directive

namespace LogFilter

/-- Warnings and errors, wherever they are reported. -/
def default : LogFilter := [{ verbosity := .warn }]

/-- Reads a filter. Without text, and where a directive is malformed, the default is meant. There
is no filter when a directive before that cannot be cut into its parts. -/
def ofText? : Option String → Option LogFilter
  | none => some default
  | some s =>
    let texts := (Text.segments ',' s.toList).filter (· ≠ [])
    match texts.mapM Directive.ofText with
    | .ok directives => some directives
    | .error .malformed => some default
    | .error .splitCharacter => none

/-- How much is shown of diagnostics like one, wherever they are reported: what the closest
directive says, and of those that are as close the last. -/
def diagnosticVerbosity (filter : LogFilter) (x : Diagnostic) : Verbosity :=
  let closest := (filter.filter (·.coversDiagnostic x)).foldl
    (fun (best : Option Directive) d => if best.all d.isAsCloseAs then some d else best) none
  match closest with
  | some d => d.verbosity
  | none => .off

/-- The directives for spans, without those that a later one for the same place replaces. -/
def forSpans : LogFilter → List Directive
  | [] => []
  | d :: rest =>
    let later := forSpans rest
    if d.isForSpans && !later.any d.samePlace then d :: later else later

/-- How much is shown of what is reported inside of a span. -/
def spanVerbosity (filter : LogFilter) (s : Span) : Verbosity :=
  .greatest ((filter.forSpans.filter (·.coversSpan s)).map (·.verbosity))

/-- How much can be shown at all. The value of a field is known only where it is reported, so a
directive that asks for one rules nothing out. -/
def reach (filter : LogFilter) : Verbosity :=
  if filter.any (·.asksForValue) then .trace else .greatest (filter.map (·.verbosity))

/-- Whether a record is shown. A span that could not be shown itself shows nothing else. -/
def shows (filter : LogFilter) (r : LogRecord) : Bool :=
  (filter.diagnosticVerbosity r.diagnostic).shows r.diagnostic.level ||
    r.spans.any fun s =>
      filter.reach.shows s.level && (filter.spanVerbosity s).shows r.diagnostic.level

/-- The records that are shown. -/
def select (filter : LogFilter) (records : List LogRecord) : List LogRecord :=
  records.filter filter.shows

end LogFilter

end LogLayout
