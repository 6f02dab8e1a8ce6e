import LogLayout.Converter.Buffer
import LogLayout.Pattern.Compile

namespace LogLayout

/-- A compiled pattern under an identifier. -/
structure Layout where
  id : String
  chain : Chain

instance : Inhabited Layout := ⟨⟨"", default⟩⟩

namespace Layout

/-- The pattern that the layout was compiled from. -/
def pattern (l : Layout) : String := l.chain.source

/-- Compiles a layout. All that is reported meanwhile belongs to the compilation. -/
def compile (registry : Registry) (id pattern : String) : Layout × List LogRecord :=
  let compiled := Pattern.compile registry pattern
  let started := Diagnostic.layoutCompilationStarted id pattern
  let finished := Diagnostic.layoutCompiled id pattern compiled.chain.length
  let span := started.span "layout_compilation"
  (⟨id, compiled.chain⟩,
    (started :: compiled.diagnostics ++ [finished]).map fun diagnostic => ⟨diagnostic, [span]⟩)

/-- Renders an event at the end of a buffer, and reports how many bytes that took. -/
def appendTo (l : Layout) (e : Event) (buffer : String) : String × LogRecord :=
  let extended := l.chain.appendTo e buffer
  (extended, { diagnostic := .eventFormatted l.id (extended.utf8ByteSize - buffer.utf8ByteSize) })

/-- Renders an event by itself. -/
def format (l : Layout) (e : Event) : String × LogRecord := l.appendTo e ""

/-- Renders events by themselves, in order. -/
def formatAll (l : Layout) (events : List Event) : List String × List LogRecord :=
  (events.map l.format).unzip

end Layout

end LogLayout
