import LogLayout.Event
import LogLayout.FieldWidth

namespace LogLayout

mutual

/-- What writes one piece of an event. The converter `equals` holds chains of its own, so
converters, formatters, chains and substitutions make one tree. -/
inductive Converter where
  /-- Text that does not depend on the event. -/
  | literal (text : String)
  /-- The logger name, or only its last `precision` dotted segments. -/
  | logger (precision : Option Nat)
  | level
  | message
  | thread
  /-- The context entry under `key`, or without a key the whole context. -/
  | context (key : Option String)
  | lineSeparator
  /-- What `test` writes, unless that is exactly `expected`: then the substitution instead. -/
  | equals (test : Chain) (expected : String) (substitution : Substitution)
  /-- A converter from elsewhere: its name, and what it writes for each event. -/
  | custom (name : String) (text : Event → String)

/-- A converter with the width of the field that it writes. -/
structure Formatter where
  converter : Converter
  width : FieldWidth

/-- A compiled pattern: formatters that write one after the other. -/
structure Chain where
  /-- The pattern that the chain was compiled from. -/
  source : String
  formatters : List Formatter

/-- What replaces the text that a test matched. -/
inductive Substitution where
  | literal (text : String)
  | pattern (chain : Chain)

end

instance : Inhabited Converter := ⟨.level⟩
instance : Inhabited Chain := ⟨⟨"", []⟩⟩

namespace Converter

/-- The name of a converter. -/
def name : Converter → String
  | .literal _ => "literal"
  | .logger _ => "logger"
  | .level => "level"
  | .message => "message"
  | .thread => "thread"
  | .context _ => "context"
  | .lineSeparator => "line_separator"
  | .equals .. => "equals"
  | .custom name _ => name

end Converter

namespace Chain

/-- The number of formatters at the top of a chain. -/
def length (c : Chain) : Nat := c.formatters.length

/-- Whether a chain writes nothing because it has no formatters. -/
def isEmpty (c : Chain) : Bool := c.formatters.isEmpty

end Chain

/-- The text that a substitution was made from. -/
def Substitution.source : Substitution → String
  | .literal text => text
  | .pattern chain => chain.source

end LogLayout
