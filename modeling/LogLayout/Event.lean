import LogLayout.Dictionary
import LogLayout.Level

namespace LogLayout

/-- One log event. The default event has empty text everywhere and level `INFO`. -/
structure Event where
  /-- The dotted name of the logger that the event was given to. -/
  logger : String := ""
  level : Level := .info
  message : String := ""
  /-- The name of the thread that logged the event. -/
  thread : String := ""
  /-- Diagnostic entries attached to the event. -/
  context : Dictionary String := .empty

namespace Event

instance : Inhabited Event := ⟨{}⟩

/-- The event with another thread name. -/
def withThread (e : Event) (thread : String) : Event :=
  { e with thread := thread }

/-- The event with one context entry set, whatever that key held before. -/
def withContext (e : Event) (key value : String) : Event :=
  { e with context := e.context.insert key value }

/-- Whether every field has its default value. -/
def isDefault (e : Event) : Bool :=
  e.logger = "" && e.level = .info && e.message = "" && e.thread = "" && e.context.isEmpty

end Event

end LogLayout
