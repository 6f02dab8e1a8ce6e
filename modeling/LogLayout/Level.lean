namespace LogLayout

/-- How severe an event is, least severe first. -/
inductive Level where
  | trace
  | debug
  | info
  | warn
  | error
  | fatal
  deriving DecidableEq, Repr, Inhabited

namespace Level

/-- Every level, least severe first. -/
def all : List Level := [.trace, .debug, .info, .warn, .error, .fatal]

/-- The name of a level, in upper case. -/
def name : Level → String
  | .trace => "TRACE"
  | .debug => "DEBUG"
  | .info => "INFO"
  | .warn => "WARN"
  | .error => "ERROR"
  | .fatal => "FATAL"

/-- The name of a level in lower case. -/
def lowerName : Level → String
  | .trace => "trace"
  | .debug => "debug"
  | .info => "info"
  | .warn => "warn"
  | .error => "error"
  | .fatal => "fatal"

/-- The place of a level in the order of severity. -/
def rank : Level → Nat
  | .trace => 0
  | .debug => 1
  | .info => 2
  | .warn => 3
  | .error => 4
  | .fatal => 5

/-- Reads a level name. ASCII letters count the same in both cases, and `WARNING` is a second
spelling of `WARN`. -/
def ofText? (s : String) : Option Level :=
  let upper := String.ofList (s.toList.map Char.toUpper)
  if upper = "WARNING" then some .warn else all.find? (fun l => l.name = upper)

/-- What is said of text that names no level. -/
def unknownMessage (s : String) : String :=
  "Unknown log level: '" ++ s ++ "'"

/-- Levels by severity ascending. -/
def sort (levels : List Level) : List Level :=
  levels.mergeSort (fun a b => a.rank ≤ b.rank)

/-- The most severe of some levels. -/
def highest? (levels : List Level) : Option Level :=
  (sort levels).getLast?

end Level

end LogLayout
