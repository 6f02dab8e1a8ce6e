import LogLayout.Level
import LogLayout.Text.Numeral

namespace LogLayout

/-- How much is shown, least first: all that is at least as severe as the level of the name. -/
inductive Verbosity where
  | off
  | error
  | warn
  | info
  | debug
  | trace
  deriving DecidableEq, Repr

namespace Verbosity

/-- Every verbosity, least first. -/
def all : List Verbosity := [.off, .error, .warn, .info, .debug, .trace]

/-- The name of a verbosity. -/
def name : Verbosity → String
  | .off => "off"
  | .error => "error"
  | .warn => "warn"
  | .info => "info"
  | .debug => "debug"
  | .trace => "trace"

/-- The number of a verbosity, which can be written in place of its name. -/
def rank : Verbosity → Nat
  | .off => 0
  | .error => 1
  | .warn => 2
  | .info => 3
  | .debug => 4
  | .trace => 5

/-- The least severe level that is shown. -/
def threshold? : Verbosity → Option Level
  | .off => none
  | .error => some .error
  | .warn => some .warn
  | .info => some .info
  | .debug => some .debug
  | .trace => some .trace

/-- Whether what has a level is shown. -/
def shows (v : Verbosity) (l : Level) : Bool :=
  v.threshold?.any fun threshold => threshold.rank ≤ l.rank

/-- Reads a verbosity. ASCII letters count the same in both cases. -/
def ofText? (s : String) : Option Verbosity :=
  let lower := String.ofList (s.toList.map Char.toLower)
  ((Text.word? s.toList).bind (all[·]?)).or (all.find? fun v => v.name = lower)

/-- The greatest of some verbosities; of none it is nothing. -/
def greatest (vs : List Verbosity) : Verbosity :=
  vs.foldl (fun a b => if a.rank < b.rank then b else a) .off

end Verbosity

end LogLayout
