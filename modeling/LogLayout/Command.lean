import LogLayout.Config.Load
import LogLayout.Layout.Store
import LogLayout.LogFilter
import LogLayout.Stream

namespace LogLayout.Command

/-- The name of the program. -/
def programName : String := "pattern-equals"

/-- How the program is called. -/
def usage : String :=
  s!"Usage: {programName} <config.yaml|config.toml> [events.jsonl]\n" ++
    "Reads JSON-lines events from the file, or stdin when omitted.\n" ++
    s!"Example: {programName} configs/redaction.yaml configs/events.jsonl\n"

/-- Why a run fails. -/
inductive Failure where
  /-- The arguments are not a configuration file and at most one file of events. -/
  | usage
  | config (path : String) (error : ConfigError)
  /-- The file of events cannot be opened. -/
  | eventsNotOpened (path : String) (fault : ReadFault)
  /-- The file of events was opened, and cannot be read. -/
  | eventsNotRead (fault : ReadFault)
  | stream (failure : Stream.Failure)
  /-- The log filter cannot be cut into its parts. -/
  | filterNotCut

/-- The failure in words; an error that passes another one on is followed by it. Of a filter that
cannot be cut nothing is said. -/
def Failure.message : Failure → String
  | .usage => Command.usage
  | .config path error =>
    let cause := match error.cause? with
      | some cause => ": " ++ cause
      | none => ""
    s!"❌ Failed to load configuration '{path}': " ++ error.message ++ cause ++ "\n"
  | .eventsNotOpened path fault =>
    s!"❌ Failed to open events file '{path}': " ++ fault.message ++ "\n"
  | .eventsNotRead fault => "❌ " ++ fault.message ++ "\n"
  | .stream failure => "❌ " ++ failure.message ++ "\n"
  | .filterNotCut => ""

/-- What came of a run. -/
structure Outcome where
  output : List UInt8 := []
  failure : Option Failure := none
  records : List LogRecord := []

/-- The exit code of a run. -/
def Outcome.exitCode (o : Outcome) : Nat :=
  match o.failure with
  | none => 0
  | some .filterNotCut => 101
  | some _ => 1

/-- What a run can read. -/
structure Source (m : Type → Type) where
  file : String → m (Except ReadFault (List UInt8))
  standardInput : m (List UInt8)

/-- Reads the events that are asked for. A directory can be opened, but not read. -/
def readEvents {m : Type → Type} [Monad m] (source : Source m) (path : Option String) :
    m (Except Failure (List UInt8)) := do
  match path with
  | none => return .ok (← source.standardInput)
  | some path =>
    match ← source.file path with
    | .ok bytes => return .ok bytes
    | .error .isDirectory => return .error (.eventsNotRead .isDirectory)
    | .error fault => return .error (.eventsNotOpened path fault)

/-- Renders events with the layouts of a configuration, in its order. -/
def renderEvents (layouts : List Layout) (events : Except Failure (List UInt8)) : Outcome :=
  match events with
  | .error failure => { failure := some failure }
  | .ok bytes =>
    let o := Stream.render layouts none bytes
    match o.result with
    | .error failure =>
      { output := o.output, failure := some (.stream failure), records := o.records }
    | .ok summary =>
      { output := o.output
        records := o.records ++
          [{ diagnostic := .eventStreamCompleted summary.rendered summary.skipped }] }

/-- Runs the program on its arguments. -/
def run {m : Type → Type} [Monad m] (source : Source m) (args : List String) : m Outcome := do
  match args with
  | [path] | [path, _] =>
    let (config, diagnostics) := Config.ofFileChecked path (← source.file path)
    match config with
    | .error error =>
      return {
        failure := some (.config path error)
        records := diagnostics.map ({ diagnostic := · }) }
    | .ok config =>
      let (store, records) := LayoutStore.ofConfig .builtins config
      let outcome := renderEvents (store.inOrder config) (← readEvents source args[1]?)
      return { outcome with records := records ++ outcome.records }
  | _ => return { failure := some .usage }

/-- Runs the program on its arguments with the text of a log filter. The records of the outcome
are those that are shown; without a filter nothing is done at all. -/
def runFiltered {m : Type → Type} [Monad m] (source : Source m) (filter : Option String)
    (args : List String) : m Outcome := do
  match LogFilter.ofText? filter with
  | none => return { failure := some .filterNotCut }
  | some filter =>
    let outcome ← run source args
    return { outcome with records := filter.select outcome.records }

end LogLayout.Command
