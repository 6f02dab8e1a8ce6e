import LogLayout.Command

namespace LogLayout.Command

/-- The reason of a failed reading. -/
def readFault (error : IO.Error) : ReadFault :=
  match error with
  | .noFileOrDirectory .. => .notFound
  | .inappropriateType .. => .isDirectory
  | error => .other (toString error)

/-- Files of the system and standard input. -/
def systemSource : Source IO where
  file path := do
    match ← (IO.FS.readBinFile path).toBaseIO with
    | .ok bytes => return .ok bytes.toList
    | .error error => return .error (readFault error)
  standardInput := do
    return (← (← IO.getStdin).readBinToEnd).toList

/-- A record as one line of the log. -/
def logLine (r : LogRecord) : String :=
  r.diagnostic.level.name ++ " " ++ r.diagnostic.text

end LogLayout.Command

open LogLayout in
/-- Runs the program. Events go to standard output, all else to standard error. -/
def main (args : List String) : IO UInt32 := do
  let filter ← IO.getEnv "RUST_LOG"
  let outcome ← Command.runFiltered Command.systemSource filter args
  for r in outcome.records do
    IO.eprintln (Command.logLine r)
  (← IO.getStdout).write ⟨outcome.output.toArray⟩
  if let some failure := outcome.failure then
    IO.eprint failure.message
  return UInt32.ofNat outcome.exitCode
