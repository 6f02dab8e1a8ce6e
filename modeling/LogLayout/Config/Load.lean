import LogLayout.Config.Format
import LogLayout.Config.Problem
import LogLayout.Config.Toml
import LogLayout.Config.Yaml
import LogLayout.Files
import LogLayout.Text.Utf8

namespace LogLayout

/-- Why there is no configuration. -/
inductive ConfigError where
  /-- The file cannot be read. -/
  | unreadable (fault : ReadFault)
  | notText
  | invalidYaml
  | invalidToml
  /-- The configuration was read, and is refused. -/
  | invalid (problems : List Problem)
  deriving DecidableEq, Repr

namespace ConfigError

/-- What lies behind the error, for an error that passes one on. -/
def cause? : ConfigError → Option String
  | .unreadable fault => some fault.message
  | .notText => some "stream did not contain valid UTF-8"
  | _ => none

/-- The error in words. -/
def message (e : ConfigError) : String :=
  match e with
  | .unreadable _ | .notText => "Failed to read configuration: " ++ e.cause?.getD ""
  | .invalidYaml => "Invalid YAML configuration"
  | .invalidToml => "Invalid TOML configuration"
  | .invalid problems =>
    "Configuration validation failed:\n" ++ "\n".intercalate (problems.map Problem.text)

end ConfigError

namespace Config

/-- A configuration from text. -/
def ofText (format : ConfigFormat) (s : String) : Except ConfigError Config :=
  match format with
  | .yaml => match ofYaml? s with
    | some c => .ok c
    | none => .error .invalidYaml
  | .toml => match ofToml? s with
    | some c => .ok c
    | none => .error .invalidToml

/-- A configuration from what was read at a path, whose name tells the format. -/
def ofFile (path : String) (content : Except ReadFault (List UInt8)) :
    Except ConfigError Config :=
  match content with
  | .error fault => .error (.unreadable fault)
  | .ok bytes =>
    match Utf8.decode bytes with
    | .error _ => .error .notText
    | .ok s => ofText (.ofPath path) s

/-- A configuration from what was read at a path, refused when there is a problem with it. Every
problem is reported. -/
def ofFileChecked (path : String) (content : Except ReadFault (List UInt8)) :
    Except ConfigError Config × List Diagnostic :=
  match ofFile path content with
  | .error e => (.error e, [])
  | .ok c =>
    match c.validate with
    | .ok c => (.ok c, [])
    | .error problems => (.error (.invalid problems), problems.map Problem.diagnostic)

end Config

end LogLayout
