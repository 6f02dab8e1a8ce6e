import LogLayout.Config
import LogLayout.Toml.Document

namespace LogLayout.Config

open Toml (Value Entries)

/-- A text. -/
def tomlText? : Value → Option String
  | .string s => some s
  | _ => none

/-- A layout from its texts, of which only the description may be missing. -/
def tomlParts? (id pattern description : Option Value) : Option LayoutConfig := do
  return {
    id := ← tomlText? (← id)
    pattern := ← tomlText? (← pattern)
    description := ← match description with
      | some d => (tomlText? d).map some
      | none => some none }

/-- A layout from the entries of a table. -/
def tomlTable? (entries : Entries) : Option LayoutConfig :=
  tomlParts? (entries.lookup "id") (entries.lookup "pattern") (entries.lookup "description")

/-- A layout from a value: a table, whose other keys are passed over, or an array of the texts in
the order in which they are listed. -/
def tomlLayout? : Value → Option LayoutConfig
  | .table _ entries => tomlTable? entries
  | .array items => tomlParts? items[0]? items[1]? items[2]?
  | _ => none

/-- A configuration from TOML text. -/
def ofToml? (s : String) : Option Config := do
  match (← Toml.ofText? s).lookup "layouts" with
  | none => return {}
  | some (.array items) => return ⟨← items.mapM tomlLayout?⟩
  | some (.tables items) => return ⟨← items.mapM tomlTable?⟩
  | some _ => none

end LogLayout.Config
