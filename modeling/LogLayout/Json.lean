namespace LogLayout

/-- A JSON string. An escape can name one half of a surrogate pair alone; such a string is valid
JSON, but there is no text that it stands for. -/
abbrev JsonText := Option String

/-- A JSON value. Members of an object stand in the order in which they are written, and a key
can come twice. -/
inductive Json where
  | null
  | bool (b : Bool)
  /-- A number as it is written. -/
  | number (digits : String)
  | string (s : JsonText)
  | array (items : List Json)
  | object (members : List (JsonText × Json))

namespace Json

instance : Inhabited Json := ⟨.null⟩

/-- The text of a JSON string. -/
def text? : Json → Option String
  | .string s => s
  | _ => none

end Json

end LogLayout
