import LogLayout.Text.Segments

namespace LogLayout

/-- The formats in which a configuration can be written. -/
inductive ConfigFormat where
  | yaml
  | toml
  deriving DecidableEq, Repr

/-- The name of the file that a path leads to. Empty steps and steps to the same directory do
not count; a path that ends in a step upwards names no file. -/
def fileName? (path : String) : Option (List Char) :=
  ((Text.segments '/' path.toList).filter (fun s => s ≠ [] ∧ s ≠ ['.'])).getLast?.filter
    (· ≠ ['.', '.'])

/-- What follows the last dot of a file name. A dot in front hides a file and starts no
extension. -/
def extension? (name : List Char) : Option (List Char) :=
  let reversed := name.reverse
  match reversed.dropWhile (· ≠ '.') with
  | [] | [_] => none
  | _ :: _ :: _ => some (reversed.takeWhile (· ≠ '.')).reverse

namespace ConfigFormat

/-- TOML for files with the extension `toml`, in any case of its letters, and YAML for all
others. -/
def ofPath (path : String) : ConfigFormat :=
  match (fileName? path).bind extension? with
  | some ext => if ext.map Char.toLower = "toml".toList then .toml else .yaml
  | none => .yaml

end ConfigFormat

end LogLayout
