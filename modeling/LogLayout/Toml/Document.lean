import LogLayout.Toml.Number
import LogLayout.Toml.Value

namespace LogLayout.Toml

open Text (Reader)

/-- What was read, with the text that it was read from. -/
def withText (r : Reader Unit) : Reader String := fun cs =>
  (r cs).map fun (_, rest) => (String.ofList (cs.take (cs.length - rest.length)), rest)

/-- A value that holds no other values. -/
def scalar : Reader Value :=
  (string.map .string).orElse
    (((withText dateTime).map .dateTime).orElse
      (((withText (decimalFloat.orElse specialFloat)).map .float).orElse
        ((integer.map .integer).orElse
          (((Reader.exact "true".toList).map fun _ => .boolean true).orElse
            ((Reader.exact "false".toList).map fun _ => .boolean false)))))

/-- An array. Line ends and comments may stand between its items, and a comma after the last. -/
def array (value : Reader Value) : Reader Value :=
  (Reader.exact ['[']).thenRead
    ((((Reader.optional ((Reader.separated (gap.thenRead (value.before gap))
      (Reader.exact [','])).before (Reader.optional (Reader.exact [','])))).before gap).before
        (Reader.exact [']'])).map fun items => .array (items.getD []))

/-- The table of entries between braces. -/
def inlineEntries (entries : List ((List String × String) × Value)) : Option Entries :=
  entries.foldlM (fun table entry => table.addDotted entry.1.1 entry.1.2 entry.2) []

/-- A table between braces, on one line. -/
def inlineTable (value : Reader Value) : Reader Value :=
  (Reader.exact ['{']).thenRead
    ((((Reader.optional (Reader.separated
      ((key.before (Reader.exact ['='])).and (blanks.thenRead (value.before blanks)))
      (Reader.exact [',']))).before blanks).before (Reader.exact ['}'])).filterMap
        fun entries => (inlineEntries (entries.getD [])).map (.table .inline))

/-- A value in which others are nested less deep than `depth`. -/
def value : Nat → Reader Value
  | 0 => scalar
  | depth + 1 => scalar.orElse ((array (value depth)).orElse (inlineTable (value depth)))

/-- One statement of a document. -/
inductive Statement where
  /-- A value under a key. -/
  | pair (path : List String) (key : String) (value : Value)
  /-- What follows belongs to a table. -/
  | table (path : List String) (key : String)
  /-- What follows belongs to a new table of an array. -/
  | tables (path : List String) (key : String)

/-- A value under a key. -/
def pair : Reader Statement :=
  ((key.before (Reader.exact ['='])).and (blanks.thenRead (value (depthLimit - 1)))).map
    fun ((path, key), value) => .pair path key value

/-- The header of a table. -/
def header : Reader Statement := fun cs =>
  if ['[', '['].isPrefixOf cs then
    (((Reader.exact ['[', '[']).thenRead (key.before (Reader.exact [']', ']']))).map
      fun (path, key) => .tables path key) cs
  else
    (((Reader.exact ['[']).thenRead (key.before (Reader.exact [']']))).map
      fun (path, key) => .table path key) cs

/-- A line, which may hold a statement. -/
def line : Reader (Option Statement) :=
  blanks.thenRead
    (((comment.thenRead lineEnd).map fun _ => none).orElse
      ((newline.map fun _ => none).orElse
        (((header.orElse pair).before trailing).map some)))

/-- The statements of a document, after a byte order mark. -/
def statements? (s : String) : Option (List Statement) := do
  let cs := s.toList
  let cs := if cs.head? = some '\ufeff' then cs.drop 1 else cs
  let (lines, rest) ← Reader.many line cs
  guard (rest.all isBlank)
  return lines.filterMap id

/-- A document that is being filled. -/
structure Builder where
  root : Entries := []
  /-- The path of the table that pairs belong to. -/
  current : List String := []

namespace Builder

/-- Changes the table at the path of a header. -/
def at? (b : Builder) (path : List String) (change : Entries → Option Entries) :
    Option Entries :=
  Entries.update .implied Entries.headerMayEnter (fun _ => change) .header b.root path

/-- Takes one statement. A table must not be written twice, and a key must be new. -/
def add (b : Builder) : Statement → Option Builder
  | .pair path key value => do
    let root ← b.at? b.current fun entries => entries.addDotted path key value
    return { b with root }
  | .table path key => do
    let root ← b.at? path fun entries =>
      match entries.lookup key with
      | none => some (entries.put key (.table .header []))
      | some (.table .implied inner) => some (entries.put key (.table .header inner))
      | some _ => none
    return { root, current := path ++ [key] }
  | .tables path key => do
    let root ← b.at? path fun entries =>
      match entries.lookup key with
      | none => some (entries.put key (.tables [[]]))
      | some (.tables items) => some (entries.put key (.tables (items ++ [[]])))
      | some _ => none
    return { root, current := path ++ [key] }

end Builder

/-- The entries of a document. -/
def ofText? (s : String) : Option Entries := do
  let b ← (← statements? s).foldlM Builder.add {}
  return b.root

end LogLayout.Toml
