namespace LogLayout.Toml

/-- How a table came about. That decides what may still be added to it. -/
inductive Origin where
  /-- By a header of its own, or as one of an array of tables. -/
  | header
  /-- By a header of a table inside it. -/
  | implied
  /-- By a dotted key. -/
  | dotted
  /-- As a value between braces. -/
  | inline
  deriving DecidableEq, Repr

/-- A TOML value. Numbers that are not whole, and dates and times, are kept as written. -/
inductive Value where
  | string (s : String)
  | integer (n : Int)
  | float (text : String)
  | boolean (b : Bool)
  | dateTime (text : String)
  | array (items : List Value)
  | table (origin : Origin) (entries : List (String × Value))
  /-- Tables that are written under headers with double brackets. -/
  | tables (items : List (List (String × Value)))

/-- The entries of a table. -/
abbrev Entries := List (String × Value)

namespace Entries

/-- The entries with another value under a key, which keeps its place. -/
def put (entries : Entries) (key : String) (value : Value) : Entries :=
  if (entries.lookup key).isSome then
    entries.map fun e => if e.1 = key then (key, value) else e
  else entries ++ [(key, value)]

/-- Whether a dotted key may go on into a table. -/
def dottedMayEnter : Origin → Bool
  | .implied | .dotted => true
  | .header | .inline => false

/-- Whether the path of a header may go on into a table. -/
def headerMayEnter : Origin → Bool
  | .header | .implied | .dotted => true
  | .inline => false

/-- Changes the table at a path. Tables that are missing on the way come about as `missing`, the
path may only go into tables that `mayEnter` accepts, and of an array of tables it takes the
last. -/
def update (missing : Origin) (mayEnter : Origin → Bool)
    (change : Origin → Entries → Option Entries) (origin : Origin) (entries : Entries) :
    List String → Option Entries
  | [] => change origin entries
  | key :: path =>
    match entries.lookup key with
    | none => do
      let inner ← update missing mayEnter change missing [] path
      return entries.put key (.table missing inner)
    | some (.table origin inner) =>
      if mayEnter origin then do
        let inner ← update missing mayEnter change origin inner path
        return entries.put key (.table origin inner)
      else none
    | some (.tables items) => do
      let last ← items.getLast?
      let last ← update missing mayEnter change .header last path
      return entries.put key (.tables (items.dropLast ++ [last]))
    | some _ => none

/-- Adds a value under a dotted key. The key must be new, and the table that a longer path leads
to has to be one of dotted keys. -/
def addDotted (entries : Entries) (path : List String) (key : String) (value : Value) :
    Option Entries :=
  update .dotted dottedMayEnter (fun origin inner =>
    if (path ≠ [] && origin ≠ .dotted) || (inner.lookup key).isSome then none
    else some (inner.put key value)) .header entries path

end Entries

end LogLayout.Toml
