import LogLayout.Text.Segments

namespace LogLayout

/-- Why a file cannot be read. -/
inductive ReadFault where
  | notFound
  /-- A step on the way to the file leads through something that is no directory. -/
  | notDirectory
  /-- The path leads to a directory. -/
  | isDirectory
  /-- A name on the way is longer than file systems allow. -/
  | nameTooLong
  /-- The path holds the character that no path can hold. -/
  | nulInPath
  /-- Any other reason, in the words of the system. -/
  | other (reason : String)
  deriving DecidableEq, Repr

/-- The fault in words. -/
def ReadFault.message : ReadFault → String
  | .notFound => "No such file or directory (os error 2)"
  | .notDirectory => "Not a directory (os error 20)"
  | .isDirectory => "Is a directory (os error 21)"
  | .nameTooLong => "File name too long (os error 36)"
  | .nulInPath => "file name contained an unexpected NUL byte"
  | .other reason => reason

/-- What stands under a name. -/
inductive FileEntry where
  | file (bytes : List UInt8)
  | directory

/-- Files and directories by their paths from the root of a tree. -/
abbrev FileTree := List (List String × FileEntry)

namespace FileTree

/-- The steps of a path that lead somewhere else. -/
def steps (path : String) : List String :=
  ((Text.segments '/' path.toList).map String.ofList).filter (· ≠ "")

/-- A tree of entries with written paths. -/
def ofList (entries : List (String × FileEntry)) : FileTree :=
  entries.map fun e => (steps e.1, e.2)

/-- What stands at a place in the tree. A directory may be known only by what is in it. -/
def entry? (tree : FileTree) (place : List String) : Option FileEntry :=
  if place = [] then some .directory
  else (tree.lookup place).or
    (if tree.any fun e => place.isPrefixOf e.1 then some .directory else none)

/-- What steps lead to that start outside of the tree, where nothing but directories around it is
known. -/
def outside (steps : List String) : Except ReadFault FileEntry :=
  if steps.all fun step => step = "." || step = ".." then .ok .directory else .error .notFound

/-- Walks from a directory along steps to what they lead to. -/
def walk (tree : FileTree) (place : List String) : List String → Except ReadFault FileEntry
  | [] => .ok ((tree.entry? place).getD .directory)
  | step :: rest =>
    if step = "." then walk tree place rest
    else if step = ".." then
      if place = [] then outside rest else walk tree place.dropLast rest
    else if 255 < step.utf8ByteSize then .error .nameTooLong
    else
      match tree.entry? (place ++ [step]) with
      | none => .error .notFound
      | some .directory => walk tree (place ++ [step]) rest
      | some (.file bytes) => if rest = [] then .ok (.file bytes) else .error .notDirectory

/-- The bytes of the file at a path. A path that ends in a slash leads to a directory. -/
def read (tree : FileTree) (path : String) : Except ReadFault (List UInt8) :=
  if path.toList.contains '\x00' then .error .nulInPath
  else if path = "" then .error .notFound
  else if 4095 < path.utf8ByteSize then .error .nameTooLong
  else
    let asDirectory := path.toList.getLast? = some '/'
    let place :=
      if path.toList.head? = some '/' then outside (steps path)
      else walk tree [] (steps path ++ if asDirectory then ["."] else [])
    match place with
    | .error fault => .error fault
    | .ok .directory => .error .isDirectory
    | .ok (.file bytes) => .ok bytes

/-- The bytes of the file at a path that continues the path of the tree's own directory. Where
nothing continues it, it leads to that directory. -/
def readWithin (tree : FileTree) (path : String) : Except ReadFault (List UInt8) :=
  if path = "" then .error .isDirectory else tree.read path

end FileTree

end LogLayout
