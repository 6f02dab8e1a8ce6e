import LogLayout.Yaml.Document

namespace LogLayout.Yaml

/-- Reads the directives before a document. The version is given once at most and has to be one
that is known, and no handle is given twice. -/
def readDirectives (versioned : Bool) (handles : TagHandles) :
    List Token → Option (TagHandles × List Token)
  | .version major minor :: rest =>
    if versioned || major ≠ 1 || (minor ≠ 1 && minor ≠ 2) then none
    else readDirectives true handles rest
  | .tagHandle handle start :: rest =>
    if (handles.lookup handle).isSome then none
    else readDirectives versioned (handles ++ [(handle, start)]) rest
  | ts => some (handles, ts)

/-- Whether a token stands where the content of a document would. -/
def endsDocument : Token → Bool
  | .version .. | .tagHandle .. | .documentStart | .documentEnd => true
  | _ => false

/-- Whether a token can start a document that has a marker. -/
def startsMarked : Token → Bool
  | .version .. | .tagHandle .. | .documentStart => true
  | _ => false

/-- Reads a document with a marker in front of it. Nothing after the marker is an empty node. -/
def readMarkedDocument (ts : List Token) : Option (Node String × List Token) :=
  match readDirectives false [] ts with
  | some (handles, .documentStart :: rest) =>
    if rest.head?.all endsDocument then some (Node.empty {}, rest)
    else readNode (handles ++ defaultHandles) rest
  | _ => none

/-- Reads a document; the first of a stream needs no marker. -/
def readDocument (first : Bool) (ts : List Token) : Option (Node String × List Token) :=
  if first && !ts.head?.any startsMarked then readNode defaultHandles ts
  else readMarkedDocument ts

/-- Passes over markers that end documents, which the first document cannot start with. -/
def skipEnds (first : Bool) (ts : List Token) : List Token :=
  if first then ts else ts.dropWhile (· = .documentEnd)

/-- Reads the documents of a stream to its end. -/
def readDocuments (first : Bool) (ts : List Token) : Option (List (Node String)) :=
  match skipEnds first ts with
  | [] => some []
  | t :: rest =>
    match readDocument first (t :: rest) with
    | none => none
    | some (document, after) =>
      if after.length < ts.length then
        (readDocuments false after).map (document :: ·)
      else none
termination_by ts.length

/-- The documents of YAML text. -/
def documents? (s : String) : Option (List (Node String)) :=
  (tokens? s).bind (readDocuments true)

end LogLayout.Yaml
