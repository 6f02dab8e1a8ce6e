namespace LogLayout.Yaml

/-- How a tag is written: a handle that stands for the start of a tag, and the rest of it. -/
structure TagText where
  handle : String
  suffix : String
  deriving DecidableEq, Repr

/-- A token of YAML text. Blocks are told by their indentation, and have tokens of their own for
where they start and end. -/
inductive Token where
  | version (major minor : Nat)
  | tagHandle (handle start : String)
  | documentStart
  | documentEnd
  | blockSequenceStart
  | blockMappingStart
  | blockEnd
  | flowSequenceStart
  | flowSequenceEnd
  | flowMappingStart
  | flowMappingEnd
  | blockEntry
  | flowEntry
  | key
  | value
  | alias (name : String)
  | anchor (name : String)
  | tag (t : TagText)
  /-- A scalar; a plain one is written without quotes and block indicators. -/
  | scalar (plain : Bool) (text : String)
  deriving DecidableEq, Repr

end LogLayout.Yaml
