import LogLayout.Config
import LogLayout.Yaml.Stream

namespace LogLayout.Config

open Yaml (Node)

/-- Whether a node is where nothing is written. -/
def isNothing : Node Nat → Bool
  | .scalar _ plain text => plain && text = ""
  | _ => false

/-- Reading out of a document. The state is the number of aliases that were followed. -/
abbrev YamlReading := StateT Nat Option

/-- The node that a node stands for. -/
def follow (document n : Node Nat) : YamlReading (Node Nat) := do
  match n with
  | .alias slot =>
    modify (· + 1)
    document.find? slot
  | n => return n

/-- The text of a scalar, as it is written, whatever it looks like. -/
def yamlText (document n : Node Nat) : YamlReading String := do
  match ← follow document n with
  | .scalar _ _ text => return text
  | _ => failure

/-- The spellings of a missing value. -/
def isNull (text : String) : Bool :=
  ["null", "Null", "NULL", "~"].contains text

/-- An optional text. A plain scalar without a tag can say that there is none; one with the tag
of missing values has to say so, and all others are text. -/
def optionalText? (tag : Option String) (plain : Bool) (text : String) : Option (Option String) :=
  if !plain then some (some text)
  else
    match tag with
    | some tag =>
      if tag = "tag:yaml.org,2002:null" then if isNull text then some none else none
      else some (some text)
    | none => if text = "" || isNull text then some none else some (some text)

/-- The optional text of a scalar. -/
def yamlOptionalText (document n : Node Nat) : YamlReading (Option String) := do
  match ← follow document n with
  | .scalar props plain text => optionalText? props.tag plain text
  | _ => failure

/-- The members of a mapping under known keys; others are passed over. Keys are scalars, and none of
the known ones comes twice. -/
def yamlMembers (known : List String) (document n : Node Nat) :
    YamlReading (List (String × Node Nat)) := do
  match ← follow document n with
  | .mapping _ entries =>
    let members ← entries.mapM fun e => do return (← yamlText document e.1, e.2)
    let members := members.filter fun m => known.contains m.1
    guard (known.all fun key => members.countP (·.1 = key) ≤ 1)
    return members
  | n => if isNothing n then return [] else failure

/-- A layout from a node. -/
def yamlLayout (document n : Node Nat) : YamlReading LayoutConfig := do
  let members ← yamlMembers ["id", "pattern", "description"] document n
  return {
    id := ← yamlText document (← members.lookup "id")
    pattern := ← yamlText document (← members.lookup "pattern")
    description := ← match members.lookup "description" with
      | some d => yamlOptionalText document d
      | none => pure none }

/-- Layouts from a node. -/
def yamlLayouts (document n : Node Nat) : YamlReading (List LayoutConfig) := do
  match ← follow document n with
  | .sequence _ items => items.mapM (yamlLayout document)
  | n => if isNothing n then return [] else failure

/-- A configuration from the node of a document. -/
def yamlConfig (document : Node Nat) : YamlReading Config := do
  let members ← yamlMembers ["layouts"] document document
  match members.lookup "layouts" with
  | some layouts => return ⟨← yamlLayouts document layouts⟩
  | none => return {}

/-- How many aliases can be followed in a document of some size. More of them would let a short
document stand for a very long one. -/
def aliasLimit (size : Nat) : Nat := 100 * size

/-- A configuration from the node of a document, within the limit on aliases. -/
def ofNode? (document : Node Nat) : Option Config := do
  let (config, followed) ← (yamlConfig document).run 0
  guard (followed ≤ aliasLimit document.size)
  return config

/-- A configuration from YAML text of one document at most. -/
def ofYaml? (s : String) : Option Config := do
  match ← Yaml.documents? s with
  | [] => return {}
  | [document] => ofNode? (← document.withSlots []).1
  | _ => none

end LogLayout.Config
