namespace LogLayout.Yaml

/-- What stands before a node: its anchor and its tag. -/
structure Properties (ref : Type) where
  anchor : Option ref := none
  tag : Option String := none

/-- A node of a document; `ref` is what anchors and aliases are told apart by. -/
inductive Node (ref : Type) where
  /-- A scalar, which is plain when it is written without quotes. -/
  | scalar (props : Properties ref) (plain : Bool) (text : String)
  | sequence (props : Properties ref) (items : List (Node ref))
  | mapping (props : Properties ref) (entries : List (Node ref × Node ref))
  | alias (target : ref)

namespace Node

instance {ref : Type} : Inhabited (Node ref) := ⟨.scalar {} true ""⟩

/-- The node that stands where nothing is written. -/
def empty {ref : Type} (props : Properties ref) : Node ref := .scalar props true ""

end Node

/-- The names of anchors with their slots, latest first. Names can be used again: a new anchor takes
the slot whose number is that of the names in use, and a slot stands for the last node that took
it. -/
abbrev Anchors := List (String × Nat)

/-- The slot of the anchor of a node, when a name is bound to it. -/
def Anchors.bind (anchors : Anchors) (name : Option String) : Option Nat × Anchors :=
  match name with
  | none => (none, anchors)
  | some name =>
    let slot := (anchors.map (·.1)).eraseDups.length
    (some slot, (name, slot) :: anchors)

mutual

/-- A node with slots for names, in the order in which the names are written. An alias has to
name an anchor before it. -/
def Node.withSlots (anchors : Anchors) : Node String → Option (Node Nat × Anchors)
  | .scalar props plain text =>
    let (anchor, anchors) := anchors.bind props.anchor
    some (.scalar { anchor, tag := props.tag } plain text, anchors)
  | .sequence props items => do
    let (anchor, anchors) := anchors.bind props.anchor
    let (items, anchors) ← itemsWithSlots anchors items
    return (.sequence { anchor, tag := props.tag } items, anchors)
  | .mapping props entries => do
    let (anchor, anchors) := anchors.bind props.anchor
    let (entries, anchors) ← entriesWithSlots anchors entries
    return (.mapping { anchor, tag := props.tag } entries, anchors)
  | .alias name => do
    return (.alias (← anchors.lookup name), anchors)

/-- Items with slots for names. -/
def itemsWithSlots (anchors : Anchors) : List (Node String) → Option (List (Node Nat) × Anchors)
  | [] => some ([], anchors)
  | item :: rest => do
    let (item, anchors) ← item.withSlots anchors
    let (rest, anchors) ← itemsWithSlots anchors rest
    return (item :: rest, anchors)

/-- Entries with slots for names. -/
def entriesWithSlots (anchors : Anchors) :
    List (Node String × Node String) → Option (List (Node Nat × Node Nat) × Anchors)
  | [] => some ([], anchors)
  | (key, value) :: rest => do
    let (key, anchors) ← key.withSlots anchors
    let (value, anchors) ← value.withSlots anchors
    let (rest, anchors) ← entriesWithSlots anchors rest
    return ((key, value) :: rest, anchors)

end

namespace Node

/-- The anchor of a node. -/
def anchor? {ref : Type} : Node ref → Option ref
  | .scalar props .. => props.anchor
  | .sequence props _ => props.anchor
  | .mapping props _ => props.anchor
  | .alias _ => none

end Node

mutual

/-- The size of a node: scalars and aliases count once, and collections twice besides what is in
them, for where they start and where they end. -/
def Node.size {ref : Type} : Node ref → Nat
  | .scalar .. | .alias _ => 1
  | .sequence _ items => 2 + sizeOfItems items
  | .mapping _ entries => 2 + sizeOfEntries entries

/-- The size of items together. -/
def sizeOfItems {ref : Type} : List (Node ref) → Nat
  | [] => 0
  | item :: rest => item.size + sizeOfItems rest

/-- The size of entries together. -/
def sizeOfEntries {ref : Type} : List (Node ref × Node ref) → Nat
  | [] => 0
  | (key, value) :: rest => key.size + value.size + sizeOfEntries rest

end

mutual

/-- The last node that took a slot, in the order in which nodes start. -/
def Node.find? (n : Node Nat) (slot : Nat) : Option (Node Nat) :=
  let own := if n.anchor? = some slot then some n else none
  match n with
  | .sequence _ items => (findInItems? slot items).or own
  | .mapping _ entries => (findInEntries? slot entries).or own
  | _ => own

/-- The last node among items that took a slot. -/
def findInItems? (slot : Nat) : List (Node Nat) → Option (Node Nat)
  | [] => none
  | item :: rest => (findInItems? slot rest).or (item.find? slot)

/-- The last node among entries that took a slot. -/
def findInEntries? (slot : Nat) : List (Node Nat × Node Nat) → Option (Node Nat)
  | [] => none
  | (key, value) :: rest =>
    (findInEntries? slot rest).or ((value.find? slot).or (key.find? slot))

end

end LogLayout.Yaml
