import LogLayout.Yaml.Node
import LogLayout.Yaml.Token.Reader

namespace LogLayout.Yaml

/-- What tag handles stand for. -/
abbrev TagHandles := List (String × String)

/-- The handles that need no directive. -/
def defaultHandles : TagHandles := [("!", "!"), ("!!", "tag:yaml.org,2002:")]

/-- The tag that is meant. A tag without a handle is whole, and an unknown handle means none. -/
def TagText.resolve (handles : TagHandles) (t : TagText) : Option String :=
  if t.handle = "" then some t.suffix
  else (handles.lookup t.handle).map (· ++ t.suffix)

/-- The anchor and the tag before a node, in either order, with the number of their tokens. -/
def readProperties (handles : TagHandles) : List Token → Option (Properties String × Nat)
  | .anchor name :: .tag t :: _ | .tag t :: .anchor name :: _ => do
    return ({ anchor := some name, tag := some (← t.resolve handles) }, 2)
  | .anchor name :: _ => some ({ anchor := some name }, 1)
  | .tag t :: _ => do return ({ tag := some (← t.resolve handles) }, 1)
  | _ => some ({}, 0)

/-- Whether a token of a block stands where a node would. -/
def endsBlockNode : Token → Bool
  | .key | .value | .blockEnd => true
  | _ => false

/-- Whether a token stands where an item of a block sequence would. A sequence that is not
indented ends where the mapping around it goes on. -/
def endsBlockItem (indentless : Bool) : Token → Bool
  | .blockEntry | .blockEnd => true
  | .key | .value => indentless
  | _ => false

/-- Whether a token stands where a node of a flow collection would; `closing` ends the
collection. -/
def endsFlowNode (closing : Token) (t : Token) : Bool :=
  t = closing || t = .flowEntry

/-- Takes the comma off that has to stand before every item but the first. -/
def afterComma (first : Bool) : List Token → Option (List Token)
  | .flowEntry :: rest => if first then some (.flowEntry :: rest) else some rest
  | ts => if first then some ts else none

mutual

/-- Reads a node. Only inside blocks are block collections allowed, and only as part of a block
mapping can a sequence stand without indentation. Where there are properties, the node itself
may be missing. -/
def readNodeWithin (handles : TagHandles) (block indentless : Bool) :
    Nat → List Token → Option (Node String × List Token)
  | 0, _ => none
  | limit + 1, ts =>
    match ts.head?, readProperties handles ts with
    | some (.alias name), _ => some (.alias name, ts.drop 1)
    | _, none => none
    | _, some (props, count) =>
      let missing := if count = 0 then none else some (Node.empty props, ts.drop count)
      match ts.drop count with
      | .scalar plain text :: rest => some (.scalar props plain text, rest)
      | .flowSequenceStart :: rest =>
        (readFlowItems handles true limit rest).map fun (items, rest) =>
          (.sequence props items, rest)
      | .flowMappingStart :: rest =>
        (readFlowEntries handles true limit rest).map fun (entries, rest) =>
          (.mapping props entries, rest)
      | .blockSequenceStart :: rest =>
        if block then
          (readBlockItems handles false limit rest).map fun (items, rest) =>
            (.sequence props items, rest)
        else missing
      | .blockMappingStart :: rest =>
        if block then
          (readBlockEntries handles limit rest).map fun (entries, rest) =>
            (.mapping props entries, rest)
        else missing
      | .blockEntry :: rest =>
        if indentless then
          (readBlockItems handles true limit (.blockEntry :: rest)).map fun (items, rest) =>
            (.sequence props items, rest)
        else missing
      | _ => missing

/-- Reads a node, or an empty one before a token that ends it. -/
def readNodeUnless (handles : TagHandles) (ends : Token → Bool) (block : Bool) :
    Nat → List Token → Option (Node String × List Token)
  | 0, _ => none
  | limit + 1, ts =>
    if ts.head?.any ends then some (Node.empty {}, ts)
    else readNodeWithin handles block block limit ts

/-- Reads the value of an entry, which may be missing with or without its indicator. -/
def readEntryValue (handles : TagHandles) (ends : Token → Bool) (block : Bool) :
    Nat → List Token → Option (Node String × List Token)
  | 0, _ => none
  | limit + 1, .value :: rest => readNodeUnless handles ends block limit rest
  | _ + 1, ts => some (Node.empty {}, ts)

/-- Reads the items of a block sequence. -/
def readBlockItems (handles : TagHandles) (indentless : Bool) :
    Nat → List Token → Option (List (Node String) × List Token)
  | 0, _ => none
  | limit + 1, .blockEntry :: rest => do
    let (item, after) ←
      if rest.head?.any (endsBlockItem indentless) then some (Node.empty {}, rest)
      else readNodeWithin handles true false limit rest
    let (items, after) ← readBlockItems handles indentless limit after
    return (item :: items, after)
  | _ + 1, ts =>
    if indentless then some ([], ts)
    else if ts.head? = some .blockEnd then some ([], ts.drop 1)
    else none

/-- Reads the entries of a block mapping. -/
def readBlockEntries (handles : TagHandles) :
    Nat → List Token → Option (List (Node String × Node String) × List Token)
  | 0, _ => none
  | limit + 1, .key :: rest => do
    let (key, after) ← readNodeUnless handles endsBlockNode true limit rest
    let (value, after) ← readEntryValue handles endsBlockNode true limit after
    let (entries, after) ← readBlockEntries handles limit after
    return ((key, value) :: entries, after)
  | _ + 1, ts => if ts.head? = some .blockEnd then some ([], ts.drop 1) else none

/-- Reads the items of a flow sequence. An item that is a key, with or without a value, stands
for a mapping of one entry. A key indicator without a key takes the next token with it. -/
def readFlowItems (handles : TagHandles) (first : Bool) :
    Nat → List Token → Option (List (Node String) × List Token)
  | 0, _ => none
  | limit + 1, ts =>
    if ts.head? = some .flowSequenceEnd then some ([], ts.drop 1)
    else
      match afterComma first ts with
      | none => none
      | some (.flowSequenceEnd :: rest) => some ([], rest)
      | some (.key :: rest) => do
        let (key, after) ←
          if rest.head?.any fun t => endsFlowNode .flowSequenceEnd t || t == Token.value then
            some (Node.empty {}, rest.drop 1)
          else readNodeWithin handles false false limit rest
        let (value, after) ←
          readEntryValue handles (endsFlowNode .flowSequenceEnd) false limit after
        let (items, after) ← readFlowItems handles false limit after
        return (Node.mapping {} [(key, value)] :: items, after)
      | some rest => do
        let (item, after) ← readNodeWithin handles false false limit rest
        let (items, after) ← readFlowItems handles false limit after
        return (item :: items, after)

/-- Reads the entries of a flow mapping. A node without an indicator is a key without a value. -/
def readFlowEntries (handles : TagHandles) (first : Bool) :
    Nat → List Token → Option (List (Node String × Node String) × List Token)
  | 0, _ => none
  | limit + 1, ts =>
    if ts.head? = some .flowMappingEnd then some ([], ts.drop 1)
    else
      match afterComma first ts with
      | none => none
      | some (.flowMappingEnd :: rest) => some ([], rest)
      | some (.key :: rest) => do
        let ends (t : Token) : Bool := endsFlowNode .flowMappingEnd t
        let (key, after) ←
          readNodeUnless handles (fun t => ends t || t == Token.value) false limit rest
        let (value, after) ← readEntryValue handles ends false limit after
        let (entries, after) ← readFlowEntries handles false limit after
        return ((key, value) :: entries, after)
      | some rest => do
        let (key, after) ← readNodeWithin handles false false limit rest
        let (entries, after) ← readFlowEntries handles false limit after
        return ((key, Node.empty {}) :: entries, after)

end

/-- Reads a node of a block. At most four readers start at the same token, so no more than four
times as many as there are tokens, and those at the end, are ever inside each other. -/
def readNode (handles : TagHandles) (ts : List Token) : Option (Node String × List Token) :=
  readNodeWithin handles true false (4 * ts.length + 4) ts

end LogLayout.Yaml
