import LogLayout.Yaml.Block
import LogLayout.Yaml.Plain
import LogLayout.Yaml.Tag

namespace LogLayout.Yaml

/-- A place where a key may have started. A key without an indicator is known as one only at the
colon after it, and its tokens are put in at this place then. -/
structure KeyStart where
  /-- The number of tokens before the key. -/
  before : Nat
  /-- Nothing but a key can stand at the place. -/
  required : Bool
  index : Nat
  line : Nat
  column : Nat

/-- A key stays on one line and within this many bytes. -/
def KeyStart.reach : Nat := 1024

/-- A reader between two tokens. -/
structure TokenReader where
  cursor : Cursor
  tokens : Array Token := #[]
  /-- The indentation of the innermost block; outside of all blocks it is one less than none. -/
  indent : Int := -1
  /-- The indentations of the blocks around it, innermost first. -/
  outer : List Int := []
  /-- Where a key may have started: in the innermost flow collection first, and in the block
  around them last. -/
  keyStarts : List (Option KeyStart) := [none]
  /-- Whether a key may start here. -/
  keyAllowed : Bool := true

namespace TokenReader

/-- Whether a flow collection is open. -/
def inFlow (r : TokenReader) : Bool := 1 < r.keyStarts.length

/-- The reader after one more token, which takes `n` characters. -/
def push (r : TokenReader) (t : Token) (n : Nat) : TokenReader :=
  { r with tokens := r.tokens.push t, cursor := r.cursor.skip n }

/-- Allows or forbids a key here. -/
def allowKey (r : TokenReader) (allowed : Bool) : TokenReader :=
  { r with keyAllowed := allowed }

/-- Passes over a byte order mark at the start of a line, blanks, comments and line breaks. A tab
does not indent, so where a key may start it is left alone. -/
def skipGap (r : TokenReader) : Option TokenReader := do
  let (keyAllowed, cursor) ← r.cursor.iterate (fun (allowed : Bool) c =>
    let c := if c.column = 0 && c.atChar '\ufeff' then c.skip 1 else c
    let c := c.skipWhile fun x => x == ' ' || ((r.inFlow || !allowed) && x == '\t')
    let c := if c.atChar '#' then c.skipWhile (!isBreak ·) else c
    if c.next isBreak then some (.more (allowed || !r.inFlow) c.skipBreak)
    else some (.done allowed c)) r.keyAllowed
  return { r with keyAllowed, cursor }

/-- Forgets key starts that are out of reach. -/
def dropStaleKeys (r : TokenReader) : Option TokenReader := do
  let keyStarts ← r.keyStarts.mapM fun
    | none => some none
    | some k =>
      if k.line < r.cursor.line || k.index + KeyStart.reach < r.cursor.index then
        if k.required then none else some none
      else some (some k)
  return { r with keyStarts }

/-- Forgets the innermost key start. -/
def forgetKey (r : TokenReader) : Option TokenReader :=
  match r.keyStarts with
  | some k :: outer => if k.required then none else some { r with keyStarts := none :: outer }
  | _ => some r

/-- Remembers that a key may start here. -/
def rememberKey (r : TokenReader) : Option TokenReader :=
  if r.keyAllowed then do
    let c := r.cursor
    let start : KeyStart := {
      before := r.tokens.size
      required := !r.inFlow && r.indent == c.column
      index := c.index, line := c.line, column := c.column }
    let r ← r.forgetKey
    return { r with keyStarts := some start :: r.keyStarts.drop 1 }
  else some r

/-- Opens a block at a column that is indented further; its token goes before the tokens from
`number` on. -/
def openBlock (r : TokenReader) (column number : Nat) (t : Token) : TokenReader :=
  if !r.inFlow && r.indent < column then
    { r with
      indent := column, outer := r.indent :: r.outer
      tokens := r.tokens.take number ++ #[t] ++ r.tokens.drop number }
  else r

/-- Opens a block at the place of the reader. -/
def openBlockHere (r : TokenReader) (t : Token) : TokenReader :=
  r.openBlock r.cursor.column r.tokens.size t

/-- Closes the blocks that are indented further than a column. -/
def closeBlocks (r : TokenReader) (column : Int) : TokenReader :=
  if r.inFlow then r
  else
    let rec close (indent : Int) (tokens : Array Token) : List Int → TokenReader
      | [] => { r with indent, tokens, outer := [] }
      | next :: outer =>
        if column < indent then close next (tokens.push .blockEnd) outer
        else { r with indent, tokens, outer := next :: outer }
    close r.indent r.tokens r.outer

/-- Ends all blocks at a document marker, a directive or the end of the text. -/
def endBlocks (r : TokenReader) : Option TokenReader := do
  let r ← (r.closeBlocks (-1)).forgetKey
  return r.allowKey false

/-- Reads the start of a flow collection. -/
def openFlow (r : TokenReader) (t : Token) : Option TokenReader := do
  let r ← r.rememberKey
  return ({ r with keyStarts := none :: r.keyStarts }.allowKey true).push t 1

/-- Reads the end of a flow collection. -/
def closeFlow (r : TokenReader) (t : Token) : Option TokenReader := do
  let r ← r.forgetKey
  let keyStarts := if r.inFlow then r.keyStarts.drop 1 else r.keyStarts
  return ({ r with keyStarts }.allowKey false).push t 1

/-- Reads the indicator of an entry of a block sequence. -/
def readBlockEntry (r : TokenReader) : Option TokenReader := do
  guard (r.inFlow || r.keyAllowed)
  let r ← (r.openBlockHere .blockSequenceStart).forgetKey
  return (r.allowKey true).push .blockEntry 1

/-- Reads the indicator of a key. -/
def readKey (r : TokenReader) : Option TokenReader := do
  guard (r.inFlow || r.keyAllowed)
  let r ← (r.openBlockHere .blockMappingStart).forgetKey
  return (r.allowKey (!r.inFlow)).push .key 1

/-- Reads the colon before a value. When a key may have started before it, that was one. -/
def readValue (r : TokenReader) : Option TokenReader :=
  match r.keyStarts with
  | some k :: outer =>
    let tokens := r.tokens.take k.before ++ #[Token.key] ++ r.tokens.drop k.before
    let r := { r with tokens, keyStarts := none :: outer }
    some (((r.openBlock k.column k.before .blockMappingStart).allowKey false).push .value 1)
  | _ => do
    guard (r.inFlow || r.keyAllowed)
    let r := r.openBlockHere .blockMappingStart
    return (r.allowKey (!r.inFlow)).push .value 1

/-- Adds a token that ends at a cursor. -/
def accept (r : TokenReader) (t : Token) (after : Cursor) : TokenReader :=
  { r with tokens := r.tokens.push t, cursor := after }

/-- Reads a token that can stand at the start of a key and is no key by itself. -/
def readPart (r : TokenReader) (read : Cursor → Option (Token × Cursor)) :
    Option TokenReader := do
  let r ← r.rememberKey
  let (t, after) ← read r.cursor
  return (r.allowKey false).accept t after

/-- Reads a plain scalar. A key may follow it on a new line. -/
def readPlainScalar (r : TokenReader) : Option TokenReader := do
  let r ← r.rememberKey
  let (scalar, after) ← readPlain r.inFlow (r.indent + 1).toNat r.cursor
  return (r.allowKey scalar.breaksAfter).accept (.scalar true scalar.text) after

/-- Reads a block scalar. -/
def readBlockScalar (r : TokenReader) : Option TokenReader := do
  let r ← r.forgetKey
  let (text, after) ← readBlock r.indent r.cursor
  return (r.allowKey true).accept (.scalar false text) after

/-- Whether a plain scalar may start here. -/
def startsPlain (r : TokenReader) : Bool :=
  let c := r.cursor
  (!c.gapAhead 0 && !c.next ("-?:,[]\x7b\x7d#&*!|>'\"%@\x60".toList.contains ·)) ||
    (c.atChar '-' && !c.ahead 1 isBlank) ||
    (!r.inFlow && (c.atChar '?' || c.atChar ':') && !c.gapAhead 1)

/-- Reads the token at the cursor. -/
def readToken (r : TokenReader) (x : Char) : Option TokenReader :=
  let c := r.cursor
  if c.column = 0 && x = '%' then do
    let r ← r.endBlocks
    let (t, after) ← readDirective r.cursor
    return r.accept t after
  else if c.atMarker '-' then return (← r.endBlocks).push .documentStart 3
  else if c.atMarker '.' then return (← r.endBlocks).push .documentEnd 3
  else if x = '[' then r.openFlow .flowSequenceStart
  else if x = '{' then r.openFlow .flowMappingStart
  else if x = ']' then r.closeFlow .flowSequenceEnd
  else if x = '}' then r.closeFlow .flowMappingEnd
  else if x = ',' then return ((← r.forgetKey).allowKey true).push .flowEntry 1
  else if x = '-' && c.gapAhead 1 then r.readBlockEntry
  else if x = '?' && (r.inFlow || c.gapAhead 1) then r.readKey
  else if x = ':' && (r.inFlow || c.gapAhead 1) then r.readValue
  else if x = '*' then
    r.readPart fun c => (readName (c.skip 1)).map fun (name, after) => (.alias name, after)
  else if x = '&' then
    r.readPart fun c => (readName (c.skip 1)).map fun (name, after) => (.anchor name, after)
  else if x = '!' then
    r.readPart fun c => (readTag r.inFlow c).map fun (t, after) => (.tag t, after)
  else if (x = '|' || x = '>') && !r.inFlow then r.readBlockScalar
  else if x = '\x27' || x = '"' then
    r.readPart fun c => (readQuoted c).map fun (text, after) => (.scalar false text, after)
  else if r.startsPlain then r.readPlainScalar
  else none

/-- Passes over what stands between tokens, and closes the blocks that end there. -/
def advance (r : TokenReader) : Option TokenReader := do
  let r ← r.skipGap
  let r ← r.dropStaleKeys
  return r.closeBlocks r.cursor.column

/-- Reads the tokens to the end of the text, `limit` at most. -/
def run : Nat → TokenReader → Option (Array Token)
  | 0, _ => none
  | limit + 1, r => do
    let r ← r.advance
    match r.cursor.rest with
    | [] => return (← r.endBlocks).tokens
    | x :: _ => run limit (← r.readToken x)

end TokenReader

/-- The tokens of YAML text. Each takes at least one character, so there are no more of them than
characters. -/
def tokens? (s : String) : Option (List Token) :=
  let text := s.toList
  if text.all isAllowed then
    (TokenReader.run (text.length + 1) { cursor := { rest := text } }).map Array.toList
  else none

end LogLayout.Yaml
